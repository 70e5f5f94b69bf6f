import PocketStream.Frontend.RefreshLedger

/-! # No refresh is lost and no old reply is shown

What a step does to the flags, the fetch in flight and the counters is said once. The
flags follow the coalescer, and whatever is published moves a counter past the fetch
in flight.
-/

namespace PocketStream

open Foundation

namespace InterfaceWatcher

variable {w w' w₀ w₁ : InterfaceWatcher} {call : Call} {selection : AdapterSelection}
  {iface : InterfaceInfo}

/-! ### The view changes -/

/-- A change that leaves the fetch in flight, what is requested and the counters. -/
structure SameReads (w w' : InterfaceWatcher) : Prop where
  flight : w'.refreshFlight = w.refreshFlight
  trailing : w'.refreshTrailing = w.refreshTrailing
  queued : w'.eventRefreshQueued = w.eventRefreshQueued
  held : w'.addressBusy.isSome = w.addressBusy.isSome
  request : w'.interfaceRefresh = w.interfaceRefresh
  bindings : w'.bindingRefresh = w.bindingRefresh

theorem SameReads.trans (h : SameReads w w₁) (h' : SameReads w₁ w') : SameReads w w' where
  flight := h'.flight.trans h.flight
  trailing := h'.trailing.trans h.trailing
  queued := h'.queued.trans h.queued
  held := h'.held.trans h.held
  request := h'.request.trans h.request
  bindings := h'.bindings.trans h.bindings

theorem SameReads.coalescer (h : SameReads w w') : w'.coalescer = w.coalescer := by
  simp only [InterfaceWatcher.coalescer, h.flight, h.trailing, h.queued, h.held]

/-- The address operation is retired if and only if another adapter is selected. -/
def Retires (w w' : InterfaceWatcher) : Prop :=
  ∀ r ∈ w'.addressBusy, ∃ r₀ ∈ w.addressBusy, r = (r₀ || w'.adapterSelection.any w.replaces)

theorem replaces_self (w : InterfaceWatcher) : w.adapterSelection.any w.replaces = false := by
  unfold replaces
  cases w.adapterSelection with
  | none => rfl
  | some selection => simp

theorem retires_of_same (hb : w'.addressBusy = w.addressBusy)
    (hs : w'.adapterSelection = w.adapterSelection) : Retires w w' := by
  intro r hr
  exact ⟨r, hb ▸ hr, by rw [hs, replaces_self, Bool.or_false]⟩

theorem retires_of_free (h : w'.addressBusy = none) : Retires w w' :=
  fun _ hr => nomatch h.symm.trans hr

theorem reads_cancelPendingDown (w : InterfaceWatcher) : SameReads w w.cancelPendingDown := by
  unfold cancelPendingDown
  split <;> exact ⟨rfl, rfl, rfl, rfl, rfl, rfl⟩

theorem retires_cancelPendingDown (w : InterfaceWatcher) : Retires w w.cancelPendingDown := by
  unfold cancelPendingDown
  split <;> exact retires_of_same rfl rfl

theorem reads_applyUpEvent (w : InterfaceWatcher) (iface : InterfaceInfo) (wasDown : Bool) :
    SameReads w (w.applyUpEvent iface wasDown) := by
  cases hadoption : w.activeAdoptionId.isSome <;> cases wasDown <;>
    simp only [applyUpEvent, hadoption] <;> exact ⟨rfl, rfl, rfl, rfl, rfl, rfl⟩

theorem reads_rememberAdapterSelection (w : InterfaceWatcher) (selection : AdapterSelection) :
    SameReads w (w.rememberAdapterSelection selection) := by
  unfold rememberAdapterSelection
  dsimp only
  split
  · exact ⟨rfl, rfl, rfl, Option.isSome_map, rfl, rfl⟩
  · exact ⟨rfl, rfl, rfl, rfl, rfl, rfl⟩

theorem reads_applySelection (w : InterfaceWatcher) (selection : AdapterSelection) :
    SameReads w (w.applySelection selection) := by
  have hremembered := reads_rememberAdapterSelection w selection
  unfold applySelection
  dsimp only
  split
  · have hcancelled := hremembered.trans (reads_cancelPendingDown _)
    exact ⟨hcancelled.flight, hcancelled.trailing, hcancelled.queued, hcancelled.held,
      hcancelled.request, hcancelled.bindings⟩
  · exact ⟨hremembered.flight, hremembered.trailing, hremembered.queued, hremembered.held,
      hremembered.request, hremembered.bindings⟩

theorem retires_rememberAdapterSelection (w : InterfaceWatcher) (selection : AdapterSelection) :
    Retires w (w.rememberAdapterSelection selection) := by
  intro r hr
  unfold rememberAdapterSelection at hr ⊢
  dsimp only at hr ⊢
  cases hreplaced : w.replaces selection
  · rw [if_neg (ne_true_of_eq_false hreplaced)] at hr
    exact ⟨r, hr, by simp [hreplaced]⟩
  · rw [if_pos hreplaced] at hr
    obtain ⟨r₀, hr₀, rfl⟩ := Option.map_eq_some_iff.mp hr
    exact ⟨r₀, hr₀, by simp [hreplaced]⟩

theorem retires_applySelection (w : InterfaceWatcher) (selection : AdapterSelection) :
    Retires w (w.applySelection selection) := by
  have hremembered := retires_rememberAdapterSelection w selection
  unfold applySelection cancelPendingDown
  dsimp only
  split
  · split <;> exact hremembered
  · exact hremembered

/-! ### Requests -/

theorem coalescer_refreshInterfaces (w : InterfaceWatcher) :
    w.refreshInterfaces.coalescer = w.coalescer.request := by
  unfold refreshInterfaces Coalescer.request
  cases hb : w.addressBusy <;> cases hf : w.refreshFlight <;> simp [coalescer, hb, hf]

theorem refreshNetworkEvent_free (h : w.addressBusy = none) :
    w.refreshNetworkEvent =
      { w with bindingRefresh := w.bindingRefresh + 1, eventRefreshQueued := true } := by
  unfold refreshNetworkEvent
  cases w.eventRefreshQueued <;> simp [h]

theorem coalescer_refreshNetworkEvent (w : InterfaceWatcher) :
    w.refreshNetworkEvent.coalescer = w.coalescer.next .hear := by
  cases hb : w.addressBusy with
  | none =>
    rw [refreshNetworkEvent_free hb]
    simp [coalescer, Coalescer.next, hb]
  | some retired => simp [refreshNetworkEvent, coalescer, Coalescer.next, hb]

theorem fetchBegins_of_same (h : w'.refreshFlight = w.refreshFlight) : fetchBegins w w' = false := by
  unfold fetchBegins
  rw [h]
  cases w.refreshFlight <;> simp

theorem unsettled_of_same (h : w'.refreshFlight = w.refreshFlight) : w'.unsettled = w.unsettled := by
  unfold unsettled
  rw [h]

/-! ### One step -/

/-- What a step does to the flags, the fetch in flight and the counters. -/
structure Moves (w : InterfaceWatcher) (call : Call) (w' : InterfaceWatcher) : Prop where
  coalescer : w'.coalescer = w.coalescer.next (w.act call)
  begins : fetchBegins w w' = w.coalescer.begins (w.act call)
  request : w.interfaceRefresh ≤ w'.interfaceRefresh
  bindings : w.bindingRefresh ≤ w'.bindingRefresh
  /-- A fetch that has been in flight is older than what is published. -/
  dated : ∀ flight ∈ w'.unsettled,
    (flight ∈ w.unsettled ∧ (w.publishes call →
      w.interfaceRefresh < w'.interfaceRefresh ∨ w.bindingRefresh < w'.bindingRefresh)) ∨
    (fetchBegins w w' ∧ flight.request ≤ w'.interfaceRefresh ∧
      flight.bindings ≤ w'.bindingRefresh)
  count : w'.unsettled.isSome.toNat + call.isReply.toNat =
    w.unsettled.isSome.toNat + (fetchBegins w w').toNat
  retires : (∃ retired, call = .mutateAddress ∧ w'.addressBusy = some retired ∧ retired = false) ∨
    Retires w w'

/-- A step that leaves the fetch in flight. -/
theorem moves_same (hflight : w'.refreshFlight = w.refreshFlight)
    (hcoalescer : w'.coalescer = w.coalescer.next (w.act call))
    (hbegins : w.coalescer.begins (w.act call) = false)
    (hrequest : w.interfaceRefresh ≤ w'.interfaceRefresh)
    (hbindings : w.bindingRefresh ≤ w'.bindingRefresh)
    (hpublishes : w.publishes call →
      w.interfaceRefresh < w'.interfaceRefresh ∨ w.bindingRefresh < w'.bindingRefresh)
    (hreply : call.isReply = false)
    (hretires : (∃ retired, call = .mutateAddress ∧ w'.addressBusy = some retired ∧
      retired = false) ∨ Retires w w') : Moves w call w' where
  coalescer := hcoalescer
  begins := (fetchBegins_of_same hflight).trans hbegins.symm
  request := hrequest
  bindings := hbindings
  dated flight hf := .inl ⟨unsettled_of_same hflight ▸ hf, hpublishes⟩
  count := by rw [unsettled_of_same hflight, fetchBegins_of_same hflight, hreply]
  retires := hretires

/-- A step that changes the view only. -/
theorem SameReads.moves (h : SameReads w w') (hact : w.act call = .pass)
    (hpublishes : w.publishes call = false) (hreply : call.isReply = false)
    (hretires : Retires w w') : Moves w call w' :=
  moves_same h.flight (by rw [hact]; exact h.coalescer) (by rw [hact]; rfl) (Nat.le_of_eq h.request.symm)
    (Nat.le_of_eq h.bindings.symm)
    (fun hp => absurd hp (ne_true_of_eq_false hpublishes)) hreply (.inr hretires)

/-- A step that ends in a request. -/
theorem moves_request
    (hflight : w₁.refreshFlight = w.refreshFlight ∨ w₁.refreshFlight = none ∧ w.unsettled = none)
    (hcoalescer : w₁.coalescer.request = w.coalescer.next (w.act call))
    (hbegins : w.coalescer.begins (w.act call) = (!w₁.coalescer.held && !w₁.coalescer.running))
    (hrequest : w.interfaceRefresh ≤ w₁.interfaceRefresh)
    (hbindings : w.bindingRefresh ≤ w₁.bindingRefresh)
    (hpublishes : w.publishes call →
      w.interfaceRefresh < w₁.interfaceRefresh ∨ w.bindingRefresh < w₁.bindingRefresh)
    (hreply : call.isReply = false) (hretires : Retires w w₁) :
    Moves w call w₁.refreshInterfaces := by
  have hnext : w₁.refreshInterfaces.coalescer = w.coalescer.next (w.act call) :=
    (coalescer_refreshInterfaces w₁).trans hcoalescer
  by_cases hlate : w₁.coalescer.held || w₁.coalescer.running
  · have hstays : w₁.refreshInterfaces = { w₁ with refreshTrailing := true } := by
      unfold refreshInterfaces
      split
      · rfl
      next hfree => exact if_pos ((Bool.or_eq_true_iff.mp hlate).resolve_left hfree)
    have hnone : fetchBegins w { w₁ with refreshTrailing := true } = false := by
      rcases hflight with hsame | ⟨hidle, -⟩
      · exact fetchBegins_of_same hsame
      · simp [fetchBegins, hidle]
    have hunsettled : { w₁ with refreshTrailing := true }.unsettled = w.unsettled := by
      rcases hflight with hsame | ⟨hidle, hsettled⟩
      · exact unsettled_of_same hsame
      · simp [unsettled, hidle, hsettled.symm]
    rw [hstays] at hnext ⊢
    exact {
      coalescer := hnext
      begins := by
        rw [hnone, hbegins, ← Bool.not_or, hlate]
        rfl
      request := hrequest
      bindings := hbindings
      dated := fun flight hf => .inl ⟨hunsettled ▸ hf, hpublishes⟩
      count := by rw [hunsettled, hnone, hreply]
      retires := .inr hretires }
  · obtain ⟨hfree, hidle⟩ : w₁.addressBusy = none ∧ w₁.refreshFlight = none := by
      simpa [InterfaceWatcher.coalescer] using hlate
    have hstarts : w₁.refreshInterfaces =
        { w₁ with
          interfaceRefresh := w₁.interfaceRefresh + 1
          bindingRefresh := w₁.bindingRefresh + 1
          refreshTrailing := false
          refreshFlight := some ⟨w₁.interfaceRefresh + 1, w₁.bindingRefresh + 1, false⟩ } := by
      simp [refreshInterfaces, hfree, hidle]
    have hsettled : w.unsettled = none := by
      rcases hflight with hsame | ⟨-, hsettled⟩
      · simp [unsettled, ← hsame, hidle]
      · exact hsettled
    have hbegun : fetchBegins w w₁.refreshInterfaces = true := by
      rw [hstarts]
      simp only [fetchBegins, Option.any_some, Bool.not_false, Bool.true_and, bne_iff_ne]
      intro hw
      simp [unsettled, hw] at hsettled
    exact {
      coalescer := hnext
      begins := by
        rw [hbegun, hbegins, ← Bool.not_or, eq_false_of_ne_true hlate]
        rfl
      request := by
        rw [hstarts]
        exact Nat.le_succ_of_le hrequest
      bindings := by
        rw [hstarts]
        exact Nat.le_succ_of_le hbindings
      dated := fun flight hf => by
        rw [hstarts] at hf
        obtain rfl := Option.some.inj hf
        exact .inr ⟨hbegun, hstarts ▸ Nat.le_refl _, hstarts ▸ Nat.le_refl _⟩
      count := by
        rw [hbegun, hsettled, hreply, hstarts]
        rfl
      retires := .inr fun r hr => by
        rw [hstarts] at hr
        cases hfree.symm.trans hr }

theorem Moves.hear (h : Moves w call w') (o : Option Outage) :
    Moves w call { w' with outage := o } :=
  ⟨h.coalescer, h.begins, h.request, h.bindings, h.dated, h.count, h.retires⟩

/-- A request that is part of a burst, perhaps after the other counter has moved. -/
theorem moves_hear (hact : w.act call = .hear) (hreply : call.isReply = false)
    (hreads : SameReads w₁.refreshNetworkEvent w') (hflight : w₁.refreshFlight = w.refreshFlight)
    (hcoalescer : w₁.coalescer = w.coalescer) (hrequest : w.interfaceRefresh ≤ w₁.interfaceRefresh)
    (hbindings : w₁.bindingRefresh = w.bindingRefresh) (hretires : Retires w w') :
    Moves w call w' := by
  have hkept : w₁.refreshNetworkEvent.refreshFlight = w₁.refreshFlight ∧
      w₁.refreshNetworkEvent.interfaceRefresh = w₁.interfaceRefresh ∧
      w₁.refreshNetworkEvent.bindingRefresh = w₁.bindingRefresh + 1 := by
    unfold refreshNetworkEvent
    dsimp only
    split
    · exact ⟨rfl, rfl, rfl⟩
    · split <;> exact ⟨rfl, rfl, rfl⟩
  obtain ⟨hflight₁, hrequest₁, hbindings₁⟩ := hkept
  have hless : w.bindingRefresh < w'.bindingRefresh := by
    rw [hreads.bindings, hbindings₁, hbindings]
    exact Nat.lt_succ_self _
  refine moves_same ((hreads.flight.trans hflight₁).trans hflight) ?_ (hact ▸ rfl) ?_ (Nat.le_of_lt hless)
    (fun _ => .inr hless) hreply (.inr hretires)
  · rw [hreads.coalescer, coalescer_refreshNetworkEvent, hcoalescer, hact]
  · rw [hreads.request, hrequest₁]
    exact hrequest

theorem moves_interfaceStatusChanged (w : InterfaceWatcher) (iface : InterfaceInfo) :
    Moves w (.interfaceStatusChanged iface) (w.interfaceStatusChanged iface) := by
  have hpass (h : w.statusAsks iface = false) : w.act (.interfaceStatusChanged iface) = .pass :=
    if_neg (ne_true_of_eq_false h)
  have hasks (h : w.statusAsks iface = true) : w.act (.interfaceStatusChanged iface) = .hear :=
    if_pos h
  unfold interfaceStatusChanged
  split
  next hother =>
    have hother : w.watches iface = false := by simpa using hother
    exact SameReads.moves ⟨rfl, rfl, rfl, rfl, rfl, rfl⟩ (hpass (by simp [statusAsks, hother]))
      (by simp [publishes, hother]) rfl (retires_of_same rfl rfl)
  next hwatched =>
  have hwatched : w.watches iface = true := by simpa using hwatched
  split
  next hbusy =>
    -- an address operation puts the request off
    have hact := hasks (by simp [statusAsks, hwatched, hbusy])
    refine moves_same rfl ?_ (hact ▸ rfl) (Nat.le_refl _) (Nat.le_refl _) ?_ rfl
      (.inr (retires_of_same rfl rfl))
    · rw [hact]
      exact (if_pos hbusy).symm
    · simp [publishes, hbusy]
  next hfree =>
  split
  next hsame =>
    have hact := hpass (by simp [statusAsks, hfree, hsame])
    have hsilent : w.publishes (.interfaceStatusChanged iface) = false := by
      simp [publishes, hsame]
    split
    · exact (reads_cancelPendingDown w).moves hact hsilent rfl
        (retires_cancelPendingDown w)
    · exact SameReads.moves ⟨rfl, rfl, rfl, rfl, rfl, rfl⟩ hact hsilent rfl
        (retires_of_same rfl rfl)
  next hdiffers =>
  have hact := hasks (by simp [statusAsks, hwatched, hdiffers])
  have hfree : w.addressBusy = none := by simpa using hfree
  have hheard := refreshNetworkEvent_free
    (w := { w with interfaceRefresh := w.interfaceRefresh + 1 }) hfree
  have hmoves {w' : InterfaceWatcher}
      (hreads : SameReads { w with interfaceRefresh := w.interfaceRefresh + 1 }.refreshNetworkEvent
        w') : Moves w (.interfaceStatusChanged iface) w' := by
    refine moves_hear hact rfl hreads rfl rfl (Nat.le_succ _) rfl (retires_of_free ?_)
    have hheld := hreads.held
    rw [hheard] at hheld
    simpa [hfree] using hheld
  dsimp only
  split
  · exact hmoves ⟨rfl, rfl, rfl, rfl, rfl, rfl⟩
  split
  · exact hmoves ⟨rfl, rfl, rfl, rfl, rfl, rfl⟩
  · exact hmoves ((reads_cancelPendingDown _).trans (reads_applyUpEvent _ _ _))

theorem moves_adapterSelectionChanged (w : InterfaceWatcher) (selection : AdapterSelection) :
    Moves w (.adapterSelectionChanged selection) (w.adapterSelectionChanged selection) := by
  have hpass (h : w.selectionAsks selection = false) :
      w.act (.adapterSelectionChanged selection) = .pass :=
    if_neg (ne_true_of_eq_false h)
  unfold adapterSelectionChanged
  split
  next hsame =>
    exact SameReads.moves ⟨rfl, rfl, rfl, rfl, rfl, rfl⟩ (hpass (by simp [selectionAsks, hsame]))
      (by simp [publishes, hsame]) rfl (retires_of_same rfl rfl)
  next hdiffers =>
  dsimp only
  split
  next hverified =>
    have hact : w.act (.adapterSelectionChanged selection) = .hear :=
      if_pos (by simpa [selectionAsks, hdiffers] using hverified)
    have hfree : w.addressBusy = none := by
      simpa using (Bool.and_eq_true_iff.mp hverified).2
    have hheard := refreshNetworkEvent_free
      (w := { w with interfaceRefresh := w.interfaceRefresh + 1 }) hfree
    exact moves_hear hact rfl ⟨rfl, rfl, rfl, rfl, rfl, rfl⟩ rfl rfl (Nat.le_succ _) rfl
      (retires_of_free (by rw [hheard]; exact hfree))
  next htaken =>
    have hact := hpass (by
      rw [selectionAsks, eq_false_of_ne_true htaken]
      exact Bool.and_false _)
    have hreads := reads_rememberAdapterSelection
      { w with interfaceRefresh := w.interfaceRefresh + 1 } selection
    have hless : w.interfaceRefresh <
        ({ w with interfaceRefresh := w.interfaceRefresh + 1 }.rememberAdapterSelection
          selection).interfaceRefresh := by
      rw [hreads.request]
      exact Nat.lt_succ_self _
    refine moves_same hreads.flight ?_ (hact ▸ rfl) (Nat.le_of_lt hless)
      (Nat.le_of_eq hreads.bindings.symm) (fun _ => .inl hless) rfl
      (.inr (retires_rememberAdapterSelection _ selection))
    rw [hact]
    exact hreads.coalescer

/-- A reply settles the fetch; what it shows is no matter of reads. -/
theorem reads_fetchReply (w : InterfaceWatcher) (flight : Flight) (reply : FetchReply) :
    SameReads { w with refreshFlight := some { flight with settled := true } }
        (w.fetchReply flight reply) ∧
      Retires w (w.fetchReply flight reply) := by
  have hrefl {w : InterfaceWatcher} : SameReads w w := ⟨rfl, rfl, rfl, rfl, rfl, rfl⟩
  unfold fetchReply
  dsimp only
  split
  · exact ⟨hrefl, retires_of_same rfl rfl⟩
  cases reply with
  | nothing => exact ⟨hrefl, retires_of_same rfl rfl⟩
  | selection selection =>
    have hreads := reads_applySelection
      { w with
        refreshFlight := some { flight with settled := true }
        verifiedAddressView := false } selection
    exact ⟨⟨hreads.flight, hreads.trailing, hreads.queued, hreads.held, hreads.request,
      hreads.bindings⟩, retires_applySelection _ selection⟩
  | failed =>
    dsimp only
    split
    · exact ⟨hrefl, retires_of_same rfl rfl⟩
    · split
      next selection hselected =>
        exact ⟨reads_applySelection _ selection, retires_applySelection _ selection⟩
      next => exact ⟨hrefl, retires_of_same rfl rfl⟩

theorem moves_fetchReply {flight : Flight} (hflight : w.refreshFlight = some flight)
    (hsettled : flight.settled = false) (reply : FetchReply) :
    Moves w (.fetchReply reply) (w.fetchReply flight reply) := by
  obtain ⟨hreads, hretires⟩ := reads_fetchReply w flight reply
  have hunsettled : (w.fetchReply flight reply).unsettled = none := by
    simp [unsettled, hreads.flight]
  have hnone : fetchBegins w (w.fetchReply flight reply) = false := by
    simp [fetchBegins, hreads.flight]
  exact {
    coalescer := by
      rw [hreads.coalescer]
      simp [InterfaceWatcher.coalescer, hflight, act, Coalescer.next]
    begins := hnone
    request := Nat.le_of_eq hreads.request.symm
    bindings := Nat.le_of_eq hreads.bindings.symm
    dated := fun flight hf => by
      rw [hunsettled] at hf
      cases hf
    count := by
      rw [hunsettled, hnone]
      simp [unsettled, hflight, hsettled, Call.isReply]
    retires := .inr hretires }

theorem moves_fetchSettled (h : w.refreshFlight.any (·.settled)) :
    Moves w .fetchSettled w.fetchSettled := by
  have hunsettled : w.unsettled = none := by
    unfold unsettled
    cases hflight : w.refreshFlight with
    | none => rfl
    | some flight =>
      rw [hflight] at h
      simpa using h
  have hbegins : w.coalescer.begins .finish = (w.refreshTrailing && !w.addressBusy.isSome) := rfl
  unfold fetchSettled
  dsimp only
  split
  next htrailing =>
    refine moves_request (.inr ⟨rfl, hunsettled⟩) (if_pos htrailing).symm ?_ (Nat.le_refl _)
      (Nat.le_refl _) nofun rfl (retires_of_same rfl rfl)
    have hfree := (Bool.and_eq_true_iff.mp htrailing).2
    calc w.coalescer.begins .finish = true := hbegins.trans htrailing
      _ = (!w.addressBusy.isSome && !false) := by rw [hfree, Bool.not_false, Bool.and_true]
  next hquiet =>
    have hnone : fetchBegins w { w with refreshFlight := none } = false := rfl
    exact {
      coalescer := (if_neg hquiet).symm
      begins := hnone.trans (hbegins.trans (eq_false_of_ne_true hquiet)).symm
      request := Nat.le_refl _
      bindings := Nat.le_refl _
      dated := nofun
      count := by
        rw [hunsettled]
        rfl
      retires := .inr (retires_of_same rfl rfl) }

/-- The end of an address operation, after what it left. -/
theorem moves_addressSettled {reply : Option AddressView}
    (hflight : w₁.refreshFlight = w.refreshFlight) (htrailing : w₁.refreshTrailing = w.refreshTrailing)
    (hqueued : w₁.eventRefreshQueued = w.eventRefreshQueued)
    (hrequest : w.interfaceRefresh ≤ w₁.interfaceRefresh)
    (hbindings : w.bindingRefresh ≤ w₁.bindingRefresh)
    (hpublishes : w.publishes (.addressEnded reply) → w.interfaceRefresh < w₁.interfaceRefresh) :
    Moves w (.addressEnded reply) w₁.addressSettled := by
  have hended : { w₁ with addressBusy := none }.coalescer = { w.coalescer with held := false } := by
    simp [InterfaceWatcher.coalescer, hflight, htrailing, hqueued]
  have hbegins : w.coalescer.begins .release =
      (w₁.refreshTrailing && !w₁.refreshFlight.isSome) := by
    rw [hflight, htrailing]
    rfl
  unfold addressSettled
  dsimp only
  split
  next hasked =>
    refine moves_request (.inl hflight) ?_ ?_ hrequest hbindings (fun hp => .inl (hpublishes hp)) rfl
      (retires_of_free rfl)
    · rw [hflight, htrailing] at hasked
      exact (congrArg Coalescer.request hended).trans (if_pos hasked).symm
    · calc w.coalescer.begins .release = true := hbegins.trans hasked
        _ = (!false && !w₁.refreshFlight.isSome) := by
          rw [(Bool.and_eq_true_iff.mp hasked).2, Bool.not_false, Bool.and_true]
  next hquiet =>
    refine moves_same hflight ?_ (hbegins.trans (eq_false_of_ne_true hquiet)) hrequest hbindings
      (fun hp => .inl (hpublishes hp)) rfl (.inr (retires_of_free rfl))
    rw [hflight, htrailing] at hquiet
    exact hended.trans (if_neg hquiet).symm

theorem moves_addressEnded {retired : Bool} (h : w.addressBusy = some retired)
    (reply : Option AddressView) :
    Moves w (.addressEnded reply) (w.addressEnded retired reply) := by
  unfold addressEnded
  cases reply with
  | none =>
    exact moves_addressSettled rfl rfl rfl (Nat.le_refl _) (Nat.le_refl _) nofun
  | some view =>
    dsimp only
    split
    next hretired =>
      refine moves_addressSettled rfl rfl rfl (Nat.le_refl _) (Nat.le_refl _) fun hp => ?_
      simp [publishes, h, hretired] at hp
    next =>
      unfold applyAddressReply
      dsimp only
      split
      · exact moves_addressSettled rfl rfl rfl (Nat.le_succ _) (Nat.le_succ _)
          fun _ => Nat.lt_succ_self _
      · have hreads := reads_applySelection w.retireReads view.selection
        refine moves_addressSettled hreads.flight hreads.trailing hreads.queued ?_ ?_ fun _ => ?_
        · exact Nat.le_of_lt (hreads.request ▸ Nat.lt_succ_self _)
        · exact Nat.le_of_lt (hreads.bindings ▸ Nat.lt_succ_self _)
        · exact hreads.request ▸ Nat.lt_succ_self _

theorem moves_step (hs : machine.step w call = some w') : Moves w call w' := by
  obtain ⟨w₁, hw, rfl⟩ := Option.map_eq_some_iff.mp hs
  refine Moves.hear ?_ _
  cases call with
  | elapse ms =>
    obtain rfl := Option.some.inj hw
    exact SameReads.moves ⟨rfl, rfl, rfl, rfl, rfl, rfl⟩ rfl rfl rfl (retires_of_same rfl rfl)
  | interfaceStatusChanged iface =>
    obtain rfl := Option.some.inj hw
    exact moves_interfaceStatusChanged w iface
  | adapterSelectionChanged selection =>
    obtain rfl := Option.some.inj hw
    exact moves_adapterSelectionChanged w selection
  | adoptionStarted adoption =>
    obtain rfl := Option.some.inj hw
    exact SameReads.moves ⟨rfl, rfl, rfl, rfl, rfl, rfl⟩ rfl rfl rfl (retires_of_same rfl rfl)
  | adoptionFinished adoption =>
    obtain rfl := Option.some.inj hw
    unfold adoptionFinished
    split
    · exact SameReads.moves ⟨rfl, rfl, rfl, rfl, rfl, rfl⟩ rfl rfl rfl (retires_of_same rfl rfl)
    · exact SameReads.moves ⟨rfl, rfl, rfl, rfl, rfl, rfl⟩ rfl rfl rfl (retires_of_same rfl rfl)
  | downTimer =>
    unfold handle at hw
    dsimp only at hw
    split at hw
    · cases hw
    split at hw
    · cases hw
    split at hw
    all_goals
      obtain rfl := Option.some.inj hw
      exact SameReads.moves ⟨rfl, rfl, rfl, rfl, rfl, rfl⟩ rfl rfl rfl (retires_of_same rfl rfl)
  | eventRefresh =>
    obtain ⟨-, hw⟩ := Option.ite_none_right_eq_some.mp hw
    obtain rfl := Option.some.inj hw
    exact moves_request (.inl rfl) rfl rfl (Nat.le_refl _) (Nat.le_refl _) nofun rfl
      (retires_of_same rfl rfl)
  | refreshInterfaces =>
    obtain rfl := Option.some.inj hw
    exact moves_request (.inl rfl) rfl rfl (Nat.le_refl _) (Nat.le_refl _) nofun rfl
      (retires_of_same rfl rfl)
  | refreshNetworkEvent =>
    obtain rfl := Option.some.inj hw
    refine moves_hear rfl rfl ⟨rfl, rfl, rfl, rfl, rfl, rfl⟩ rfl rfl (Nat.le_refl _) rfl ?_
    unfold refreshNetworkEvent
    dsimp only
    split
    · exact retires_of_same rfl rfl
    · split <;> exact retires_of_same rfl rfl
  | fetchReply reply =>
    unfold handle at hw
    dsimp only at hw
    split at hw
    · cases hw
    next flight hflight =>
    split at hw
    · cases hw
    next hsettled =>
    obtain rfl := Option.some.inj hw
    exact moves_fetchReply hflight (eq_false_of_ne_true hsettled) reply
  | fetchSettled =>
    obtain ⟨hsettled, hw⟩ := Option.ite_none_right_eq_some.mp hw
    obtain rfl := Option.some.inj hw
    exact moves_fetchSettled hsettled
  | mutateAddress =>
    obtain ⟨-, hw⟩ := Option.ite_none_left_eq_some.mp hw
    obtain rfl := Option.some.inj hw
    exact moves_same rfl rfl rfl (Nat.le_succ _) (Nat.le_succ _) (fun _ => .inl (Nat.lt_succ_self _))
      rfl (.inl ⟨false, rfl, rfl, rfl⟩)
  | addressEnded reply =>
    obtain ⟨retired, hbusy, rfl⟩ := Option.map_eq_some_iff.mp hw
    exact moves_addressEnded hbusy reply
  | retireReads =>
    obtain rfl := Option.some.inj hw
    exact moves_same rfl rfl rfl (Nat.le_succ _) (Nat.le_succ _) (fun _ => .inl (Nat.lt_succ_self _))
      rfl (.inr (retires_of_same rfl rfl))
  | selectAdapter selection =>
    obtain rfl := Option.some.inj hw
    exact (reads_rememberAdapterSelection w selection).moves rfl rfl rfl
      (retires_rememberAdapterSelection w selection)

end InterfaceWatcher

open InterfaceWatcher

namespace RefreshLedger

variable {L L' : RefreshLedger} {w' : InterfaceWatcher} {call : Call} {calls : List Call}

/-- What the ledger says about its watcher. -/
structure Kept (L : RefreshLedger) : Prop where
  count : L.replied + L.watcher.unsettled.isSome.toNat = L.begun
  pending : L.owed → L.watcher.coalescer.Pending
  published : L.published ≤ L.begun
  drawn : ∀ flight ∈ L.watcher.unsettled,
    flight.request ≤ L.watcher.interfaceRefresh ∧ flight.bindings ≤ L.watcher.bindingRefresh
  current : ∀ flight ∈ L.watcher.unsettled, L.watcher.isCurrent flight → L.published < L.begun
  moved : ∀ retired ∈ L.watcher.addressBusy, retired = L.moved

theorem step_eq (hs : machine.step L call = some L') :
    InterfaceWatcher.machine.step L.watcher call = some L'.watcher ∧
      L' = L.record call L'.watcher := by
  obtain ⟨w', hw, rfl⟩ := Option.map_eq_some_iff.mp hs
  exact ⟨hw, rfl⟩

theorem record_begun (L : RefreshLedger) (call : Call) (w' : InterfaceWatcher) :
    (L.record call w').begun = L.begun + (fetchBegins L.watcher w').toNat := by
  unfold record
  dsimp only
  cases fetchBegins L.watcher w' <;> rfl

theorem record_replied (L : RefreshLedger) (call : Call) (w' : InterfaceWatcher) :
    (L.record call w').replied = L.replied + call.isReply.toNat := by
  unfold record
  dsimp only
  cases call.isReply <;> rfl

theorem record_moved (hw : InterfaceWatcher.machine.step L.watcher call = some w')
    (h : L.watcher.addressBusy.isSome) :
    (L.record call w').moved = (L.moved || w'.adapterSelection.any L.watcher.replaces) := by
  cases call with
  | mutateAddress =>
    obtain ⟨w₁, hw, -⟩ := Option.map_eq_some_iff.mp hw
    exact absurd h (Option.ite_none_left_eq_some.mp hw).1
  | _ => rfl

theorem kept_initial : Kept machine.initial where
  count := rfl
  pending := nofun
  published := Nat.le_refl _
  drawn _ hf := nomatch hf
  current _ hf := nomatch hf
  moved _ hr := nomatch hr

theorem Kept.step (h : L.Kept) (hs : machine.step L call = some L') : L'.Kept := by
  obtain ⟨hw, hL'⟩ := step_eq hs
  have hmoves := moves_step hw
  have hbegun : L'.begun = L.begun + (fetchBegins L.watcher L'.watcher).toNat :=
    (congrArg RefreshLedger.begun hL').trans (record_begun L call L'.watcher)
  have hreplied : L'.replied = L.replied + call.isReply.toNat :=
    (congrArg RefreshLedger.replied hL').trans (record_replied L call L'.watcher)
  have howed : L'.owed = ((L.owed || (L.watcher.act call).asks) &&
      !fetchBegins L.watcher L'.watcher) := by rw [hL']; rfl
  have hpublished : L'.published = if L.watcher.publishes call then L.begun else L.published := by
    rw [hL']; rfl
  refine ⟨?_, fun ho => ?_, ?_, fun flight hf => ?_, fun flight hf hcurrent => ?_,
    fun retired hr => ?_⟩
  · have := h.count
    have := hmoves.count
    omega
  · rw [howed, Bool.and_eq_true_iff, Bool.not_eq_true'] at ho
    have hnone := hmoves.begins ▸ ho.2
    rw [hmoves.coalescer]
    rcases Bool.or_eq_true_iff.mp ho.1 with hbefore | hasks
    · exact (h.pending hbefore).next hnone
    · exact Coalescer.pending_of_asks hasks hnone
  · have := h.published
    rw [hpublished]
    split <;> omega
  · rcases hmoves.dated flight hf with ⟨hold, -⟩ | ⟨-, hnew⟩
    · obtain ⟨hrequest, hbindings⟩ := h.drawn flight hold
      exact ⟨Nat.le_trans hrequest hmoves.request, Nat.le_trans hbindings hmoves.bindings⟩
    · exact hnew
  · simp only [isCurrent, Bool.and_eq_true, beq_iff_eq] at hcurrent
    have hrequest := hmoves.request
    have hbindings := hmoves.bindings
    rcases hmoves.dated flight hf with ⟨hold, hless⟩ | ⟨hbegins, -⟩
    · obtain ⟨hdrawn, hdrawn'⟩ := h.drawn flight hold
      -- what has just been published has moved a counter past the fetch
      have hquiet : L.watcher.publishes call = false := eq_false_of_ne_true fun hp => by
        have := hless hp
        omega
      have hbefore : L.watcher.isCurrent flight := by
        simp only [isCurrent, Bool.and_eq_true, beq_iff_eq]
        omega
      have := h.current flight hold hbefore
      rw [hpublished, hquiet]
      simp only [Bool.false_eq_true, if_false]
      omega
    · have := h.published
      rw [hbegins] at hbegun
      rw [hpublished, hbegun]
      split <;> exact Nat.lt_succ_of_le (by omega)
  · rcases hmoves.retires with ⟨retired', hcall, hfresh, rfl⟩ | hretires
    · subst hcall
      rw [hL']
      exact Option.some.inj (hr.symm.trans hfresh)
    · obtain ⟨retired₀, hbefore, rfl⟩ := hretires retired hr
      rw [h.moved retired₀ hbefore]
      exact ((congrArg RefreshLedger.moved hL').trans (record_moved hw (Option.isSome_of_mem hbefore))).symm

theorem kept_of_reachable (h : machine.Reachable L) : L.Kept :=
  h.invariant kept_initial fun _ _ _ hk hs => hk.step hs

/-! ### Runs -/

theorem begun_step (hs : machine.step L call = some L') :
    L'.begun = L.begun + (fetchBegins L.watcher L'.watcher).toNat := by
  obtain ⟨-, hL'⟩ := step_eq hs
  exact (congrArg RefreshLedger.begun hL').trans (record_begun L call L'.watcher)

theorem begun_run (hr : machine.run L calls = some L') : L.begun ≤ L'.begun := by
  induction calls generalizing L with
  | nil =>
    obtain rfl := Option.some.inj hr
    exact Nat.le_refl _
  | cons call calls ih =>
    obtain ⟨L₁, hs, hr⟩ := Option.bind_eq_some_iff.mp hr
    have := begun_step hs
    have := ih hr
    omega

/-- Whoever waits at the start of a run without a new fetch waits at its end, for the same. -/
theorem waits_run {burst fetch : Prop} (h : L.watcher.coalescer.Waits burst fetch)
    (hr : machine.run L calls = some L') (hnone : L'.begun = L.begun) :
    L'.watcher.coalescer.Waits (burst ∧ .eventRefresh ∉ calls) (fetch ∧ .fetchSettled ∉ calls) := by
  induction calls generalizing L burst fetch with
  | nil =>
    obtain rfl := Option.some.inj hr
    exact h.mono (fun hb => ⟨hb, List.not_mem_nil⟩) fun hf => ⟨hf, List.not_mem_nil⟩
  | cons call calls ih =>
    obtain ⟨L₁, hs, hr⟩ := Option.bind_eq_some_iff.mp hr
    have hstep := begun_step hs
    have hrest := begun_run hr
    have hmoves := moves_step (step_eq hs).1
    have hnext := h.next (a := L.watcher.act call) <| by
      rw [← hmoves.begins]
      cases hbegins : fetchBegins L.watcher L₁.watcher
      · rfl
      · rw [hbegins] at hstep
        exact absurd hstep (by simp only [Bool.toNat_true]; omega)
    rw [← hmoves.coalescer] at hnext
    refine (ih hnext hr (by omega)).mono ?_ ?_
    · rintro ⟨⟨hb, hact⟩, hcalls⟩
      refine ⟨hb, fun hmem => ?_⟩
      rcases List.mem_cons.mp hmem with rfl | hmem
      · exact hact rfl
      · exact hcalls hmem
    · rintro ⟨⟨hf, hact⟩, hcalls⟩
      refine ⟨hf, fun hmem => ?_⟩
      rcases List.mem_cons.mp hmem with rfl | hmem
      · exact hact rfl
      · exact hcalls hmem

/-- Once the burst is collected, the fetch of that time is over and no address operation runs, a
fetch has begun. -/
theorem begun_of_owed (hk : L.Kept) (ho : L.owed) (hr : machine.run L calls = some L')
    (hburst : L.watcher.eventRefreshQueued → .eventRefresh ∈ calls)
    (hflight : L.watcher.refreshFlight.isSome → .fetchSettled ∈ calls)
    (hfree : L'.watcher.addressBusy = none) : L.begun < L'.begun := by
  refine Nat.lt_of_le_of_ne (begun_run hr) fun hnone => ?_
  have hwaits := waits_run (hk.pending ho).waits hr hnone.symm
  have hheld := hwaits.held (fun h => h.2 (hburst h.1)) fun h => h.2 (hflight h.1)
  simp [coalescer, hfree] at hheld

theorem fetchReply_dated (hk : L.Kept) {reply : FetchReply}
    (hs : machine.step L (.fetchReply reply) = some L') :
    L.published < L.begun ∨
      ∃ flight, L'.watcher = { L.watcher with refreshFlight := some flight } := by
  obtain ⟨w, hw, hL'⟩ := Option.map_eq_some_iff.mp (step_eq hs).1
  unfold handle at hw
  dsimp only at hw
  split at hw
  · cases hw
  next flight hflight =>
  split at hw
  · cases hw
  next hwaiting =>
  obtain rfl := Option.some.inj hw
  have hunsettled : flight ∈ L.watcher.unsettled := by
    simp [unsettled, hflight, eq_false_of_ne_true hwaiting]
  by_cases hcurrent : L.watcher.isCurrent flight
  · exact .inl (hk.current flight hunsettled hcurrent)
  · refine .inr ⟨{ flight with settled := true }, ?_⟩
    have hheard : L.watcher.hear (.fetchReply reply) = L.watcher.outage := by
      cases reply <;> simp [hear, hflight, hcurrent]
    have hdropped : L.watcher.fetchReply flight reply =
        { L.watcher with refreshFlight := some { flight with settled := true } } := by
      simp [fetchReply, hcurrent]
    rw [← hL', hheard, hdropped]

/-- The same adapter is shown, from the same kind of read. -/
structure SameView (w w' : InterfaceWatcher) : Prop where
  selection : w'.adapterSelection = w.adapterSelection
  view : w'.activeInterface = w.activeInterface
  verified : w'.verifiedAddressView = w.verifiedAddressView

theorem addressSettled_view (w : InterfaceWatcher) :
    w.addressSettled.addressBusy = none ∧ SameView w w.addressSettled := by
  unfold addressSettled refreshInterfaces
  dsimp only
  split
  · split
    · exact ⟨rfl, rfl, rfl, rfl⟩
    · split <;> exact ⟨rfl, rfl, rfl, rfl⟩
  · exact ⟨rfl, rfl, rfl, rfl⟩

theorem addressEnded_view (w : InterfaceWatcher) (retired : Bool) (reply : Option AddressView) :
    (w.addressEnded retired reply).addressBusy = none ∧
      (reply = none ∨ retired = true → SameView w (w.addressEnded retired reply)) := by
  unfold addressEnded
  cases reply with
  | none => exact ⟨(addressSettled_view w).1, fun _ => (addressSettled_view w).2⟩
  | some view =>
    cases retired with
    | false => exact ⟨(addressSettled_view _).1, fun h => (by simp at h)⟩
    | true => exact ⟨(addressSettled_view w).1, fun _ => (addressSettled_view w).2⟩

/-- The end of an address operation releases the mark, and shows nothing after a failure or where
another adapter has been selected. -/
theorem addressEnded_kept (hk : L.Kept) {reply : Option AddressView}
    (hs : machine.step L (.addressEnded reply) = some L') :
    L'.watcher.addressBusy = none ∧
      (reply = none ∨ L.moved → SameView L.watcher L'.watcher) := by
  obtain ⟨w, hw, hL'⟩ := Option.map_eq_some_iff.mp (step_eq hs).1
  obtain ⟨retired, hbusy, rfl⟩ := Option.map_eq_some_iff.mp hw
  have hmoved : retired = L.moved := hk.moved retired hbusy
  obtain ⟨hfree, hview⟩ := addressEnded_view L.watcher retired reply
  rw [← hL']
  refine ⟨hfree, fun h => ?_⟩
  obtain ⟨hselection, hactive, hverified⟩ := hview (hmoved ▸ h)
  exact ⟨hselection, hactive, hverified⟩

def port : InterfaceWatcher.InterfaceInfo where
  name := "Ethernet"
  displayName := "Ethernet"
  description := ""
  ips := [⟨"10.0.0.2", 24, "10.0.0.0/24"⟩]
  mac := "02:00:00:00:00:01"
  isUp := true
  isEthernet := true
  isWifi := false
  isVpn := false
  isVirtual := false

def chosen : InterfaceWatcher.AdapterSelection where
  selectedMac := some port.mac
  adapter := some port
  interfaceIndex := some 7
  selectionRequired := false
  candidates := [port]

/-- Two events come while a fetch is in flight. -/
def eventsInFlight : List Call := [.refreshInterfaces, .refreshNetworkEvent, .refreshNetworkEvent]

def collected : List Call := [.eventRefresh, .fetchReply (.selection chosen), .fetchSettled]

/-- A selection event of the adapter that an address operation is about, before its reply. -/
def eventBeforeAddressReply : List Call :=
  [.adapterSelectionChanged chosen, .mutateAddress,
    .adapterSelectionChanged { chosen with adapter := some { port with ips := [] } }]

end RefreshLedger

end PocketStream
