import PocketStream.Frontend.InterfaceWatcher

/-! # Link bounces

A teardown for the same adapter waits for the debounce, and an up event within it
is no reconnect, as long as the view still shows what it showed before the outage.
Resumes that an adoption holds back are owed until the adoption in progress
finishes.
-/

namespace PocketStream.InterfaceWatcher

open Foundation

/-- The adoption in progress. -/
def current : List Happening → Option String
  | [] => none
  | .started adoption :: _ => some adoption
  | .finished adoption _ _ :: earlier =>
    if current earlier = some adoption then none else current earlier
  | _ :: earlier => current earlier

/-- A reconnect was held back, and no adoption in progress has finished since. -/
def owed : List Happening → Bool
  | [] => false
  | .reconnect _ _ true :: _ => true
  | .finished adoption _ _ :: earlier =>
    if current earlier = some adoption then false else owed earlier
  | _ :: earlier => owed earlier

/-- What an entry of the history says agrees with the entries before it: a finish resumes if and
only if it ends the adoption in progress with a resume owed and the interface connected, and a reconnect
is held back if and only if an adoption is in progress. -/
def Happening.Paired (earlier : List Happening) : Happening → Prop
  | .finished adoption connected resumed =>
    resumed = (current earlier == some adoption && owed earlier && connected)
  | .reconnect _ _ suppressed => suppressed = (current earlier).isSome
  | _ => True

/-- A teardown of the same adapter comes after a stable outage, and so does a reconnect where the
view was connected before the outage. -/
def Happening.Stable : Happening → Prop
  | .teardown time changed outage =>
    changed = true ∨ ∃ o ∈ outage, o.since + STABLE_DOWN_MS ≤ time
  | .reconnect time outage _ => ∀ o ∈ outage, o.wasConnected → o.since + STABLE_DOWN_MS ≤ time
  | _ => True

variable (w : InterfaceWatcher)

/-- An up event that does not disarm the timer, or that comes within the debounce after a reply has
shown the adapter down. -/
def overlooks : Call → Bool
  | .interfaceStatusChanged iface =>
    w.watches iface && !isDownEvent iface &&
      if w.defers iface then w.pendingDownTimer.isSome
      else w.outage.any fun o =>
        o.wasConnected && o.repainted && decide (w.now < o.since + STABLE_DOWN_MS)
  | _ => false

/-- The view agrees with the adoptions of the history. -/
structure Bracketed : Prop where
  adoption : w.activeAdoptionId = current w.history
  latch : w.suppressedReconnect = owed w.history
  paired : ∀ e earlier, e :: earlier <:+ w.history → e.Paired earlier

/-- An armed timer goes with an outage that is not younger, and until the debounce is over the view
shows what it showed before the outage, unless a reply wrote it. -/
structure Debounced : Prop where
  past : ∀ o ∈ w.outage, o.since ≤ w.now
  armed : ∀ time ∈ w.pendingDownTimer, ∃ o ∈ w.outage, o.since ≤ time
  retained : ∀ o ∈ w.outage, o.wasConnected → o.repainted = false →
    w.now < o.since + STABLE_DOWN_MS → w.isInterfaceConnected
  stable : ∀ e ∈ w.history, e.Stable

variable {w} {w' w₁ : InterfaceWatcher} {call : Call} {selection : AdapterSelection}
  {iface : InterfaceInfo}

/-- A change that leaves the view, the timer, the adoption gate and the history as they are. -/
structure Quiet (w w' : InterfaceWatcher) : Prop where
  now : w'.now = w.now
  view : w'.activeInterface = w.activeInterface
  timer : w'.pendingDownTimer = w.pendingDownTimer
  outage : w'.outage = w.outage
  history : w'.history = w.history
  adoption : w'.activeAdoptionId = w.activeAdoptionId
  latch : w'.suppressedReconnect = w.suppressedReconnect

theorem quiet_refl (w : InterfaceWatcher) : Quiet w w := ⟨rfl, rfl, rfl, rfl, rfl, rfl, rfl⟩

theorem Quiet.trans (h : Quiet w w₁) (h' : Quiet w₁ w') : Quiet w w' where
  now := h'.now.trans h.now
  view := h'.view.trans h.view
  timer := h'.timer.trans h.timer
  outage := h'.outage.trans h.outage
  history := h'.history.trans h.history
  adoption := h'.adoption.trans h.adoption
  latch := h'.latch.trans h.latch

theorem Quiet.hear (h : Quiet w w') (o : Option Outage) :
    Quiet { w with outage := o } { w' with outage := o } :=
  ⟨h.now, h.view, h.timer, rfl, h.history, h.adoption, h.latch⟩

theorem quiet_refreshInterfaces (w : InterfaceWatcher) : Quiet w w.refreshInterfaces := by
  unfold refreshInterfaces
  split
  · exact ⟨rfl, rfl, rfl, rfl, rfl, rfl, rfl⟩
  · split <;> exact ⟨rfl, rfl, rfl, rfl, rfl, rfl, rfl⟩

theorem quiet_refreshNetworkEvent (w : InterfaceWatcher) : Quiet w w.refreshNetworkEvent := by
  unfold refreshNetworkEvent
  dsimp only
  split
  · exact ⟨rfl, rfl, rfl, rfl, rfl, rfl, rfl⟩
  · split <;> exact ⟨rfl, rfl, rfl, rfl, rfl, rfl, rfl⟩

theorem quiet_statusRead (w : InterfaceWatcher) :
    Quiet w { w with interfaceRefresh := w.interfaceRefresh + 1 }.refreshNetworkEvent := by
  have hcounted : Quiet w { w with interfaceRefresh := w.interfaceRefresh + 1 } :=
    ⟨rfl, rfl, rfl, rfl, rfl, rfl, rfl⟩
  exact hcounted.trans (quiet_refreshNetworkEvent _)

theorem quiet_fetchSettled (w : InterfaceWatcher) : Quiet w w.fetchSettled := by
  have hcleared : Quiet w { w with refreshFlight := none } := ⟨rfl, rfl, rfl, rfl, rfl, rfl, rfl⟩
  unfold fetchSettled
  dsimp only
  split
  · exact hcleared.trans (quiet_refreshInterfaces _)
  · exact hcleared

theorem quiet_addressSettled (w : InterfaceWatcher) : Quiet w w.addressSettled := by
  have hcleared : Quiet w { w with addressBusy := none } := ⟨rfl, rfl, rfl, rfl, rfl, rfl, rfl⟩
  unfold addressSettled
  dsimp only
  split
  · exact hcleared.trans (quiet_refreshInterfaces _)
  · exact hcleared

theorem Debounced.quiet (h : w.Debounced) (hq : Quiet w w') : w'.Debounced where
  past := by
    rw [hq.outage, hq.now]
    exact h.past
  armed := by
    rw [hq.timer, hq.outage]
    exact h.armed
  retained := by
    unfold isInterfaceConnected
    rw [hq.outage, hq.now, hq.view]
    exact h.retained
  stable := by
    rw [hq.history]
    exact h.stable

theorem Bracketed.quiet (h : w.Bracketed) (hq : Quiet w w') : w'.Bracketed where
  adoption := by rw [hq.adoption, hq.history, h.adoption]
  latch := by rw [hq.latch, hq.history, h.latch]
  paired := by
    rw [hq.history]
    exact h.paired

theorem cancelPendingDown_eq (w : InterfaceWatcher) :
    w.cancelPendingDown =
      { w with
        pendingDownTimer := none
        pendingDownIface := if w.pendingDownTimer.isSome then none else w.pendingDownIface } := by
  unfold cancelPendingDown
  split
  · rfl
  · next hoff =>
    rw [Option.not_isSome_iff_eq_none] at hoff
    rw [← hoff]

theorem rememberAdapterSelection_kept (h : w.replaces selection = false) :
    w.rememberAdapterSelection selection = { w with adapterSelection := some selection } := by
  simp [rememberAdapterSelection, h]

theorem rememberAdapterSelection_replaced (h : w.replaces selection = true) :
    w.rememberAdapterSelection selection =
      { w.dropAdapter with adapterSelection := some selection } := by
  simp [rememberAdapterSelection, h]

theorem applyUpEvent_eq (w : InterfaceWatcher) (iface : InterfaceInfo) (wasDown : Bool) :
    w.applyUpEvent iface wasDown =
      { w with
        activeInterface := some iface
        suppressedReconnect := w.suppressedReconnect || (wasDown && w.activeAdoptionId.isSome)
        history :=
          if wasDown then .reconnect w.now w.outage w.activeAdoptionId.isSome :: w.history
          else w.history } := by
  unfold applyUpEvent
  cases w.activeAdoptionId <;> cases wasDown <;> simp

/-- A status event is about another adapter, left to a later read, no change, or taken. -/
theorem interfaceStatusChanged_cases (w : InterfaceWatcher) (iface : InterfaceInfo) :
    (w.watches iface = false ∧ w.interfaceStatusChanged iface = w) ∨
    (w.watches iface ∧ w.defers iface ∧ Quiet w (w.interfaceStatusChanged iface)) ∨
    (w.watches iface ∧ w.defers iface = false ∧
      w.interfaceStatusChanged iface = if !isDownEvent iface then w.cancelPendingDown else w) ∨
    (w.watches iface ∧ w.defers iface = false ∧ ∃ w₁, Quiet w w₁ ∧
      w.interfaceStatusChanged iface =
        if isDownEvent iface then
          { w₁ with
            pendingDownIface := some iface
            pendingDownTimer :=
              if w.pendingDownTimer.isSome then w.pendingDownTimer else some w.now }
        else w₁.cancelPendingDown.applyUpEvent iface (!w.isInterfaceConnected)) := by
  have hq := quiet_statusRead w
  unfold interfaceStatusChanged defers
  dsimp only
  cases hwatch : w.watches iface
  · exact .inl ⟨rfl, rfl⟩
  right
  rw [if_neg (by simp)]
  by_cases hbusy : w.addressBusy.isSome
  · rw [if_pos hbusy]
    exact .inl ⟨rfl, by simp [hbusy], ⟨rfl, rfl, rfl, rfl, rfl, rfl, rfl⟩⟩
  rw [if_neg hbusy]
  by_cases hsame : w.activeInterface = some iface
  · rw [if_pos hsame]
    exact .inr (.inl ⟨rfl, by simp [hbusy, hsame], rfl⟩)
  rw [if_neg hsame]
  by_cases hverified : w.verifiedAddressView
  · rw [if_pos hverified]
    exact .inl ⟨rfl, by simp [hverified, hsame], hq⟩
  · rw [if_neg hverified]
    refine .inr (.inr ⟨rfl, by simp [hbusy, hverified], _, hq, ?_⟩)
    unfold isInterfaceConnected
    rw [hq.view, hq.timer, hq.now]

/-- With no outage the timer has to be off. -/
theorem debounced_up (hout : w.outage = none) (htimer : w.pendingDownTimer = none)
    (hstable : ∀ e ∈ w.history, e.Stable) : w.Debounced where
  past := by simp [hout]
  armed := by simp [htimer]
  retained := by simp [hout]
  stable := hstable

namespace Debounced

theorem stillDown_past (h : w.Debounced) : w.stillDown.since ≤ w.now := by
  unfold stillDown
  cases ho : w.outage with
  | none => exact Nat.le_refl _
  | some o => exact h.past o ho

theorem stillDown_armed (h : w.Debounced) {time : ℕ} (ht : w.pendingDownTimer = some time) :
    w.stillDown.since ≤ time := by
  obtain ⟨o, ho, hle⟩ := h.armed time ht
  rw [Option.mem_def] at ho
  simpa [stillDown, ho] using hle

/-- A down event leaves the view, and arms the timer if it was off. -/
theorem down (h : w.Debounced) (hnow : w'.now = w.now)
    (hview : w'.activeInterface = w.activeInterface) (hhistory : w'.history = w.history)
    (htimer : w'.pendingDownTimer = w.pendingDownTimer ∨ w'.pendingDownTimer = some w.now) :
    Debounced { w' with outage := some w.stillDown } where
  past o ho := by
    cases ho
    exact hnow ▸ h.stillDown_past
  armed time ht := by
    refine ⟨_, rfl, ?_⟩
    obtain hkept | hset := htimer
    · exact h.stillDown_armed (hkept.symm.trans ht)
    · cases hset.symm.trans ht
      exact h.stillDown_past
  retained o ho hwas hclear hlt := by
    cases ho
    have hconnected : w.isInterfaceConnected := by
      unfold stillDown at hwas hclear hlt
      cases hout : w.outage with
      | none => simpa [hout] using hwas
      | some o =>
        simp only [hout, Option.getD_some] at hwas hclear hlt
        exact h.retained o hout hwas hclear (hnow ▸ hlt)
    unfold isInterfaceConnected at hconnected ⊢
    exact hview ▸ hconnected
  stable := hhistory ▸ h.stable

theorem dropAdapter_stable (h : w.Debounced) : ∀ e ∈ w.dropAdapter.history, e.Stable := by
  intro e he
  simp only [dropAdapter] at he
  split at he
  · rcases List.mem_cons.mp he with rfl | he
    · exact .inl rfl
    · exact h.stable e he
  · exact h.stable e he

theorem remember (h : w.Debounced) (selection : AdapterSelection) :
    Debounced { w.rememberAdapterSelection selection with
      outage := if w.replaces selection then none else w.outage } := by
  cases hr : w.replaces selection
  · rw [rememberAdapterSelection_kept hr]
    exact ⟨h.past, h.armed, h.retained, h.stable⟩
  · rw [rememberAdapterSelection_replaced hr]
    exact debounced_up rfl rfl h.dropAdapter_stable

/-- A reply that is taken: it disarms the timer or says that the adapter is down. -/
theorem reply (h : w.Debounced) (selection : AdapterSelection) :
    Debounced { w.applySelection selection with outage := w.hearReply selection } := by
  have hstable := (h.remember selection).stable
  unfold applySelection hearReply
  dsimp only
  split
  · rw [cancelPendingDown_eq]
    exact debounced_up rfl rfl hstable
  · cases hr : w.replaces selection
    · rw [rememberAdapterSelection_kept hr]
      refine ⟨?_, ?_, ?_, h.stable⟩
      · intro o ho
        cases ho
        exact h.stillDown_past
      · intro time ht
        exact ⟨_, rfl, h.stillDown_armed ht⟩
      · intro o ho _ hclear
        cases ho
        cases hclear
    · rw [rememberAdapterSelection_replaced hr]
      refine ⟨?_, nofun, ?_, h.dropAdapter_stable⟩
      · intro o ho
        cases ho
        exact Nat.le_refl _
      · intro o ho hwas
        cases ho
        cases hwas

/-- The catch of a refetch paints the last selection over a view that was not connected. -/
theorem repaint (h : w.Debounced) (hview : w.activeInterface = none)
    (hlast : w.adapterSelection = some selection) :
    Debounced { w.applySelection selection with outage := w.outage } := by
  have hkept : w.replaces selection = false := by simp [replaces, hlast]
  have hretained : ∀ o ∈ w.outage, o.wasConnected → o.repainted = false →
      ¬ w.now < o.since + STABLE_DOWN_MS := by
    intro o ho hwas hclear hlt
    simpa [isInterfaceConnected, hview] using h.retained o ho hwas hclear hlt
  unfold applySelection
  rw [rememberAdapterSelection_kept hkept]
  dsimp only
  split
  · rw [cancelPendingDown_eq]
    exact ⟨h.past, nofun, fun o ho hwas hclear hlt => absurd hlt (hretained o ho hwas hclear),
      h.stable⟩
  · exact ⟨h.past, h.armed, fun o ho hwas hclear hlt => absurd hlt (hretained o ho hwas hclear),
      h.stable⟩

/-- An up event that is taken: a reconnect only if the view was not connected, which takes a stable
outage, a reply since its first report, or a view that was not connected before. -/
theorem up (h : w.Debounced) (hq : Quiet w w₁)
    (hclear : ∀ o ∈ w.outage, o.wasConnected → o.repainted → o.since + STABLE_DOWN_MS ≤ w.now) :
    Debounced { w₁.cancelPendingDown.applyUpEvent iface (!w.isInterfaceConnected) with
      outage := none } := by
  rw [applyUpEvent_eq, cancelPendingDown_eq]
  refine debounced_up rfl rfl fun e he => ?_
  dsimp only at he
  rw [hq.history] at he
  split at he
  · next hdown =>
    rcases List.mem_cons.mp he with rfl | he
    · rw [hq.now, hq.outage]
      intro o ho hwas
      by_contra hlt
      cases hrep : o.repainted
      · simp [h.retained o ho hwas hrep (by omega)] at hdown
      · exact hlt (hclear o ho hwas hrep)
    · exact h.stable e he
  · exact h.stable e he

theorem status (h : w.Debounced) (ha : w.overlooks (.interfaceStatusChanged iface) = false) :
    Debounced { w.interfaceStatusChanged iface with outage := w.hearStatus iface } := by
  unfold overlooks at ha
  unfold hearStatus
  rcases interfaceStatusChanged_cases w iface with
    ⟨hwatch, heq⟩ | ⟨hwatch, hdefer, hq⟩ | ⟨hwatch, hdefer, heq⟩ | ⟨hwatch, hdefer, w₁, hq, heq⟩
  · rw [heq]
    simpa [hwatch] using h
  · simp only [hwatch, hdefer, Bool.not_true, Bool.false_eq_true, if_false, if_true,
      Bool.true_and] at ha ⊢
    split
    · exact h.down hq.now hq.view hq.history (.inl hq.timer)
    · next hup =>
      have hoff : w.pendingDownTimer = none := by simpa [hup] using ha
      exact debounced_up rfl (hq.timer.trans hoff) (hq.history ▸ h.stable)
  · rw [heq]
    simp only [hwatch, Bool.not_true, Bool.false_eq_true, if_false]
    cases hdown : isDownEvent iface
    · rw [cancelPendingDown_eq]
      exact debounced_up rfl rfl h.stable
    · exact h.down rfl rfl rfl (.inl rfl)
  · rw [heq]
    simp only [hwatch, hdefer, Bool.not_true, Bool.false_eq_true, if_false, Bool.true_and] at ha ⊢
    split
    · refine h.down hq.now hq.view hq.history ?_
      dsimp only
      split
      · exact .inl rfl
      · exact .inr rfl
    · next hup =>
      refine h.up hq fun o ho hwas hrep => ?_
      rw [Option.mem_def] at ho
      simpa [hup, ho, hwas, hrep] using ha

/-- The timer fires on an outage that has been stable. -/
theorem timer (h : w.Debounced) {armed : ℕ} (ht : w.pendingDownTimer = some armed)
    (hdue : armed + STABLE_DOWN_MS ≤ w.now) :
    Debounced ({ w with pendingDownTimer := none, pendingDownIface := none }.applyDownEvent iface)
      where
  past := h.past
  armed := nofun
  retained o ho _ _ hlt := by
    obtain ⟨o', ho', hle⟩ := h.armed armed ht
    cases ho.symm.trans ho'
    simp only [applyDownEvent] at hlt
    omega
  stable e he := by
    rcases List.mem_cons.mp he with rfl | he
    · obtain ⟨o, ho, hle⟩ := h.armed armed ht
      have hstable : o.since + STABLE_DOWN_MS ≤ w.now := by omega
      exact .inr ⟨o, ho, hstable⟩
    · exact h.stable e he

theorem fetched (h : w.Debounced) {flight : Flight} (hflight : w.refreshFlight = some flight)
    (reply : FetchReply) :
    Debounced { w.fetchReply flight reply with outage := w.hear (.fetchReply reply) } := by
  unfold fetchReply
  dsimp only
  cases hcurrent : w.isCurrent flight
  · have hheard : w.hear (.fetchReply reply) = w.outage := by
      cases reply <;> simp [hear, hflight, hcurrent]
    rw [hheard]
    exact h.quiet ⟨rfl, rfl, rfl, rfl, rfl, rfl, rfl⟩
  rw [if_neg (by simp)]
  have hsettled : Debounced { w with refreshFlight := some { flight with settled := true } } :=
    h.quiet ⟨rfl, rfl, rfl, rfl, rfl, rfl, rfl⟩
  cases reply with
  | nothing => exact hsettled
  | selection selection =>
    have hheard : w.hear (.fetchReply (.selection selection)) = w.hearReply selection := by
      simp [hear, hflight, hcurrent]
    rw [hheard]
    have hpainted : Debounced { w with
        refreshFlight := some { flight with settled := true }, verifiedAddressView := false } :=
      h.quiet ⟨rfl, rfl, rfl, rfl, rfl, rfl, rfl⟩
    exact hpainted.reply selection
  | failed =>
    dsimp only
    split
    · exact hsettled
    · next hview =>
      split
      · next hlast => exact hsettled.repaint (by simpa using hview) hlast
      · exact hsettled

theorem selected (h : w.Debounced) (selection : AdapterSelection) :
    Debounced { w.adapterSelectionChanged selection with
      outage := w.hear (.adapterSelectionChanged selection) } := by
  unfold adapterSelectionChanged hear takesSelection
  dsimp only
  by_cases hsame : w.adapterSelection = some selection
  · rw [if_pos hsame, bne_eq_false_iff_eq.mpr hsame]
    exact h
  rw [if_neg hsame, bne_iff_ne.mpr hsame]
  cases hdefer : w.verifiedAddressView && !w.addressBusy.isSome
  · have hread : Debounced { w with interfaceRefresh := w.interfaceRefresh + 1 } :=
      h.quiet ⟨rfl, rfl, rfl, rfl, rfl, rfl, rfl⟩
    exact hread.remember selection
  · exact h.quiet ((quiet_statusRead w).hear w.outage)

theorem addressReply (h : w.Debounced) (view : AddressView) :
    Debounced { w.applyAddressReply view with
      outage := if view.observationError = none then w.hearReply view.selection
        else w.outage } := by
  have hretired : Debounced w.retireReads := h.quiet ⟨rfl, rfl, rfl, rfl, rfl, rfl, rfl⟩
  unfold applyAddressReply
  cases view.observationError with
  | some error => exact hretired
  | none => exact (hretired.reply view.selection).quiet ⟨rfl, rfl, rfl, rfl, rfl, rfl, rfl⟩

theorem addressEnded (h : w.Debounced) {retired : Bool} (hbusy : w.addressBusy = some retired)
    (reply : Option AddressView) :
    Debounced { w.addressEnded retired reply with outage := w.hear (.addressEnded reply) } := by
  cases reply with
  | none => exact h.quiet ((quiet_addressSettled w).hear w.outage)
  | some view =>
    unfold hear
    rw [hbusy]
    cases retired
    · simp only [true_and]
      exact (h.addressReply view).quiet ((quiet_addressSettled _).hear _)
    · exact h.quiet ((quiet_addressSettled w).hear w.outage)

theorem step (h : w.Debounced) (ha : w.overlooks call = false)
    (hs : machine.step w call = some w') : w'.Debounced := by
  obtain ⟨w₁, hw, rfl⟩ := Option.map_eq_some_iff.mp hs
  cases call with
  | elapse ms =>
    cases hw
    refine ⟨fun o ho => Nat.le_trans (h.past o ho) (Nat.le_add_right ..), h.armed, ?_, h.stable⟩
    intro o ho hwas hclear hlt
    exact h.retained o ho hwas hclear (Nat.lt_of_le_of_lt (Nat.le_add_right ..) hlt)
  | interfaceStatusChanged iface =>
    cases hw
    exact h.status ha
  | adapterSelectionChanged selection =>
    cases hw
    exact h.selected selection
  | adoptionStarted adoption =>
    cases hw
    exact ⟨h.past, h.armed, h.retained, List.forall_mem_cons.mpr ⟨trivial, h.stable⟩⟩
  | adoptionFinished adoption =>
    cases hw
    unfold InterfaceWatcher.adoptionFinished
    split <;> exact ⟨h.past, h.armed, h.retained, List.forall_mem_cons.mpr ⟨trivial, h.stable⟩⟩
  | downTimer =>
    simp only [handle] at hw
    split at hw
    · cases hw
    · next armed ht =>
      split at hw
      · cases hw
      · next hdue =>
        split at hw
        · cases hw
          exact ⟨h.past, nofun, h.retained, h.stable⟩
        · cases hw
          exact h.timer ht (by omega)
  | eventRefresh =>
    simp only [handle] at hw
    split at hw
    · cases hw
      have hidle : Quiet w { w with eventRefreshQueued := false } :=
        ⟨rfl, rfl, rfl, rfl, rfl, rfl, rfl⟩
      exact h.quiet ((hidle.trans (quiet_refreshInterfaces _)).hear w.outage)
    · cases hw
  | refreshInterfaces =>
    cases hw
    exact h.quiet ((quiet_refreshInterfaces w).hear w.outage)
  | refreshNetworkEvent =>
    cases hw
    exact h.quiet ((quiet_refreshNetworkEvent w).hear w.outage)
  | fetchReply reply =>
    simp only [handle] at hw
    split at hw
    · cases hw
    · next flight hflight =>
      split at hw
      · cases hw
      · cases hw
        exact h.fetched hflight reply
  | fetchSettled =>
    simp only [handle] at hw
    split at hw
    · cases hw
      exact h.quiet ((quiet_fetchSettled w).hear w.outage)
    · cases hw
  | mutateAddress =>
    simp only [handle] at hw
    split at hw
    · cases hw
    · cases hw
      exact h.quiet ⟨rfl, rfl, rfl, rfl, rfl, rfl, rfl⟩
  | addressEnded reply =>
    obtain ⟨retired, hbusy, rfl⟩ := Option.map_eq_some_iff.mp hw
    exact h.addressEnded hbusy reply
  | retireReads =>
    cases hw
    exact h.quiet ⟨rfl, rfl, rfl, rfl, rfl, rfl, rfl⟩
  | selectAdapter selection =>
    cases hw
    exact h.remember selection

end Debounced

/-- A change that adds at most a teardown to the history and leaves the adoption gate. -/
structure Kept (w w' : InterfaceWatcher) : Prop where
  adoption : w'.activeAdoptionId = w.activeAdoptionId
  latch : w'.suppressedReconnect = w.suppressedReconnect
  history : w'.history = w.history ∨
    ∃ time changed outage, w'.history = .teardown time changed outage :: w.history

theorem Quiet.kept (h : Quiet w w') : Kept w w' := ⟨h.adoption, h.latch, .inl h.history⟩

theorem Kept.quiet (h : Kept w w₁) (h' : Quiet w₁ w') : Kept w w' where
  adoption := h'.adoption.trans h.adoption
  latch := h'.latch.trans h.latch
  history := h'.history ▸ h.history

theorem kept_rememberAdapterSelection (w : InterfaceWatcher) (selection : AdapterSelection) :
    Kept w (w.rememberAdapterSelection selection) := by
  cases hr : w.replaces selection
  · rw [rememberAdapterSelection_kept hr]
    exact ⟨rfl, rfl, .inl rfl⟩
  · rw [rememberAdapterSelection_replaced hr]
    refine ⟨rfl, rfl, ?_⟩
    simp only [dropAdapter]
    split
    · exact .inr ⟨_, _, _, rfl⟩
    · exact .inl rfl

theorem kept_applySelection (w : InterfaceWatcher) (selection : AdapterSelection) :
    Kept w (w.applySelection selection) := by
  have h := kept_rememberAdapterSelection w selection
  unfold applySelection
  dsimp only
  split
  · rw [cancelPendingDown_eq]
    exact ⟨h.adoption, h.latch, h.history⟩
  · exact ⟨h.adoption, h.latch, h.history⟩

theorem kept_adapterSelectionChanged (w : InterfaceWatcher) (selection : AdapterSelection) :
    Kept w (w.adapterSelectionChanged selection) := by
  unfold adapterSelectionChanged
  split
  · exact (quiet_refl w).kept
  · dsimp only
    split
    · exact (quiet_statusRead w).kept
    · have h := kept_rememberAdapterSelection
        { w with interfaceRefresh := w.interfaceRefresh + 1 } selection
      exact ⟨h.adoption, h.latch, h.history⟩

theorem kept_fetchReply (w : InterfaceWatcher) (flight : Flight) (reply : FetchReply) :
    Kept w (w.fetchReply flight reply) := by
  have hsettled : Kept w { w with refreshFlight := some { flight with settled := true } } :=
    ⟨rfl, rfl, .inl rfl⟩
  unfold fetchReply
  dsimp only
  split
  · exact hsettled
  · cases reply with
    | nothing => exact hsettled
    | selection selection =>
      have h := kept_applySelection { w with
        refreshFlight := some { flight with settled := true }, verifiedAddressView := false }
        selection
      exact ⟨h.adoption, h.latch, h.history⟩
    | failed =>
      dsimp only
      split
      · exact hsettled
      · split
        · next last _ =>
          have h := kept_applySelection
            { w with refreshFlight := some { flight with settled := true } } last
          exact ⟨h.adoption, h.latch, h.history⟩
        · exact hsettled

theorem kept_addressEnded (w : InterfaceWatcher) (retired : Bool) (reply : Option AddressView) :
    Kept w (w.addressEnded retired reply) := by
  have hreply (view : AddressView) : Kept w (w.applyAddressReply view) := by
    have h := kept_applySelection w.retireReads view.selection
    unfold applyAddressReply
    dsimp only
    split
    · exact ⟨rfl, rfl, .inl rfl⟩
    · exact ⟨h.adoption, h.latch, h.history⟩
  unfold addressEnded
  cases reply with
  | none => exact (quiet_addressSettled w).kept
  | some view =>
    dsimp only
    split
    · exact (quiet_addressSettled w).kept
    · exact (hreply view).quiet (quiet_addressSettled _)

theorem paired_cons {x : Happening} {history : List Happening} (hx : x.Paired history)
    (h : ∀ e earlier, e :: earlier <:+ history → e.Paired earlier) :
    ∀ e earlier, e :: earlier <:+ x :: history → e.Paired earlier := by
  intro e earlier hsuffix
  rcases List.suffix_cons_iff.mp hsuffix with heq | hsuffix
  · cases heq
    exact hx
  · exact h e earlier hsuffix

namespace Bracketed

theorem kept (h : w.Bracketed) (hk : Kept w w') (o : Option Outage) :
    Bracketed { w' with outage := o } := by
  obtain hsame | ⟨time, changed, outage, hcons⟩ := hk.history
  · exact ⟨by rw [hk.adoption, hsame, h.adoption], by rw [hk.latch, hsame, h.latch],
      hsame ▸ h.paired⟩
  · refine ⟨?_, ?_, ?_⟩ <;> dsimp only <;> rw [hcons]
    · exact hk.adoption.trans h.adoption
    · exact hk.latch.trans h.latch
    · exact paired_cons trivial h.paired

/-- An up event adds a reconnect, held back where an adoption is in progress. -/
theorem up (h : w.Bracketed) (hq : Quiet w w₁) (wasDown : Bool) :
    Bracketed { w₁.cancelPendingDown.applyUpEvent iface wasDown with outage := none } := by
  rw [applyUpEvent_eq, cancelPendingDown_eq]
  cases wasDown
  · have hlatch : w₁.suppressedReconnect = owed w₁.history := by
      rw [hq.latch, hq.history, h.latch]
    exact ⟨(h.quiet hq).adoption, by simpa using hlatch, (h.quiet hq).paired⟩
  · have hpaired : (Happening.reconnect w₁.now w₁.outage w₁.activeAdoptionId.isSome).Paired
        w₁.history := by
      rw [(h.quiet hq).adoption]
      rfl
    refine ⟨(h.quiet hq).adoption, ?_, paired_cons hpaired (h.quiet hq).paired⟩
    dsimp only
    cases hadoption : w₁.activeAdoptionId
    · simpa [owed] using (h.quiet hq).latch
    · simp [owed]

theorem finish (h : w.Bracketed) (adoption : String) : (w.adoptionFinished adoption).Bracketed := by
  unfold adoptionFinished
  split
  · next hstale =>
    rw [h.adoption] at hstale
    refine ⟨by simpa [current, hstale] using h.adoption, by simpa [owed, hstale] using h.latch,
      paired_cons ?_ h.paired⟩
    simp [Happening.Paired, hstale]
  · next hactive =>
    rw [not_not, h.adoption] at hactive
    refine ⟨by simp [current, hactive], by simp [owed, hactive], paired_cons ?_ h.paired⟩
    simp [Happening.Paired, hactive, h.latch]

theorem status (h : w.Bracketed) (iface : InterfaceInfo) :
    Bracketed { w.interfaceStatusChanged iface with outage := w.hearStatus iface } := by
  unfold hearStatus
  rcases interfaceStatusChanged_cases w iface with
    ⟨hwatch, heq⟩ | ⟨-, -, hq⟩ | ⟨-, -, heq⟩ | ⟨hwatch, -, w₁, hq, heq⟩
  · rw [heq]
    simpa [hwatch] using h
  · exact h.kept hq.kept _
  · rw [heq]
    refine h.kept ?_ _
    split
    · rw [cancelPendingDown_eq]
      exact ⟨rfl, rfl, .inl rfl⟩
    · exact (quiet_refl w).kept
  · rw [heq]
    simp only [hwatch, Bool.not_true, Bool.false_eq_true, if_false]
    split
    · exact ⟨(h.quiet hq).adoption, (h.quiet hq).latch, (h.quiet hq).paired⟩
    · exact h.up hq _

theorem step (h : w.Bracketed) (hs : machine.step w call = some w') : w'.Bracketed := by
  obtain ⟨w₁, hw, rfl⟩ := Option.map_eq_some_iff.mp hs
  cases call with
  | elapse ms =>
    cases hw
    exact ⟨h.adoption, h.latch, h.paired⟩
  | interfaceStatusChanged iface =>
    cases hw
    exact h.status iface
  | adapterSelectionChanged selection =>
    cases hw
    exact h.kept (kept_adapterSelectionChanged w selection) _
  | adoptionStarted adoption =>
    cases hw
    exact ⟨rfl, h.latch, paired_cons trivial h.paired⟩
  | adoptionFinished adoption =>
    cases hw
    have hfinish := h.finish adoption
    exact ⟨hfinish.adoption, hfinish.latch, hfinish.paired⟩
  | downTimer =>
    simp only [handle] at hw
    split at hw
    · cases hw
    · split at hw
      · cases hw
      · split at hw
        · cases hw
          exact ⟨h.adoption, h.latch, h.paired⟩
        · cases hw
          exact ⟨h.adoption, h.latch, paired_cons trivial h.paired⟩
  | eventRefresh =>
    simp only [handle] at hw
    split at hw
    · cases hw
      have hidle : Quiet w { w with eventRefreshQueued := false } :=
        ⟨rfl, rfl, rfl, rfl, rfl, rfl, rfl⟩
      exact h.kept (hidle.trans (quiet_refreshInterfaces _)).kept _
    · cases hw
  | refreshInterfaces =>
    cases hw
    exact h.kept (quiet_refreshInterfaces w).kept _
  | refreshNetworkEvent =>
    cases hw
    exact h.kept (quiet_refreshNetworkEvent w).kept _
  | fetchReply reply =>
    simp only [handle] at hw
    split at hw
    · cases hw
    · split at hw
      · cases hw
      · cases hw
        exact h.kept (kept_fetchReply w _ reply) _
  | fetchSettled =>
    simp only [handle] at hw
    split at hw
    · cases hw
      exact h.kept (quiet_fetchSettled w).kept _
    · cases hw
  | mutateAddress =>
    simp only [handle] at hw
    split at hw
    · cases hw
    · cases hw
      exact ⟨h.adoption, h.latch, h.paired⟩
  | addressEnded reply =>
    obtain ⟨retired, -, rfl⟩ := Option.map_eq_some_iff.mp hw
    exact h.kept (kept_addressEnded w retired reply) _
  | retireReads =>
    cases hw
    exact ⟨h.adoption, h.latch, h.paired⟩
  | selectAdapter selection =>
    cases hw
    exact h.kept (kept_rememberAdapterSelection w selection) _

end Bracketed

theorem reachable_bracketed (h : machine.Reachable w) : w.Bracketed :=
  h.invariant ⟨rfl, rfl, by simp [machine, initial]⟩ fun _ _ _ hw hs => hw.step hs

theorem reaches_debounced (h : machine.Reaches (fun w call => w.overlooks call = false) w) :
    w.Debounced := by
  refine h.invariant (Q := fun _ => True) (fun _ _ => trivial) ?_ fun w call w' _ hw ha hs =>
    hw.step ha hs
  exact ⟨nofun, nofun, nofun, nofun⟩

/-- While no up event is overlooked, a teardown of the same adapter and a reconnect after an outage
take a stable outage. In every run a held-back reconnect is resumed by the finish of the adoption in
progress, once, and by no other. -/
theorem short_bounces_invisible
    (h : machine.Reaches (fun w call => w.overlooks call = false) w) :
    (∀ e ∈ w.history, e.Stable) ∧
      ∀ e earlier, e :: earlier <:+ w.history → e.Paired earlier :=
  ⟨(reaches_debounced h).stable, (reachable_bracketed h.reachable).paired⟩

section Runs

def plugged : InterfaceInfo where
  name := "Ethernet"
  displayName := "Ethernet"
  description := "USB Ethernet"
  ips := [⟨"192.168.1.100", 24, "192.168.1.0/24"⟩]
  mac := "02:00:00:00:00:01"
  isUp := true
  isEthernet := true
  isWifi := false
  isVpn := false
  isVirtual := false

def unplugged : InterfaceInfo := { plugged with isUp := false }

def selected (iface : InterfaceInfo) : AdapterSelection where
  selectedMac := some iface.mac
  adapter := some iface
  interfaceIndex := some 7
  selectionRequired := false
  candidates := [iface]

/-- The window has read a connected adapter. -/
def opening : List Call :=
  [.refreshInterfaces, .fetchReply (.selection (selected plugged)), .fetchSettled]

/-- A bounce leaves no trace, an outage of two seconds ends in a teardown, and the reconnect is held
back and resumed by the finish of the second adoption. -/
theorem outage_resumes_once :
    ∃ w : InterfaceWatcher, ((∀ e ∈ w.history, e.Stable) ∧
        ∀ e earlier, e :: earlier <:+ w.history → e.Paired earlier) ∧
      w.history = [.finished "b" true true, .finished "a" true false, .started "b",
        .reconnect 4000 (some ⟨1000, true, false⟩) true, .started "a",
        .teardown 3000 false (some ⟨1000, true, false⟩)] := by
  let calls := opening ++ [.interfaceStatusChanged unplugged, .elapse 1000,
    .interfaceStatusChanged plugged, .interfaceStatusChanged unplugged, .elapse 2000, .downTimer,
    .elapse 1000, .adoptionStarted "a", .interfaceStatusChanged plugged, .adoptionStarted "b",
    .adoptionFinished "a", .adoptionFinished "b"]
  have hadmits : machine.Admits (fun w call => w.overlooks call = false) machine.initial calls := by
    decide +kernel
  have hrun : machine.run machine.initial calls =
      some ((machine.run machine.initial calls).get (by decide +kernel)) := by simp
  exact ⟨_, short_bounces_invisible (.run .initial hadmits hrun), by decide +kernel⟩

/-- The refetch that the down event asks for shows the adapter down, and the up event a second later
is taken for a reconnect. An up event during an address operation does not disarm the timer. -/
theorem short_bounce_reconnects :
    (∃ w : InterfaceWatcher, machine.Reachable w ∧ ∃ e ∈ w.history,
      e = .reconnect 1000 (some ⟨0, true, true⟩) false ∧ ¬ e.Stable) ∧
    ∃ w : InterfaceWatcher, machine.Reachable w ∧ ∃ e ∈ w.history,
      e = .teardown 2000 false none ∧ ¬ e.Stable := by
  let bounce := opening ++ [.interfaceStatusChanged unplugged, .eventRefresh,
    .fetchReply (.selection (selected unplugged)), .elapse 1000, .interfaceStatusChanged plugged]
  let operation := opening ++ [.interfaceStatusChanged unplugged, .mutateAddress, .elapse 1000,
    .interfaceStatusChanged plugged, .elapse 1000, .downTimer]
  have hbounce : machine.run machine.initial bounce =
      some ((machine.run machine.initial bounce).get (by decide +kernel)) := by simp
  have hoperation : machine.run machine.initial operation =
      some ((machine.run machine.initial operation).get (by decide +kernel)) := by simp
  refine ⟨⟨_, .run .initial hbounce, _, ?_, rfl, ?_⟩, ⟨_, .run .initial hoperation, _, ?_, rfl, ?_⟩⟩
  · decide +kernel
  · simp [Happening.Stable, STABLE_DOWN_MS]
  · decide +kernel
  · simp [Happening.Stable]

end Runs

end PocketStream.InterfaceWatcher
