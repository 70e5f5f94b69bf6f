import PocketStream.Binding.Observation
import PocketStream.Binding.ReconcileTruth
import PocketStream.Config.Ownership

/-! # Removals follow a saved intent

The settings are a store that other writers may change while an operation waits,
but for the rows of removed addresses. Every removal the operation issues has
its row in that store, a reported success is what the last observation shows,
and a run that fails keeps the row.
-/

namespace PocketStream

open Foundation Routine World

/-- The settings hold a removed row for exactly the address. -/
def RemovedFor (s : AppSettings) (subnet address : String) : Prop :=
  ∃ row, s.adoptedMeta.lookup subnet = some row ∧ row.desired = .removed ∧
    row.address = some address

/-- The run has durably saved a removed row for exactly the address, and it is still there. -/
structure IntentKept (subnet address : String) (s : AddressState) : Prop where
  written : ∃ row, ⟨.persistIntent subnet row, .ok ()⟩ ∈ s.2 ∧ row.desired = .removed ∧
    row.address = some address
  memory : RemovedFor s.1.memory subnet address
  disk : RemovedFor s.1.disk subnet address

section Removal

variable {N : Type} (net : IpNetwork N)

/-- A row that is not the address's own has the key of its subnet. -/
def OtherRowHolds (address : String) (s : AddressState) : Prop :=
  ∃ settings prefixLen key row, ⟨.settings, settings⟩ ∈ s.2 ∧
    subnetKey net address prefixLen = some key ∧
    settings.adoptedMeta.lookup key = some row ∧ row.address ≠ some address

/-- A removal is issued with its intent saved, unless another row holds the key; what is saved
as an intent is the removed row of an address, and every call keeps the intents saved before. -/
structure RemovalGuard (call : AddressCall) (s : AddressState) : Prop where
  covered : ∀ adapter ip, call = .remove adapter ip →
    (∃ subnet, IntentKept subnet ip s) ∨ OtherRowHolds net ip s
  intended : ∀ subnet row, call = .persistIntent subnet row → row.desired = .removed ∧
    ∃ address, row.address = some address
  keeps : ∀ o subnet address, IntentKept subnet address s →
    IntentKept subnet address (addressWorld.logged.handle s call o).2

end Removal

/-- A saved intent belongs to the run's row. -/
def OwnIntent (tx : Transaction) (s : AddressState) : Prop :=
  tx.intentSaved = true → ∃ subnet row, tx.subnet = some subnet ∧ tx.row = some row ∧
    row.desired = .removed ∧ row.address = some tx.address ∧ IntentKept subnet tx.address s

/-- A reported success is what the last observation shows. -/
def Shown (add : Bool) (tx : Transaction) (s : AddressState) : Prop :=
  tx.outcome = .success → ∃ snapshot, tx.observed = some snapshot ∧ Seen snapshot s ∧
    requestedState snapshot tx.address tx.prefixLen add = true

/-- The run goes on, with nothing to report yet. -/
def Unfinished (tx : Transaction) (s : AddressState) : Prop := OwnIntent tx s ∧ tx.outcome ≠ .success

/-! ### What other writers and reads leave alone -/

theorem RemovedFor.interfere {w : Store} {subnet address : String} (writer : OtherWriter) :
    (RemovedFor w.memory subnet address → RemovedFor (writer.apply w).memory subnet address) ∧
      (RemovedFor w.disk subnet address → RemovedFor (writer.apply w).disk subnet address) :=
  ⟨fun ⟨row, hrow, hd, ha⟩ => ⟨row, writer.memory w subnet row hd hrow, hd, ha⟩,
    fun ⟨row, hrow, hd, ha⟩ => ⟨row, writer.disk w subnet row hd hrow, hd, ha⟩⟩

theorem stable_intentKept (subnet address : String) :
    addressWorld.logged.Stable (IntentKept subnet address) :=
  fun _ writer h => ⟨h.written, (RemovedFor.interfere writer).1 h.memory,
    (RemovedFor.interfere writer).2 h.disk⟩

theorem stable_ownIntent (tx : Transaction) : addressWorld.logged.Stable (OwnIntent tx) :=
  fun s writer h hsaved => by
    obtain ⟨subnet, row, hs, hr, hd, ha, hkept⟩ := h hsaved
    exact ⟨subnet, row, hs, hr, hd, ha, stable_intentKept _ _ s writer hkept⟩

theorem IntentKept.append {subnet address : String} {w : Store} {log : AddressLog}
    (h : IntentKept subnet address (w, log)) (event : (call : AddressCall) × call.Reply) :
    IntentKept subnet address (w, log ++ [event]) := by
  obtain ⟨⟨row, hmem, hrow⟩, hm, hd⟩ := h
  exact ⟨⟨row, List.mem_append_left _ hmem, hrow⟩, hm, hd⟩

theorem OwnIntent.append {tx : Transaction} {w : Store} {log : AddressLog} (h : OwnIntent tx (w, log))
    (event : (call : AddressCall) × call.Reply) : OwnIntent tx (w, log ++ [event]) := fun hsaved => by
  obtain ⟨subnet, row, hs, hr, hd, ha, hkept⟩ := h hsaved
  exact ⟨subnet, row, hs, hr, hd, ha, hkept.append event⟩

theorem readable_unfinished : Readable Unfinished where
  stable tx s writer h := ⟨stable_ownIntent tx s writer h.1, h.2⟩
  quiet _ _ _ _ _ _ h := ⟨h.1.append _, h.2⟩
  native _ _ _ _ h := ⟨h.1.append _, h.2⟩

/-! ### What a run may issue -/

section Guard

variable {N : Type} {net : IpNetwork N}

abbrev Holds (net : IpNetwork N) {α : Type} (P : Transaction → AddressState → Prop)
    (x : AddressOp α) (good : α → Transaction → AddressState → Prop)
    (bad : AppError → Transaction → AddressState → Prop) : Prop :=
  addressWorld.logged.Runs (RemovalGuard net) P x good bad

/-- A call that leaves the settings alone keeps every intent. -/
theorem keeps_of_store {call : AddressCall} {s : AddressState}
    (h : ∀ o, (call.handle s.1 o).2 = s.1) (o : AddressAnswer) (subnet address : String)
    (hk : IntentKept subnet address s) :
    IntentKept subnet address (addressWorld.logged.handle s call o).2 := by
  have hs : (addressWorld.logged.handle s call o).2 =
      (s.1, s.2 ++ [⟨call, (call.handle s.1 o).1⟩]) :=
    Prod.ext (h o) rfl
  rw [hs]
  exact hk.append _

theorem guard_quiet {call : AddressCall} (hc : call.quiet = true) (s : AddressState) :
    RemovalGuard net call s where
  covered adapter ip he := by
    rw [he] at hc
    cases hc
  intended subnet row he := by
    rw [he] at hc
    cases hc
  keeps := keeps_of_store (quiet_store hc s.1)

theorem guard_native (s : AddressState) : RemovalGuard net .native s where
  covered _ _ he := by cases he
  intended _ _ he := by cases he
  keeps := keeps_of_store fun _ => rfl

theorem guard_add (adapter : NativeAdapter) (ip mask : String) (s : AddressState) :
    RemovalGuard net (.add adapter ip mask) s where
  covered _ _ he := by cases he
  intended _ _ he := by cases he
  keeps := keeps_of_store fun _ => rfl

theorem guard_remove {adapter : NativeAdapter} {ip : String} {s : AddressState}
    (h : (∃ subnet, IntentKept subnet ip s) ∨ OtherRowHolds net ip s) :
    RemovalGuard net (.remove adapter ip) s where
  covered _ _ he := by
    cases he
    exact h
  intended _ _ he := by cases he
  keeps := keeps_of_store fun _ => rfl

instance observes_removalGuard : Observes (RemovalGuard net) where
  quiet _ s hc := guard_quiet hc s
  native := guard_native

end Guard

/-! ### A saved intent stays -/

section SavedRow

variable {subnet address : String} {row : AdoptedMeta}

/-- A removed row of an address in memory and in the file. -/
def RemovedIn (w : Store) (subnet address : String) : Prop :=
  RemovedFor w.memory subnet address ∧ RemovedFor w.disk subnet address

/-- Saving a removed row keeps the removed rows of every subnet; a forced save always writes it. -/
theorem removedIn_setBinding (w : Store) (subnet : String) (force : Bool)
    (saved : Fallible Unit) (hd : row.desired = .removed) (ha : row.address = some address) :
    let r := w.changeIf (AppSettings.setBindingForOperation subnet row force) saved
    (∀ subnet' address', (subnet' = subnet → address' = address) → RemovedIn w subnet' address' →
      RemovedIn r.2 subnet' address') ∧
      (force = true → r.1 = .ok () → RemovedIn r.2 subnet address) := by
  intro r
  rcases w.changeIf_cases (AppSettings.setBindingForOperation subnet row force) saved with
    ⟨e, hr⟩ | ⟨u, next, hf, hr⟩ | ⟨u, next, hf, -, hr⟩
  · simp only [r, hr]
    exact ⟨fun _ _ _ => id, fun _ h => by cases h⟩
  · simp only [r, hr]
    refine ⟨fun _ _ _ => id, fun hforce _ => ?_⟩
    subst hforce
    simp only [AppSettings.setBindingForOperation, Bool.not_true, Bool.false_and,
      Bool.false_eq_true, if_false] at hf
    split at hf <;> cases hf
  · simp only [r, hr]
    obtain ⟨hc, -⟩ | ⟨-, -, -, hmeta⟩ := AppSettings.setBinding_spec hf
    · cases hc
    have own : RemovedFor next subnet address := ⟨row, (hmeta subnet).trans (if_pos rfl), hd, ha⟩
    refine ⟨fun subnet' address' hsame h => ?_, fun _ _ => ⟨own, own⟩⟩
    by_cases he : subnet' = subnet
    · obtain rfl := hsame he
      exact he ▸ ⟨own, own⟩
    · obtain ⟨row', hrow', hrest⟩ := h.1
      have : RemovedFor next subnet' address' :=
        ⟨row', ((hmeta subnet').trans (if_neg he)).trans hrow', hrest⟩
      exact ⟨this, this⟩

theorem RemovedFor.address_eq {s : AppSettings} {address' : String} (h : RemovedFor s subnet address)
    (h' : RemovedFor s subnet address') : address' = address := by
  obtain ⟨row, hrow, -, ha⟩ := h
  obtain ⟨row', hrow', -, ha'⟩ := h'
  obtain rfl := Option.some.inj (hrow.symm.trans hrow')
  exact Option.some.inj (ha'.symm.trans ha)

/-- The intent of the run is saved, and `row` is what the run makes of its row. -/
structure Tracked (subnet : String) (row : AdoptedMeta) (tx : Transaction) (s : AddressState) :
    Prop where
  saved : tx.intentSaved = true
  key : tx.subnet = some subnet
  owned : ∃ r, tx.row = some r ∧ r.desired = .removed ∧ r.address = some tx.address
  desired : row.desired = .removed
  address : row.address = some tx.address
  prefixLen : row.prefixLen = tx.prefixLen
  kept : IntentKept subnet tx.address s
  unreported : tx.outcome ≠ .success

theorem Tracked.unfinished {tx : Transaction} {s : AddressState} (h : Tracked subnet row tx s) :
    Unfinished tx s :=
  ⟨fun _ => by
    obtain ⟨r, hr, hd, ha⟩ := h.owned
    exact ⟨subnet, r, h.key, hr, hd, ha, h.kept⟩, h.unreported⟩

theorem Tracked.state {tx : Transaction} {s s' : AddressState} (h : Tracked subnet row tx s)
    (hk : IntentKept subnet tx.address s') : Tracked subnet row tx s' := { h with kept := hk }

theorem readable_tracked (subnet : String) (row : AdoptedMeta) : Readable (Tracked subnet row) where
  stable _ s writer h := h.state (stable_intentKept _ _ s writer h.kept)
  quiet _ _ _ _ _ _ h := h.state (h.kept.append _)
  native _ _ _ _ h := h.state (h.kept.append _)

/-- A row without an error tells of an address that the last observation does not show. -/
def Settled (before : OperationSnapshot) (row : AdoptedMeta) (tx : Transaction)
    (s : AddressState) : Prop :=
  row.lastError = none → row.applied = false →
    ∃ snapshot, tx.verified.getD (.ok before) = .ok snapshot ∧ Seen snapshot s ∧
      requestedState snapshot tx.address tx.prefixLen false = true

variable {N : Type} {net : IpNetwork N}

/-- The record of a run that has saved and reported nothing. -/
structure Unsaved (tx : Transaction) : Prop where
  unsaved : tx.intentSaved = false
  unreported : tx.outcome ≠ .success
  unverified : tx.verified = none

/-- A fresh run, which has written no intent. -/
structure Fresh (tx : Transaction) (log : AddressLog) : Prop extends Unsaved tx where
  unwritten : ∀ subnet row, ⟨.persistIntent subnet row, .ok ()⟩ ∉ log

theorem Unsaved.unfinished {tx : Transaction} {s : AddressState} (h : Unsaved tx) :
    Unfinished tx s :=
  ⟨fun hs => absurd (h.unsaved.symm.trans hs) Bool.false_ne_true, h.unreported⟩

/-- Before its intent a run may make any other change. -/
theorem Fresh.guard {tx : Transaction} {s : AddressState} (h : Fresh tx s.2) {call : AddressCall}
    (hr : ∀ adapter ip, call ≠ .remove adapter ip)
    (hi : ∀ subnet row, call = .persistIntent subnet row → row.desired = .removed ∧
      ∃ address, row.address = some address) : RemovalGuard net call s where
  covered adapter ip he := absurd he (hr adapter ip)
  intended := hi
  keeps _ _ _ hk := by
    obtain ⟨row, hmem, -⟩ := hk.written
    exact absurd hmem (h.unwritten _ _)

theorem Fresh.append {tx : Transaction} {log : AddressLog} (h : Fresh tx log)
    {call : AddressCall} (r : call.Reply)
    (hi : ∀ subnet row, call ≠ .persistIntent subnet row) :
    Fresh tx (log ++ [⟨call, r⟩]) where
  toUnsaved := h.toUnsaved
  unwritten subnet row hmem := by
    rcases List.mem_append.mp hmem with hmem | hmem
    · exact h.unwritten subnet row hmem
    · cases List.mem_singleton.mp hmem
      exact hi subnet row rfl

/-- What is true of a log stays true as calls other than observations are made. -/
def Carried (F : AddressLog → Prop) : Prop :=
  ∀ log (event : (call : AddressCall) × call.Reply), event.1 ≠ .native → F log → F (log ++ [event])

theorem carried_seen (snapshot : OperationSnapshot) :
    Carried fun log => lastObservation log = some snapshot.all :=
  fun _ _ hne h => (lastObservation_quiet hne).trans h

theorem holds_saveIntent (subnet : String) (row : AdoptedMeta) {F : AddressLog → Prop}
    (hF : Carried F) :
    Holds net (fun tx s => Fresh tx s.2 ∧ row.desired = .removed ∧ row.address = some tx.address ∧
        row.prefixLen = tx.prefixLen ∧ F s.2) (saveIntent subnet row)
      (fun _ tx s => (Tracked subnet row tx s ∧ F s.2) ∧ tx.row = some row ∧ tx.verified = none)
      (fun _ => Unfinished) := by
  refine .bind (fun _ tx s => Unsaved tx ∧ row.desired = .removed ∧ row.address = some tx.address ∧
      row.prefixLen = tx.prefixLen ∧ F s.2 ∧ IntentKept subnet tx.address s) ?_
    (fun _ => readable_unfinished.stable) fun _ => ?_
  · refine .attempt (fun r tx s => Unsaved tx ∧ row.desired = .removed ∧
        row.address = some tx.address ∧ row.prefixLen = tx.prefixLen ∧ F s.2 ∧
        (r = .ok () → IntentKept subnet tx.address s)) (fun _ _ _ h => h)
      (fun tx s h => h.1.guard (fun _ _ he => by cases he) fun _ _ he => ?_) ?_ ?_ ?_ ?_
    · cases he
      exact ⟨h.2.1, _, h.2.2.1⟩
    · rintro tx ⟨w, log⟩ o ⟨hfresh, hd, ha, hp, hlog⟩
      refine ⟨hfresh.toUnsaved, hd, ha, hp, hF _ _ (fun he => by cases he) hlog, fun hr => ?_⟩
      have hset := (removedIn_setBinding w subnet true o.unit hd ha).2 rfl hr
      refine ⟨⟨row, ?_, hd, ha⟩, hset.1, hset.2⟩
      exact List.mem_append_right _ (List.mem_singleton.mpr (by rw [← hr]; rfl))
    · exact fun r tx s writer h => ⟨h.1, h.2.1, h.2.2.1, h.2.2.2.1, h.2.2.2.2.1,
        fun hr => stable_intentKept _ _ s writer (h.2.2.2.2.2 hr)⟩
    · exact fun r a tx s h hr =>
        ⟨h.1, h.2.1, h.2.2.1, h.2.2.2.1, h.2.2.2.2.1, h.2.2.2.2.2 hr⟩
    · exact fun r e tx s h hr => h.1.unfinished
  · refine .change (fun tx s writer h => ⟨h.1, h.2.1, h.2.2.1, h.2.2.2.1, h.2.2.2.2.1,
      stable_intentKept _ _ s writer h.2.2.2.2.2⟩) fun tx s h => ?_
    obtain ⟨hfresh, hd, ha, hp, hlog, hk⟩ := h
    exact ⟨⟨⟨rfl, rfl, ⟨row, rfl, hd, ha⟩, hd, ha, hp, hk, hfresh.unreported⟩, hlog⟩, rfl,
      hfresh.unverified⟩

/-! ### Removing a saved row -/

theorem holds_removeAddress {P : Transaction → AddressState → Prop}
    {bad : AppError → Transaction → AddressState → Prop} (adapter : NativeAdapter) (ip : String)
    (hst : ∀ tx, addressWorld.logged.Stable (P tx))
    (hcov : ∀ tx s, P tx s → (∃ subnet, IntentKept subnet ip s) ∨ OtherRowHolds net ip s)
    (happ : ∀ tx w log r, P tx (w, log) → P tx (w, log ++ [⟨.remove adapter ip, r⟩])) :
    Holds net P (removeAddress adapter ip) (fun _ => P) bad :=
  .ask hst (fun tx s h => guard_remove (hcov tx s h))
    (fun tx s o h => happ tx s.1 s.2 o.unit h) fun _ => hst

/-- What is read back after a removal. -/
def ReadBack (obs : Fallible (List IpInfo)) (tx : Transaction) (s : AddressState) : Prop :=
  ∀ ips, obs = .ok ips → ∃ snapshot, tx.verified = some (.ok snapshot) ∧ Seen snapshot s ∧
    ips = snapshot.selected.ips ∧
    ∀ i ∈ ips, i.address = tx.address → some i.prefixLen = tx.prefixLen

theorem holds_verifyRemoval (before : OperationSnapshot) (subnet : String) (row : AdoptedMeta) :
    Holds net (Tracked subnet row) (verifyRemoval before)
      (fun obs tx s => Tracked subnet row tx s ∧ ReadBack obs tx s) (fun _ => Unfinished) := by
  have hR := readable_tracked subnet row
  have hS : ∀ snapshot, Quiet fun tx s => Tracked subnet row tx s ∧ Seen snapshot s :=
    fun snapshot => hR.toQuiet.and (quiet_seen snapshot)
  refine .bind (fun r tx s => ends (fun snapshot tx s => Tracked subnet row tx s ∧ Seen snapshot s)
      (fun _ => Tracked subnet row) (r, tx) s)
    (.caught (reads_observeAddressState hR before false _) (fun a => (hS a).stable)
      fun _ => hR.stable) (fun _ => readable_unfinished.stable) fun result => ?_
  cases result with
  | error e =>
    refine .bind (fun _ => Tracked subnet row) (.change hR.stable fun tx s h => { h with })
      (fun _ => readable_unfinished.stable) fun _ => ?_
    refine .bind _ (.look hR.stable) (fun _ => readable_unfinished.stable) fun tx => ?_
    exact .pure hR.stable fun tx s h => ⟨h, fun ips hips => by cases hips⟩
  | ok after =>
    have hV : Quiet fun tx s => (Tracked subnet row tx s ∧ Seen after s) ∧
        tx.verified = some (.ok after) := (hS after).and (readable_record _).toQuiet
    refine .bind (fun _ tx s => (Tracked subnet row tx s ∧ Seen after s) ∧
        tx.verified = some (.ok after)) (.change (hS after).stable fun tx s h => ?_)
      (fun _ => readable_unfinished.stable) fun _ => ?_
    · exact ⟨⟨{ h.1 with }, h.2⟩, rfl⟩
    · refine .bind _ (.record hV.stable) (fun _ => readable_unfinished.stable) fun tx => ?_
      have hst : ∀ tx', addressWorld.logged.Stable fun s => ((Tracked subnet row tx' s ∧
          Seen after s) ∧ tx'.verified = some (.ok after)) ∧ tx = tx' :=
        fun tx' => (hV.stable tx').and fun _ _ h => h
      dsimp only
      split
      · exact .pure hst fun tx' s h => ⟨h.1.1.1, fun ips hips => by cases hips⟩
      · next hsame =>
        refine .pure hst fun tx' s h => ⟨h.1.1.1, fun ips hips => ?_⟩
        obtain ⟨⟨⟨-, hseen⟩, hver⟩, rfl⟩ := h
        cases hips
        refine ⟨after, hver, hseen, rfl, fun i hi ha => ?_⟩
        by_contra hp
        exact hsame (List.any_eq_true.mpr ⟨i, hi, by simp [ha, hp]⟩)

/-- The run's row after a change that keeps what it is for. -/
theorem Tracked.become {row' : AdoptedMeta} {tx : Transaction} {s : AddressState}
    (h : Tracked subnet row tx s) (hd : row'.desired = row.desired)
    (ha : row'.address = row.address) (hp : row'.prefixLen = row.prefixLen) :
    Tracked subnet row' tx s :=
  { h with desired := hd.trans h.desired, address := ha.trans h.address,
           prefixLen := hp.trans h.prefixLen }

/-- A settled removal without an error is an address the read back does not list. -/
theorem settled_removal {before : OperationSnapshot} {r : AdoptedMeta} {tx : Transaction}
    {s : AddressState} {result : Fallible Unit} {obs : Fallible (List IpInfo)}
    (iface : Option InterfaceInfo) (hr : Tracked subnet r tx s) (hread : ReadBack obs tx s) :
    Settled before (confirmOwner iface (settle r result obs)) tx s := by
  intro herr happ
  obtain ⟨-, ca, -, -, ce⟩ := confirmOwner_fields iface (settle r result obs)
  obtain ⟨-, ips, rfl, ha, -⟩ := settle_ok (ce ▸ herr)
  obtain ⟨snapshot, hver, hseen, rfl, hprefix⟩ := hread ips rfl
  refine ⟨snapshot, by rw [hver]; rfl, hseen, ?_⟩
  rw [ca, ha] at happ
  simp only [requestedState, Bool.false_eq_true, if_false, List.all_eq_true, bne_iff_ne]
  intro i hi haddr
  have : listsBinding r snapshot.selected.ips = true :=
    List.any_eq_true.mpr ⟨i, hi, by simp [hr.address, hr.prefixLen, haddr, hprefix i hi haddr]⟩
  rw [this] at happ
  cases happ

/-- An absent address needs no write. -/
theorem settled_absent {before : OperationSnapshot} {row' : AdoptedMeta} {tx : Transaction}
    {s : AddressState} {ip : Ipv4Addr} (hseen : Seen before s) (hver : tx.verified = none)
    (haddr : tx.address = ip.toText)
    (habs : before.selected.ips.find? (·.address == ip.toText) = none) :
    Settled before row' tx s := by
  intro _ _
  refine ⟨before, by rw [hver]; rfl, hseen, ?_⟩
  simpa [requestedState, haddr] using habs

theorem rowAction_removed {descriptor : NativeAdapter → Option Bool} (before : OperationSnapshot)
    (mode : NetworkMode) (exported : Option String) (hd : row.desired = .removed) :
    rowAction net subnet row (.ok (before.binding net descriptor)) mode exported =
      bindingAction net subnet row (some before.iface) mode (.ok before.selected.dhcp)
        (nativeConflicts net before descriptor) := by
  simp [rowAction, hd, OperationSnapshot.binding]

theorem holds_applyRemoved (before : OperationSnapshot) (subnet : String) (row : AdoptedMeta)
    {action : BindingAction} {dhcp : Bool} {conflicts : List N}
    (hdec : Decided net subnet row before.iface dhcp conflicts action)
    (hd : row.desired = .removed) :
    Holds net (fun tx s => (Tracked subnet row tx s ∧ Seen before s) ∧ tx.verified = none)
      (applyBinding (addressOps before.selected) row action (some before.iface)
        (verifyRemoval before))
      (fun row' tx s => Tracked subnet row' tx s ∧ Settled before row' tx s)
      (fun _ => Unfinished) := by
  have hR := readable_tracked subnet row
  have hV : Quiet fun tx s => (Tracked subnet row tx s ∧ Seen before s) ∧ tx.verified = none :=
    (hR.toQuiet.and (quiet_seen before)).and (readable_record _).toQuiet
  cases hdec with
  | unavailable reason hp =>
    rw [hd] at hp
    cases hp
  | present ip prefixLen hsaved hp hobs =>
    rw [hd] at hp
    cases hp
  | add ip prefixLen howner hsaved hp =>
    rw [hd] at hp
    cases hp
  | hold reason =>
    refine .pure hV.stable fun tx s h => ?_
    obtain ⟨cd, -, ca, cp, ce⟩ := confirmOwner_fields (some before.iface)
      { row with applied := false, lastError := some reason }
    exact ⟨h.1.1.become cd ca cp, fun herr => by rw [ce] at herr; cases herr⟩
  | absent ip prefixLen hsaved _ hobs =>
    refine .pure hV.stable fun tx s h => ?_
    obtain ⟨cd, -, ca, cp, -⟩ := confirmOwner_fields (some before.iface)
      { row with applied := false, lastError := none }
    refine ⟨h.1.1.become cd ca cp, settled_absent h.1.2 h.2 ?_ hobs⟩
    exact Option.some.inj (h.1.1.address.symm.trans (savedAddress_eq_some hsaved).1)
  | remove ip prefixLen howner hsaved _ hobs =>
    have haddr := (savedAddress_eq_some hsaved).1
    let r : AdoptedMeta := { row with applied := true, lastError := none }
    have hRr := readable_tracked subnet r
    refine .bind (fun _ => Tracked subnet r) ?_ (fun _ => readable_unfinished.stable)
      fun result => ?_
    · have hr : ∀ tx s, ((Tracked subnet row tx s ∧ Seen before s) ∧ tx.verified = none) →
          Tracked subnet r tx s := fun tx s h => { h.1.1 with }
      refine .conseq (?_ : Holds net (Tracked subnet r) _ _ (fun _ => Unfinished)) hr
        (fun _ _ _ h => h) fun _ _ _ h => h
      simp only [addressOps]
      split
      · exact .pure hRr.stable fun _ _ h => h
      · refine holds_removeAddress _ _ hRr.stable (fun tx s h => .inl ⟨subnet, ?_⟩)
          fun tx w log res h => h.state (h.kept.append _)
        have : tx.address = ip.toText := Option.some.inj (h.address.symm.trans haddr)
        exact this ▸ h.kept
    · refine .bind _ (holds_verifyRemoval before subnet r) (fun _ => readable_unfinished.stable)
        fun obs => ?_
      refine .pure (fun tx s writer h => ⟨hRr.stable tx s writer h.1, h.2⟩) fun tx s h => ?_
      obtain ⟨cd, -, ca, cp, -⟩ := confirmOwner_fields (some before.iface) (settle r result obs)
      exact ⟨h.1.become cd ca cp, settled_removal _ h.1 h.2⟩

/-- Saving the run's row once more keeps every intent. -/
theorem IntentKept.persist {w : Store} {log : AddressLog} (h : IntentKept subnet address (w, log))
    (o : AddressAnswer) (hd : row.desired = .removed) (ha : row.address = some address)
    {subnet' address' : String} (h' : IntentKept subnet' address' (w, log)) :
    IntentKept subnet' address'
      (addressWorld.logged.handle (w, log) (.persistBinding subnet row) o).2 := by
  obtain ⟨hkeep, -⟩ := removedIn_setBinding w subnet false o.unit hd ha
  obtain ⟨hm, hdisk⟩ := hkeep subnet' address' (fun he => by
    subst he
    exact h.memory.address_eq h'.memory) ⟨h'.memory, h'.disk⟩
  obtain ⟨r, hmem, hr⟩ := h'.written
  exact ⟨⟨r, List.mem_append_left _ hmem, hr⟩, hm, hdisk⟩

theorem IntentKept.guard {s : AddressState} (h : IntentKept subnet address s)
    (hd : row.desired = .removed) (ha : row.address = some address) :
    RemovalGuard net (.persistBinding subnet row) s where
  covered _ _ he := by cases he
  intended _ _ he := by cases he
  keeps o _ _ h' := h.persist o hd ha h'

/-- Saving the row keeps what it says and that the run owns it. -/
theorem holds_publishRow (before : OperationSnapshot) (subnet : String) (row : AdoptedMeta)
    {bad : AppError → Transaction → AddressState → Prop} (hbad : ∀ e t, addressWorld.logged.Stable (bad e t)) :
    Holds net (fun tx s => Tracked subnet row tx s ∧ Settled before row tx s)
      (publishRow subnet row)
      (fun row' tx s => Tracked subnet row' tx s ∧ Settled before row' tx s) bad := by
  have hst : ∀ tx, addressWorld.logged.Stable fun s =>
      Tracked subnet row tx s ∧ Settled before row tx s :=
    fun tx s writer h => ⟨(readable_tracked subnet row).stable tx s writer h.1, h.2⟩
  refine .bind (fun _ tx s => Tracked subnet row tx s ∧ Settled before row tx s) ?_ hbad
    fun saved => ?_
  · refine .ask hst (fun tx s h => h.1.kept.guard h.1.desired h.1.address) ?_ fun _ => hst
    rintro tx ⟨w, log⟩ o ⟨ht, hset⟩
    refine ⟨ht.state (ht.kept.persist o ht.desired ht.address ht.kept), fun herr happ => ?_⟩
    obtain ⟨snapshot, hver, hseen, hreq⟩ := hset herr happ
    exact ⟨snapshot, hver, (lastObservation_quiet fun he => by cases he).trans hseen, hreq⟩
  · refine .pure hst fun tx s h => ?_
    obtain ⟨pd, pa, paddr, pp⟩ := publishBinding_fields row saved
    refine ⟨h.1.become pd paddr pp, fun herr happ => ?_⟩
    exact h.2 (publishBinding_error herr).2 (pa ▸ happ)

theorem holds_reconcileSavedRow (before : OperationSnapshot) (subnet : String)
    (row : AdoptedMeta) :
    Holds net (fun tx s => (Tracked subnet row tx s ∧ Seen before s) ∧ tx.verified = none)
      (reconcileSavedRow net before subnet row)
      (fun row' tx s => Tracked subnet row' tx s ∧ Settled before row' tx s)
      (fun _ => Unfinished) := by
  have hV : Quiet fun tx s => (Tracked subnet row tx s ∧ Seen before s) ∧ tx.verified = none :=
    ((readable_tracked subnet row).toQuiet.and (quiet_seen before)).and (readable_record _).toQuiet
  have hb := fun (_ : AppError) => readable_unfinished.stable
  refine .bind _ (.look hV.stable) hb fun tx => ?_
  refine .bind _ (reads_descriptors hV) hb fun descriptor => ?_
  refine .bind _ (reads_getSettings hV) hb fun settings => ?_
  refine .given (φ := row.desired = .removed) (fun _ _ h => h.1.1.desired) fun hd => ?_
  dsimp only
  rw [rowAction_removed before tx.mode _ hd]
  refine .bind _ (holds_applyRemoved before subnet row (decided_bindingAction ..) hd) hb
    fun row' => ?_
  exact holds_publishRow before subnet row' hb

theorem rowOutcome_success {observationError : Option String}
    (h : rowOutcome row observationError = .success) :
    row.lastError = none ∧ row.applied = false := by
  unfold rowOutcome at h
  split at h
  · next hc => simpa using hc
  · split at h <;> cases h

theorem reportObservation_fields (before : OperationSnapshot) (tx : Transaction) :
    (reportObservation before tx).subnet = tx.subnet ∧
      (reportObservation before tx).address = tx.address ∧
      (reportObservation before tx).prefixLen = tx.prefixLen := by
  unfold reportObservation
  split <;> exact ⟨rfl, rfl, rfl⟩

/-- The report of a settled row is what the last observation shows. -/
theorem reportRow_shown {before : OperationSnapshot} {tx : Transaction} {s : AddressState}
    (h : Tracked subnet row tx s) (hset : Settled before row tx s) :
    OwnIntent (reportRow before row tx) s ∧ Shown false (reportRow before row tx) s := by
  obtain ⟨hsub, haddr, hp⟩ := reportObservation_fields before tx
  have haddr' : (reportRow before row tx).address = tx.address := haddr
  refine ⟨fun _ => ⟨subnet, row, hsub.trans h.key, rfl, h.desired, ?_, ?_⟩, fun hok => ?_⟩
  · rw [haddr']
    exact h.address
  · rw [haddr']
    exact h.kept
  · obtain ⟨herr, happ⟩ := rowOutcome_success hok
    obtain ⟨snapshot, hver, hseen, hreq⟩ := hset herr happ
    have hobs : (reportRow before row tx).observed = some snapshot := by
      change (reportObservation before tx).observed = _
      rw [reportObservation, hver]
    have hp' : (reportRow before row tx).prefixLen = tx.prefixLen := hp
    exact ⟨snapshot, hobs, hseen, by rwa [haddr', hp']⟩

theorem holds_removeSavedOperation (before : OperationSnapshot) (subnet : String)
    (row : AdoptedMeta) :
    Holds net (fun tx s => (Tracked subnet row tx s ∧ Seen before s) ∧ tx.verified = none)
      (removeSavedOperation net before subnet row)
      (fun _ tx s => OwnIntent tx s ∧ Shown false tx s) (fun _ => Unfinished) := by
  have hR : Readable fun tx s => Tracked subnet row tx s ∧ tx.verified = none :=
    (readable_tracked subnet row).and (readable_record _)
  have hV : ∀ snapshot, Quiet fun tx s =>
      (Tracked subnet row tx s ∧ Seen snapshot s) ∧ tx.verified = none := fun snapshot =>
    ((readable_tracked subnet row).toQuiet.and (quiet_seen snapshot)).and (readable_record _).toQuiet
  have hb := fun (_ : AppError) => readable_unfinished.stable
  refine .bind (fun snapshot tx s => (Tracked subnet row tx s ∧ Seen snapshot s) ∧
    tx.verified = none) ?_ hb fun before' => ?_
  · refine .bind _ (.look (hV before).stable) hb fun tx => ?_
    split
    · exact (reads_observeAddressState hR before false _).conseq (fun _ _ h => ⟨h.1.1, h.2⟩)
        (fun _ _ _ h => ⟨⟨h.1.1, h.2⟩, h.1.2⟩) fun _ _ _ h => h.1.unfinished
    · exact .pure (hV before).stable fun _ _ h => h
  · refine .bind _ (holds_reconcileSavedRow before' subnet row) hb fun row' => ?_
    exact .change (fun tx s writer h => ⟨(readable_tracked subnet row').stable tx s writer h.1, h.2⟩)
      fun tx s h => reportRow_shown h.1 h.2

/-! ### The other ways a run ends -/

theorem readable_fresh : Readable fun tx s => Fresh tx s.2 where
  stable _ _ _ h := h
  quiet _ _ _ _ r hc h := h.append r fun _ _ he => by
    rw [he] at hc
    cases hc
  native _ _ _ r h := h.append r fun _ _ he => by cases he

theorem stable_unfinished :
    ∀ (_ : AppError) (tx : Transaction), addressWorld.logged.Stable (Unfinished tx) :=
  fun _ => readable_unfinished.stable

/-- An address absent everywhere is absent on the selected adapter. -/
theorem requestedState_absent {snapshot : OperationSnapshot} {address : String}
    {prefixLen : Option UInt8}
    (h : ¬ (snapshot.all.any fun a => a.ips.any fun ip => ip.address == address) = true) :
    requestedState snapshot address prefixLen false = true := by
  simp only [List.any_eq_true, beq_iff_eq, not_exists, not_and] at h
  simp only [requestedState, Bool.false_eq_true, if_false, List.all_eq_true, bne_iff_ne]
  exact fun i hi => h _ snapshot.mem i hi

theorem holds_forgetUnownedAddress (subnet : String) (row : AdoptedMeta) :
    Holds net (fun tx s => Fresh tx s.2) (forgetUnownedAddress subnet row)
      (fun _ tx s => OwnIntent tx s ∧ Shown false tx s) (fun _ => Unfinished) := by
  have hF := readable_fresh
  have hS : ∀ snapshot, Quiet fun tx s => Fresh tx s.2 ∧ Seen snapshot s :=
    fun snapshot => hF.toQuiet.and (quiet_seen snapshot)
  have hb := stable_unfinished
  have hun : ∀ (e : AppError) (tx : Transaction) (s : AddressState), Fresh tx s.2 → Unfinished tx s :=
    fun _ _ s h => h.unfinished
  refine .bind _ ((reads_operationSnapshot hF).conseq (fun _ _ h => h) (fun _ _ _ h => h) hun) hb
    fun before => ?_
  refine .bind _ ((reads_validate (hS before)).conseq (fun _ _ h => h) (fun _ _ _ h => h)
    fun e tx s h => hun e tx s h.1) hb fun _ => ?_
  refine .bind (fun _ tx s => Fresh tx s.2) ?_ hb fun _ => ?_
  · refine .bind _ (.look (hS before).stable) hb fun tx => ?_
    exact (Runs.check (hS before).stable fun _ _ h _ => h.1.unfinished).conseq (fun _ _ h => h)
      (fun _ _ _ h => h.1) fun _ _ _ h => h
  refine .bind _ ((reads_observeOperation hF before).conseq (fun _ _ h => h) (fun _ _ _ h => h) hun)
    hb fun after => ?_
  refine .bind _ ((reads_validate (hS after)).conseq (fun _ _ h => h) (fun _ _ _ h => h)
    fun e tx s h => hun e tx s h.1) hb fun _ => ?_
  have hA : ∀ p : Transaction → Prop, Quiet fun tx s => (Fresh tx s.2 ∧ Seen after s) ∧ p tx :=
    fun p => (hS after).and (readable_record p).toQuiet
  refine .bind (fun _ tx s => (Fresh tx s.2 ∧ Seen after s) ∧
    ∀ p, requestedState after tx.address p false = true) ?_ hb fun _ => ?_
  · refine .bind _ (.record (hS after).stable) hb fun tx => ?_
    refine (Runs.refuseIf (fun tx' => ((hA (tx = ·)).stable tx')) fun _ _ h _ =>
      h.1.1.unfinished).conseq (fun _ _ h => h) (fun _ tx' s h => ⟨h.1.1, fun p => ?_⟩)
      fun _ _ _ h => h
    obtain ⟨⟨-, rfl⟩, hno⟩ := h
    exact requestedState_absent hno
  refine .bind (fun _ tx s => (Fresh tx s.2 ∧ Seen after s) ∧
    ∀ p, requestedState after tx.address p false = true) (.change (hA _).stable fun tx s h =>
      ⟨⟨{ h.1.1 with }, h.1.2⟩, h.2⟩) hb fun _ => ?_
  refine .bind (fun _ tx s => (Fresh tx s.2 ∧ Seen after s) ∧
    ∀ p, requestedState after tx.address p false = true) ?_ hb fun _ => ?_
  · exact .attempt (fun _ tx s => (Fresh tx s.2 ∧ Seen after s) ∧
        ∀ p, requestedState after tx.address p false = true) (hA _).stable
      (fun tx s h => h.1.1.guard (fun _ _ he => by cases he) fun _ _ he => by cases he)
      (fun tx s o h => ⟨⟨h.1.1.append _ (fun _ _ he => by cases he),
        (lastObservation_quiet fun he => by cases he).trans h.1.2⟩, h.2⟩)
      (fun _ => (hA _).stable) (fun _ _ _ _ h _ => h) fun _ _ _ s h _ => h.1.1.unfinished
  · refine .change (hA _).stable fun tx s h => ?_
    refine ⟨fun hs => absurd (h.1.1.unsaved.symm.trans hs) Bool.false_ne_true, fun _ => ?_⟩
    exact ⟨after, rfl, h.1.2, h.2 _⟩

/-- The settings have no row for the address. -/
def Unlisted (settings : AppSettings) (address : String) : Prop :=
  ∀ key row, settings.adoptedMeta.lookup key = some row → row.address ≠ some address

/-- A command that removes has another row at its key. -/
def CommandCovered (net : IpNetwork N) (plan : Plan) (existing : Option IpInfo) (tx : Transaction)
    (s : AddressState) : Prop :=
  plan.add = false → existing.isSome = true → OtherRowHolds net tx.address s

theorem OtherRowHolds.append {w : Store} {log : AddressLog} (h : OtherRowHolds net address (w, log))
    (event : (call : AddressCall) × call.Reply) : OtherRowHolds net address (w, log ++ [event]) := by
  obtain ⟨settings, p, key, r, hmem, hrest⟩ := h
  exact ⟨settings, p, key, r, List.mem_append_left _ hmem, hrest⟩

theorem holds_issueCommand (plan : Plan) (before : OperationSnapshot) (existing : Option IpInfo) :
    Holds net (fun tx s => Fresh tx s.2 ∧ CommandCovered net plan existing tx s)
      (issueCommand plan before existing) (fun _ tx s => Fresh tx s.2) (fun _ => Unfinished) := by
  have hst : ∀ tx, addressWorld.logged.Stable fun s =>
      Fresh tx s.2 ∧ CommandCovered net plan existing tx s := fun _ _ _ h => h
  refine .bind _ (.record hst) stable_unfinished fun tx => ?_
  have hst' : ∀ tx', addressWorld.logged.Stable fun s =>
      (Fresh tx' s.2 ∧ CommandCovered net plan existing tx' s) ∧ tx = tx' := fun _ _ _ h => h
  split
  · exact .ask hst' (fun _ s _ => guard_add _ _ _ s)
      (fun _ _ _ h => h.1.1.append _ fun _ _ he => by cases he) fun _ => readable_fresh.stable
  · next i hmask =>
    refine .conseq (holds_removeAddress _ _ hst' (fun tx' s h => .inr ?_)
      fun tx' w log r h => ⟨⟨h.1.1.append _ (fun _ _ he => by cases he),
        fun ha he => (h.1.2 ha he).append _⟩, h.2⟩) (fun _ _ h => h)
      (fun _ _ _ h => h.1.1) fun _ _ _ h => h
    obtain ⟨⟨-, hcov⟩, rfl⟩ := h
    exact hcov (by rw [Plan.add, hmask]; rfl) rfl
  · exact .pure hst' fun _ _ h => h.1.1

/-- A command is reported as a success when the requested state is established. -/
theorem settleCommand_success {command : Fallible Unit} {established : Bool} {tx : Transaction}
    (hs : (settleCommand command established tx).outcome = .success) :
    established = true ∧ (settleCommand command established tx) = { tx with outcome := .success } := by
  unfold settleCommand at hs ⊢
  cases command with
  | error e => cases hs
  | ok u =>
    cases established with
    | false => cases hs
    | true => exact ⟨rfl, rfl⟩

theorem settleCommand_unsaved {command : Fallible Unit} {established : Bool} {tx : Transaction} :
    (settleCommand command established tx).intentSaved = tx.intentSaved := by
  unfold settleCommand
  cases command with
  | error e => rfl
  | ok u => cases established <;> rfl

theorem holds_finishCommand (plan : Plan) (before : OperationSnapshot) (command : Fallible Unit) :
    Holds net (fun tx s => Fresh tx s.2) (finishCommand plan before command)
      (fun _ tx s => OwnIntent tx s ∧ Shown plan.add tx s) (fun _ => Unfinished) := by
  have hF := readable_fresh
  have hb := stable_unfinished
  have hS : ∀ snapshot, Quiet fun tx s => Fresh tx s.2 ∧ Seen snapshot s :=
    fun snapshot => hF.toQuiet.and (quiet_seen snapshot)
  have kept : ∀ (tx : Transaction) s, tx.intentSaved = false → OwnIntent tx s :=
    fun tx s h hs => absurd (h.symm.trans hs) Bool.false_ne_true
  refine .bind (fun r tx s => ends (fun snapshot tx s => Fresh tx s.2 ∧ Seen snapshot s)
      (fun _ tx s => Fresh tx s.2) (r, tx) s)
    (.caught (reads_observeAddressState hF before plan.add _) (fun a => (hS a).stable)
      fun _ => hF.stable) hb fun observed => ?_
  cases observed with
  | error e =>
    refine .bind _ (.look hF.stable) hb fun tx => ?_
    exact .change hF.stable fun tx s h => ⟨kept _ _ h.unsaved, fun hs => by cases hs⟩
  | ok after =>
    refine .bind _ (.record (hS after).stable) hb fun tx₀ => ?_
    dsimp only
    have hO : Quiet fun tx s => (Fresh tx s.2 ∧ Seen after s) ∧ tx.observed = some after ∧
        tx.address = tx₀.address ∧ tx.prefixLen = tx₀.prefixLen :=
      (hS after).and (readable_record _).toQuiet
    refine .bind (fun _ tx s => (Fresh tx s.2 ∧ Seen after s) ∧ tx.observed = some after ∧
        tx.address = tx₀.address ∧ tx.prefixLen = tx₀.prefixLen)
      (.change (fun tx => ((hS after).stable tx).and fun _ _ h => h) ?_) hb fun _ => ?_
    · rintro tx s ⟨⟨hfresh, hseen⟩, rfl⟩
      exact ⟨⟨{ hfresh with }, hseen⟩, rfl, rfl, rfl⟩
    have hsettle : ∀ (tx : Transaction) s, ((Fresh tx s.2 ∧ Seen after s) ∧ tx.observed = some after ∧
        tx.address = tx₀.address ∧ tx.prefixLen = tx₀.prefixLen) →
        OwnIntent (settleCommand command (requestedState after tx₀.address tx₀.prefixLen plan.add) tx) s ∧
        Shown plan.add
          (settleCommand command (requestedState after tx₀.address tx₀.prefixLen plan.add) tx) s := by
      rintro tx s ⟨⟨hfresh, hseen⟩, hobs, haddr, hp⟩
      refine ⟨kept _ _ (settleCommand_unsaved.trans hfresh.unsaved), fun hs => ?_⟩
      obtain ⟨hest, heq⟩ := settleCommand_success hs
      rw [heq]
      exact ⟨after, hobs, hseen, by rw [haddr, hp]; exact hest⟩
    split
    · refine .bind (fun _ tx s => (Fresh tx s.2 ∧ Seen after s) ∧ tx.observed = some after ∧
          tx.address = tx₀.address ∧ tx.prefixLen = tx₀.prefixLen) ?_ hb fun claimed => ?_
      · exact .ask hO.stable
          (fun tx s h => h.1.1.guard (fun _ _ he => by cases he) fun _ _ he => by cases he)
          (fun tx s o h => ⟨⟨h.1.1.append _ (fun _ _ he => by cases he), (lastObservation_quiet fun he => by cases he).trans h.1.2⟩,
            h.2⟩) fun _ => hO.stable
      · cases claimed with
        | error e =>
          exact .change hO.stable fun tx s h => ⟨kept _ _ h.1.1.unsaved, fun hs => by cases hs⟩
        | ok u =>
          exact .change hO.stable fun tx s h => hsettle { tx with row := none } s
            ⟨⟨{ h.1.1 with }, h.1.2⟩, h.2⟩
    · exact .change hO.stable hsettle

theorem holds_runCommand (plan : Plan) (before : OperationSnapshot) (existing : Option IpInfo) :
    Holds net (fun tx s => Fresh tx s.2 ∧ CommandCovered net plan existing tx s)
      (runCommand plan before existing)
      (fun _ tx s => OwnIntent tx s ∧ Shown plan.add tx s) (fun _ => Unfinished) :=
  .bind _ (holds_issueCommand plan before existing) stable_unfinished fun command =>
    holds_finishCommand plan before command

/-- A removal without a row of its own runs its command only over another row's key. -/
theorem holds_removeUnmanaged (settings : AppSettings) (plan : Plan) (before : OperationSnapshot) :
    let existing := fun tx : Transaction => before.selected.ips.find? (·.address == tx.address)
    ∀ found, Holds net (fun tx s => (Fresh tx s.2 ∧ ⟨.settings, settings⟩ ∈ s.2 ∧
        (plan.add = false → Unlisted settings tx.address)) ∧ Seen before s ∧ found = existing tx ∧
        ¬ (found.any fun i => tx.prefixLen ≠ some i.prefixLen) = true)
      (removeUnmanaged net settings plan before found)
      (fun _ tx s => OwnIntent tx s ∧ Shown plan.add tx s) (fun _ => Unfinished) := by
  intro existing found
  have hst : ∀ tx, addressWorld.logged.Stable fun s => (Fresh tx s.2 ∧
      ⟨AddressCall.settings, settings⟩ ∈ s.2 ∧ (plan.add = false → Unlisted settings tx.address)) ∧
      Seen before s ∧ found = existing tx ∧
      ¬ (found.any fun i => tx.prefixLen ≠ some i.prefixLen) = true := fun _ _ _ h => h
  refine .bind _ (.record hst) stable_unfinished fun tx => ?_
  cases hadd : plan.add with
  | true =>
    exact (holds_runCommand plan before found).conseq
      (fun _ _ h => ⟨h.1.1.1, fun ha => by rw [hadd] at ha; cases ha⟩)
      (fun _ _ _ h => hadd ▸ h) fun _ _ _ h => h
  | false =>
    cases hp : tx.prefixLen with
    | none =>
      refine (holds_runCommand plan before found).conseq (fun tx' s h => ⟨h.1.1.1, fun _ hex => ?_⟩)
        (fun _ _ _ h => hadd ▸ h) fun _ _ _ h => h
      obtain ⟨⟨-, -, -, hprefix⟩, rfl⟩ := h
      obtain ⟨i, hi⟩ := Option.isSome_iff_exists.mp hex
      exact absurd (by simp [hi, hp]) hprefix
    | some prefixLen =>
      dsimp only
      cases hkey : subnetKey net tx.address prefixLen with
      | none => exact .throw (fun _ _ _ h => h) fun tx s h => h.1.1.1.unfinished
      | some key =>
        dsimp only
        split
        · next hrow =>
          obtain ⟨r, hr⟩ := Option.isSome_iff_exists.mp hrow
          refine (holds_runCommand plan before found).conseq (fun tx' s h => ⟨h.1.1.1, fun _ _ => ?_⟩)
            (fun _ _ _ h => hadd ▸ h) fun _ _ _ h => h
          obtain ⟨⟨⟨-, hmem, hun⟩, -⟩, rfl⟩ := h
          exact ⟨settings, prefixLen, key, r, hmem, hkey, hr, hun rfl key r hr⟩
        · refine .bind _ ((holds_saveIntent key _ (carried_seen before)).conseq ?_
            (fun _ _ _ h => h) fun _ _ _ h => h) stable_unfinished fun _ => ?_
          · rintro tx' s ⟨⟨⟨hfresh, -⟩, hseen, -⟩, rfl⟩
            exact ⟨hfresh, rfl, rfl, hp.symm, hseen⟩
          · exact (holds_removeSavedOperation before key _).conseq
              (fun _ _ h => ⟨⟨h.1.1, h.1.2⟩, h.2.2⟩) (fun _ _ _ h => h) fun _ _ _ h => h

/-- Where a run stands before its first snapshot: the intent of its own row is saved, or it
has no row of its own. -/
def Ready (settings : AppSettings) (plan : Plan) (tx : Transaction) (s : AddressState) : Prop :=
  (plan.add = false ∧ ∃ subnet row, Tracked subnet row tx s ∧ tx.row = some row ∧
      tx.verified = none ∧ tx.prefixLen.isSome = true) ∨
    (Fresh tx s.2 ∧ ⟨.settings, settings⟩ ∈ s.2 ∧
      (plan.add = false → Unlisted settings tx.address ∧ tx.subnet = none))

theorem Ready.unfinished {settings : AppSettings} {plan : Plan} {tx : Transaction}
    {s : AddressState} (h : Ready settings plan tx s) : Unfinished tx s := by
  rcases h with ⟨-, _, _, h, -⟩ | ⟨h, -⟩
  · exact h.unfinished
  · exact h.unfinished

theorem readable_ready (settings : AppSettings) (plan : Plan) : Readable (Ready settings plan) where
  stable _ s writer h := h.imp (fun ⟨ha, subnet, row, ht, hrest⟩ =>
    ⟨ha, subnet, row, (readable_tracked subnet row).stable _ s writer ht, hrest⟩) id
  quiet _ w _ _ _ hc h := h.imp (fun ⟨ha, subnet, row, ht, hrest⟩ =>
    ⟨ha, subnet, row, ht.state (ht.kept.append _), hrest⟩)
    fun ⟨hf, hm, hrest⟩ => ⟨readable_fresh.quiet _ w _ _ _ hc hf, List.mem_append_left _ hm, hrest⟩
  native _ w _ _ h := h.imp (fun ⟨ha, subnet, row, ht, hrest⟩ =>
    ⟨ha, subnet, row, ht.state (ht.kept.append _), hrest⟩)
    fun ⟨hf, hm, hrest⟩ => ⟨readable_fresh.native _ w _ _ hf, List.mem_append_left _ hm, hrest⟩

/-- A known prefix is kept, and an unknown one read off the adapter. -/
theorem Ready.known {settings : AppSettings} {plan : Plan} {tx : Transaction} {s : AddressState}
    (h : Ready settings plan tx s) (p : Option UInt8) :
    Ready settings plan { tx with prefixLen := tx.prefixLen.or p } s := by
  rcases h with ⟨ha, subnet, row, ht, hr, hv, hp⟩ | ⟨hf, hrest⟩
  · obtain ⟨q, hq⟩ := Option.isSome_iff_exists.mp hp
    refine .inl ⟨ha, subnet, row, { ht with prefixLen := ?_ }, hr, hv, by simp [hq]⟩
    rw [ht.prefixLen, hq]
    rfl
  · exact .inr ⟨{ hf with }, hrest⟩

theorem holds_proceed (settings : AppSettings) (plan : Plan) :
    Holds net (Ready settings plan) (proceed net settings plan)
      (fun _ tx s => OwnIntent tx s ∧ Shown plan.add tx s) (fun _ => Unfinished) := by
  have hR := readable_ready settings plan
  have hb := stable_unfinished
  have hun : ∀ (e : AppError) tx s, Ready settings plan tx s → Unfinished tx s :=
    fun _ _ _ h => h.unfinished
  refine .bind _ ((reads_operationSnapshot hR).conseq (fun _ _ h => h) (fun _ _ _ h => h) hun) hb
    fun before => ?_
  have hS := hR.toQuiet.and (quiet_seen before)
  refine .bind _ ((reads_validate hS).conseq (fun _ _ h => h) (fun _ _ _ h => h)
    fun e tx s h => hun e tx s h.1) hb fun _ => ?_
  refine .bind _ (.record hS.stable) hb fun tx₀ => ?_
  have hE : Quiet fun tx s => (Ready settings plan tx s ∧ Seen before s) ∧ tx₀ = tx :=
    hS.and (readable_record _).toQuiet
  refine .bind _ (.check hE.stable fun _ _ h _ => h.1.1.unfinished) hb fun _ => ?_
  refine .bind _ (.check hE.stable fun _ _ h _ => h.1.1.unfinished) hb fun _ => ?_
  let found := fun tx : Transaction => before.selected.ips.find? (·.address == tx.address)
  dsimp only
  have hK : ∀ p : Transaction → Prop, Quiet fun tx s =>
      (Ready settings plan tx s ∧ Seen before s) ∧ p tx := fun p =>
    hS.and (readable_record p).toQuiet
  refine .bind (fun _ tx s => (Ready settings plan tx s ∧ Seen before s) ∧ found tx₀ = found tx)
    (.change hE.stable ?_) hb fun _ => ?_
  · rintro tx s ⟨⟨hready, hseen⟩, rfl⟩
    exact ⟨⟨hready.known _, hseen⟩, rfl⟩
  refine .bind _ (.record (hK _).stable) hb fun tx => ?_
  have hT : ∀ tx', addressWorld.logged.Stable fun s =>
      ((Ready settings plan tx' s ∧ Seen before s) ∧ found tx₀ = found tx') ∧ tx = tx' :=
    fun tx' => ((hK (found tx₀ = found ·)).stable tx').and fun _ _ h => h
  refine .bind _ (.refuseIf hT fun _ _ h _ => h.1.1.1.unfinished) hb fun _ => ?_
  have hT' : ∀ (c : Prop) tx', addressWorld.logged.Stable fun s =>
      (((Ready settings plan tx' s ∧ Seen before s) ∧ found tx₀ = found tx') ∧ tx = tx') ∧ c :=
    fun c tx' => (hT tx').and fun _ _ h => h
  refine .bind _ (.check (hT' _) fun _ _ h _ => h.1.1.1.1.unfinished) hb fun _ => ?_
  split
  · refine .bind (fun _ => Unfinished) (.change (hT' _) fun tx' s h => ?_) hb fun _ =>
      .throw readable_unfinished.stable fun _ _ h => h
    exact ⟨h.1.1.1.1.unfinished.1, by simp⟩
  · split
    · next subnet row hadd hsub hrow =>
      refine (holds_removeSavedOperation before subnet row).conseq ?_
        (fun _ _ _ h => by rw [hadd]; exact h) fun _ _ _ h => h
      rintro tx' s ⟨⟨⟨⟨hready, hseen⟩, -⟩, rfl⟩, -⟩
      rcases hready with ⟨-, subnet', row', ht, hr, hv, -⟩ | ⟨-, -, hlist⟩
      · obtain rfl := Option.some.inj (hsub.symm.trans ht.key)
        obtain rfl := Option.some.inj (hrow.symm.trans hr)
        exact ⟨⟨ht, hseen⟩, hv⟩
      · have := hsub.symm.trans (hlist hadd).2
        cases this
    · next hnot =>
      refine (holds_removeUnmanaged settings plan before _).conseq ?_ (fun _ _ _ h => h)
        fun _ _ _ h => h
      rintro tx' s ⟨⟨⟨⟨hready, hseen⟩, hfound⟩, rfl⟩, hprefix⟩
      rcases hready with ⟨hadd, subnet', row', ht, hr, -⟩ | ⟨hf, hm, hlist⟩
      · exact absurd hr (hnot subnet' row' hadd ht.key)
      · exact ⟨⟨hf, hm, fun ha => (hlist ha).1⟩, hseen, hfound, hprefix⟩

/-! ### The plan and the whole run -/

/-- A run that has not planned anything yet. -/
structure Blank (tx : Transaction) (log : AddressLog) : Prop extends Fresh tx log where
  key : tx.subnet = none
  row : tx.row = none

/-- The run's row is one the settings hold for its address, or they hold none. -/
def RowChosen (settings : AppSettings) (tx : Transaction) : Prop :=
  (∃ subnet row, tx.subnet = some subnet ∧ tx.row = some row ∧ row.address = some tx.address) ∨
    (tx.subnet = none ∧ Unlisted settings tx.address)

theorem stable_fresh (p : Transaction → AddressLog → Prop) (tx : Transaction) :
    addressWorld.logged.Stable fun s => p tx s.2 := fun _ _ h => h

theorem readable_blank : Readable fun tx s => Blank tx s.2 where
  stable _ _ _ h := h
  quiet _ w _ _ _ hc h := ⟨readable_fresh.quiet _ w _ _ _ hc h.toFresh, h.key, h.row⟩
  native _ w _ _ h := ⟨readable_fresh.native _ w _ _ h.toFresh, h.key, h.row⟩

theorem holds_adoptRow (settings : AppSettings) (p : AdoptedMeta → Bool) (ip : String) :
    Holds net (fun tx s => Blank tx s.2 ∧ tx.address = ip) (adoptRow settings p)
      (fun _ tx s => Fresh tx s.2 ∧ tx.address = ip ∧
        ((∃ subnet row, tx.subnet = some subnet ∧ tx.row = some row ∧ p row = true) ∨
          (tx.subnet = none ∧ ∀ key row, settings.adoptedMeta.lookup key = some row → p row = false)))
      (fun _ => Unfinished) := by
  have hst := stable_fresh fun tx log => Blank tx log ∧ tx.address = ip
  refine .bind _ (.check hst fun tx s h _ => h.1.unfinished) stable_unfinished fun _ => ?_
  split
  · next subnet hfound =>
    refine .change hst fun tx s h => ⟨{ h.1 with }, h.2, .inl ?_⟩
    obtain ⟨row, hrow, hp⟩ := Option.any_eq_true _ _ |>.mp (FiniteMap.findKey_eq_some hfound).2
    exact ⟨subnet, row, rfl, hrow, hp⟩
  · next hnone =>
    refine .pure hst fun tx s h => ⟨h.1.toFresh, h.2, .inr ⟨h.1.key, fun key row hrow => ?_⟩⟩
    have := FiniteMap.findKey_eq_none hnone key (Finmap.mem_of_lookup_eq_some hrow)
    simpa [hrow] using this

theorem holds_planRemoval (settings : AppSettings) (name ip : String) :
    Holds net (fun tx s => Blank tx s.2) (planRemoval settings name ip)
      (fun plan tx s => plan.add = false ∧ Fresh tx s.2 ∧ RowChosen settings tx)
      (fun _ => Unfinished) := by
  have hst := stable_fresh Blank
  refine .bind _ (.check hst fun tx s h _ => h.unfinished) stable_unfinished fun _ => ?_
  refine .bind (fun _ tx s => Blank tx s.2 ∧ tx.address = ip) (.change hst fun tx s h =>
    ⟨⟨{ h with }, h.key, h.row⟩, rfl⟩) stable_unfinished fun _ => ?_
  refine .bind _ (holds_adoptRow settings _ ip) stable_unfinished fun _ => ?_
  refine .pure (fun _ _ _ h => h) fun tx s h => ⟨rfl, h.1, ?_⟩
  obtain ⟨-, rfl, ⟨subnet, row, hsub, hrow, hp⟩ | ⟨hsub, hno⟩⟩ := h
  · exact .inl ⟨subnet, row, hsub, hrow, by simpa using hp⟩
  · exact .inr ⟨hsub, fun key row hrow => by simpa using hno key row hrow⟩

theorem holds_planOperation (settings : AppSettings) (request : AddressRequest) :
    Holds net (fun tx s => Blank tx s.2) (planOperation net settings request)
      (fun plan tx s => plan.add = !request.removing ∧ Fresh tx s.2 ∧
        (plan.add = false → RowChosen settings tx)) (fun _ => Unfinished) := by
  have hst := stable_fresh Blank
  have hbad : ∀ (tx : Transaction) s, Blank tx s.2 → Unfinished tx s := fun _ _ h => h.unfinished
  cases request with
  | removeManual name ip =>
    exact (holds_planRemoval settings name ip).conseq (fun _ _ h => h)
      (fun _ _ _ h => ⟨h.1, h.2.1, fun _ => h.2.2⟩) fun _ _ _ h => h
  | removePrimary name ip =>
    exact (holds_planRemoval settings name ip).conseq (fun _ _ h => h)
      (fun _ _ _ h => ⟨h.1, h.2.1, fun _ => h.2.2⟩) fun _ _ _ h => h
  | removeSaved subnet hint =>
    rw [planOperation]
    split
    · exact .throw hst fun tx s h => hbad tx s h
    · next row hrow =>
      refine .bind (fun _ tx s => Fresh tx s.2 ∧ tx.row = some row) (.change hst fun tx s h =>
        ⟨{ h with }, rfl⟩) stable_unfinished fun _ => ?_
      split
      · exact .throw (fun _ _ _ h => h) fun tx s h => h.1.unfinished
      · next address haddr =>
        refine .bind (fun _ tx s => Fresh tx s.2 ∧ tx.subnet = some subnet ∧ tx.row = some row ∧
            tx.address = address) (.change (fun _ _ _ h => h) fun tx s h =>
          ⟨{ h.1 with }, rfl, h.2, rfl⟩) stable_unfinished
          fun _ => ?_
        refine .pure (fun _ _ _ h => h) fun tx s h => ⟨rfl, h.1, fun _ => .inl ?_⟩
        exact ⟨subnet, row, h.2.1, h.2.2.1, by rw [haddr, h.2.2.2]⟩
  | add name ip mask =>
    have set : ∀ f : Transaction → Transaction, (∀ tx log, Blank tx log → Blank (f tx) log) →
        Holds net (fun tx s => Blank tx s.2) (change f) (fun _ tx s => Blank tx s.2)
          (fun _ => Unfinished) := fun f hf => .change hst fun tx _ h => hf tx _ h
    rw [planOperation]
    split
    · exact .throw hst fun tx s h => hbad tx s h
    · refine .bind _ (.demand hst fun _ tx s h _ => hbad tx s h) stable_unfinished
        fun prefixLen => ?_
      refine .bind _ (set _ fun tx log h => ⟨{ h with }, h.key, h.row⟩)
        stable_unfinished fun _ => ?_
      refine .bind _ (.demand hst fun _ tx s h _ => hbad tx s h) stable_unfinished fun _ => ?_
      refine .bind (fun _ tx s => Blank tx s.2 ∧ tx.address = ip) (.change hst fun tx _ h =>
        ⟨⟨{ h with }, h.key, h.row⟩, rfl⟩) stable_unfinished
        fun _ => ?_
      refine .bind _ (.look (stable_fresh fun tx log => Blank tx log ∧ tx.address = ip)) stable_unfinished
        fun tx => ?_
      refine .bind _ (holds_adoptRow settings _ ip) stable_unfinished fun _ => ?_
      exact .pure (fun _ _ _ h => h) fun tx s h => ⟨rfl, h.1, fun hadd => by cases hadd⟩

theorem holds_removeOwned (settings : AppSettings) (plan : Plan) (subnet : String)
    (row : AdoptedMeta) (hadd : plan.add = false) :
    Holds net (fun tx s => Fresh tx s.2 ∧ row.address = some tx.address)
      (removeOwned net settings plan subnet row) (fun _ tx s => OwnIntent tx s ∧ Shown plan.add tx s)
      (fun _ => Unfinished) := by
  have hst := stable_fresh fun tx log => Fresh tx log ∧ row.address = some tx.address
  refine .bind _ (.look hst) stable_unfinished fun tx₀ => ?_
  refine .bind _ (.check hst fun tx s h _ => h.1.unfinished) stable_unfinished fun _ => ?_
  split
  · exact (holds_forgetUnownedAddress subnet row).conseq (fun _ _ h => h.1)
      (fun _ _ _ h => by rw [hadd]; exact h) fun _ _ _ h => h
  refine .bind _ (.refuseIf hst fun tx s h _ => h.1.unfinished) stable_unfinished fun _ => ?_
  refine .given (φ := row.prefixLen.isSome = true) (fun tx s h => ?_) fun hprefix => ?_
  · have hall : ¬ row.prefixLen.all (32 < ·) = true := fun hall => h.2 (.inr hall)
    cases hp : row.prefixLen with
    | none => exact absurd (by rw [hp]; rfl) hall
    | some p => rfl
  refine .bind (fun _ tx s => Fresh tx s.2 ∧ row.address = some tx.address)
    ((Runs.check hst fun tx s h _ => h.1.unfinished).conseq (fun _ _ h => h.1)
      (fun _ _ _ h => h) fun _ _ _ h => h) stable_unfinished fun _ => ?_
  refine .bind (fun _ tx s => Fresh tx s.2 ∧ row.address = some tx.address ∧
      row.prefixLen = tx.prefixLen) (.change hst fun tx s h =>
    ⟨{ h.1 with }, h.2, rfl⟩) stable_unfinished fun _ => ?_
  refine .bind _ ((holds_saveIntent subnet (pendingBindingRemoval row) (F := fun _ => True)
    fun _ _ _ h => h).conseq (fun _ _ h => ⟨h.1, rfl, h.2.1, h.2.2, trivial⟩)
      (fun _ _ _ h => h) fun _ _ _ h => h) stable_unfinished fun _ => ?_
  refine (holds_proceed settings plan).conseq (fun tx s h => .inl ?_) (fun _ _ _ h => h)
    fun _ _ _ h => h
  obtain ⟨⟨htracked, -⟩, hrow, hver⟩ := h
  exact ⟨hadd, subnet, _, htracked, hrow, hver, htracked.prefixLen ▸ hprefix⟩

theorem holds_runAddressOperation (request : AddressRequest) :
    Holds net (fun tx s => Blank tx s.2) (runAddressOperation net request)
      (fun _ tx s => OwnIntent tx s ∧ Shown (!request.removing) tx s) (fun _ => Unfinished) := by
  refine .bind _ (reads_quiet rfl readable_blank.toQuiet) stable_unfinished
    fun settings => ?_
  refine .bind _ (((holds_planOperation settings request).issued
    ⟨.settings, settings⟩).conseq (fun _ _ h => h) (fun _ _ _ h => h) fun _ _ _ h => h.1)
    stable_unfinished fun plan => ?_
  have hst : Readable fun tx s => (plan.add = !request.removing ∧ Fresh tx s.2 ∧
      (plan.add = false → RowChosen settings tx)) ∧
      (⟨.settings, settings⟩ : (call : AddressCall) × call.Reply) ∈ s.2 :=
    ((readable_record _).and (readable_fresh.and (readable_record _))).and (readable_issued _)
  refine .bind _ (.record hst.stable) stable_unfinished fun tx₀ => ?_
  refine .given (φ := plan.add = !request.removing) (fun _ _ h => h.1.1.1) fun hadd => ?_
  rw [← hadd]
  split
  · next subnet row hremove hsub hrow =>
    refine (holds_removeOwned settings plan subnet row hremove).conseq ?_ (fun _ _ _ h => h)
      fun _ _ _ h => h
    rintro tx s ⟨⟨⟨-, hfresh, hchosen⟩, -⟩, rfl⟩
    refine ⟨hfresh, ?_⟩
    obtain ⟨subnet', row', -, hrow', haddr⟩ | ⟨hnone, -⟩ := hchosen hremove
    · obtain rfl := Option.some.inj (hrow.symm.trans hrow')
      exact haddr
    · cases hsub.symm.trans hnone
  · next hnot =>
    refine (holds_proceed settings plan).conseq ?_ (fun _ _ _ h => h) fun _ _ _ h => h
    rintro tx s ⟨⟨⟨-, hfresh, hchosen⟩, hmem⟩, rfl⟩
    refine .inr ⟨hfresh, hmem, fun hremove => ?_⟩
    obtain ⟨subnet', row', hsub', hrow', -⟩ | ⟨hnone, hun⟩ := hchosen hremove
    · exact absurd hrow' (hnot subnet' row' hremove hsub')
    · exact ⟨hun, hnone⟩

/-! ### The operation -/

/-- What an operation leaves: its intent, and a success only where it is observed. -/
def Ended (request : AddressRequest) (tx : Transaction) (s : AddressState) : Prop :=
  OwnIntent tx s ∧ Shown (!request.removing) tx s

theorem shown_of_ne {add : Bool} {tx : Transaction} {s : AddressState}
    (h : tx.outcome ≠ .success) : Shown add tx s := fun hs => absurd hs h

theorem quiet_ended (request : AddressRequest) : Quiet (Ended request) where
  stable tx := (stable_ownIntent tx).and fun _ _ h => h
  quiet _ _ _ _ _ hc h := ⟨h.1.append _, fun hs => by
    obtain ⟨snapshot, hobs, hseen, hreq⟩ := h.2 hs
    exact ⟨snapshot, hobs, (lastObservation_quiet (ne_native_of_quiet hc)).trans hseen, hreq⟩⟩

theorem Unfinished.ended {request : AddressRequest} {tx : Transaction} {s : AddressState}
    (h : Unfinished tx s) : Ended request tx s := ⟨h.1, shown_of_ne h.2⟩

/-- A run that did not save an intent owes nothing. -/
theorem ownIntent_of_unsaved {tx : Transaction} (h : tx.intentSaved = false) (s : AddressState) : OwnIntent tx s :=
  fun hs => absurd (h.symm.trans hs) Bool.false_ne_true

variable {bad : AppError → Transaction → AddressState → Prop}

theorem holds_reportFailure (request : AddressRequest) (error : AppError)
    (hbad : ∀ e tx, addressWorld.logged.Stable (bad e tx)) :
    Holds net Unfinished (reportFailure error) (fun _ => Ended request) bad := by
  have hU := readable_unfinished
  refine .bind (fun _ => Unfinished) (.change hU.stable fun tx s h => h) hbad fun _ => ?_
  refine .bind _ (.record hU.stable) hbad fun tx₀ => ?_
  have hst : ∀ tx, addressWorld.logged.Stable fun s => Unfinished tx s ∧ tx₀ = tx :=
    (hU.toQuiet.and (readable_record (tx₀ = ·)).toQuiet).stable
  split
  · next subnet row hsaved hsub hrow =>
    let owed := fun (row : AdoptedMeta) (tx : Transaction) (s : AddressState) =>
      tx.subnet = some subnet ∧ row.desired = .removed ∧ row.address = some tx.address ∧
        IntentKept subnet tx.address s
    have howed : ∀ row tx, addressWorld.logged.Stable (owed row tx) := fun row tx s writer h =>
      ⟨h.1, h.2.1, h.2.2.1, stable_intentKept _ _ s writer h.2.2.2⟩
    refine .bind owed ?_ hbad fun row' => .change (howed row') fun tx s h =>
      ⟨fun _ => ⟨subnet, row', h.1, rfl, h.2.1, h.2.2.1, h.2.2.2⟩, shown_of_ne (by simp)⟩
    refine .conseq (?_ : Holds net (owed { row with lastError := some error.toText }) _ owed bad)
      ?_ (fun _ _ _ h => h) fun _ _ _ h => h
    · refine .bind (fun _ => owed { row with lastError := some error.toText }) ?_ hbad
        fun saved => .pure (howed _) fun tx s h => ?_
      · refine .ask (howed _) (fun tx s h => h.2.2.2.guard h.2.1 h.2.2.1) ?_ fun _ => howed _
        rintro tx ⟨w, log⟩ o ⟨hkey, hd, ha, hk⟩
        exact ⟨hkey, hd, ha, hk.persist o hd ha hk⟩
      · obtain ⟨pd, -, pa, -⟩ := publishBinding_fields
          { row with lastError := some error.toText } saved
        exact ⟨h.1, pd.trans h.2.1, pa.trans h.2.2.1, h.2.2.2⟩
    · rintro tx s ⟨h, rfl⟩
      obtain ⟨subnet', row', hsub', hrow', hd, ha, hk⟩ := h.1 hsaved
      obtain rfl := Option.some.inj (hsub.symm.trans hsub')
      obtain rfl := Option.some.inj (hrow.symm.trans hrow')
      exact ⟨hsub, hd, ha, hk⟩
  · exact .change hst fun tx s h => ⟨h.1.1, shown_of_ne (by simp)⟩
  · exact .change hst fun tx s h => ⟨h.1.1, shown_of_ne h.1.2⟩

/-- Saving another primary address leaves the rows alone. -/
theorem setPrimaryAddress_adoptedMeta {mac cidr : String} {s : AppSettings}
    {r : Unit × AppSettings} (h : s.setPrimaryAddress mac cidr = .ok r) :
    r.2.adoptedMeta = s.adoptedMeta := by
  unfold AppSettings.setPrimaryAddress at h
  split at h
  · cases h
  · dsimp only at h
    split at h
    · simp only [Fallible.bind_eq_ok] at h
      obtain ⟨-, -, h⟩ := h
      cases h
      rfl
    · cases h
      rfl

theorem IntentKept.primary {w : Store} {log : AddressLog} (h : IntentKept subnet address (w, log))
    (mac cidr : String) (o : AddressAnswer) : IntentKept subnet address
      (addressWorld.logged.handle (w, log) (.persistPrimary mac cidr) o).2 := by
  obtain ⟨⟨r, hmem, hr⟩, hmemory, hdisk⟩ := h
  suffices hchange : RemovedFor (w.change (AppSettings.setPrimaryAddress mac cidr) o.unit).2.memory
        subnet address ∧
      RemovedFor (w.change (AppSettings.setPrimaryAddress mac cidr) o.unit).2.disk
        subnet address from ⟨⟨r, List.mem_append_left _ hmem, hr⟩, hchange.1, hchange.2⟩
  rcases w.change_cases (AppSettings.setPrimaryAddress mac cidr) o.unit with
    ⟨e, he⟩ | ⟨u, next, hf, -, he⟩
  · rw [he]
    exact ⟨hmemory, hdisk⟩
  · rw [he]
    obtain ⟨row, hrow, hrest⟩ := hmemory
    have hrow' : next.adoptedMeta.lookup subnet = some row :=
      (setPrimaryAddress_adoptedMeta hf) ▸ hrow
    exact ⟨⟨row, hrow', hrest⟩, row, hrow', hrest⟩

theorem guard_primary (mac cidr : String) (s : AddressState) :
    RemovalGuard net (.persistPrimary mac cidr) s where
  covered _ _ he := by cases he
  intended _ _ he := by cases he
  keeps o _ _ h := h.primary mac cidr o

theorem holds_forgetPrimary (request : AddressRequest)
    (hbad : ∀ e tx, addressWorld.logged.Stable (bad e tx)) :
    Holds net (Ended request) (forgetPrimary request) (fun _ => Ended request) bad := by
  have hE := quiet_ended request
  refine .bind _ (.look hE.stable) hbad fun tx₀ => ?_
  refine .bind _ (reads_getSettings hE) hbad fun now => ?_
  dsimp only
  split
  · refine .bind (fun _ => Ended request) ?_ hbad fun saved => ?_
    · refine .ask hE.stable (fun _ s _ => guard_primary _ _ s) ?_ fun _ => hE.stable
      rintro tx ⟨w, log⟩ o ⟨hk, hshown⟩
      refine ⟨fun hsaved => ?_, fun hs => ?_⟩
      · obtain ⟨subnet, row, hsub, hrow, hd, ha, hkept⟩ := hk hsaved
        exact ⟨subnet, row, hsub, hrow, hd, ha, hkept.primary _ _ o⟩
      · obtain ⟨snapshot, hobs, hseen, hreq⟩ := hshown hs
        exact ⟨snapshot, hobs, (lastObservation_quiet fun he => by cases he).trans hseen, hreq⟩
    · split
      · exact .change hE.stable fun tx s h => ⟨h.1, shown_of_ne (by simp)⟩
      · exact .pure hE.stable fun _ _ h => h
  · exact .pure hE.stable fun _ _ h => h

theorem holds_addressOperation (request : AddressRequest) :
    Holds net (fun tx s => Blank tx s.2) (addressOperation net request) (fun _ => Ended request)
      fun _ _ _ => False := by
  have hbad : ∀ (_ : AppError) (_ : Transaction), addressWorld.logged.Stable fun _ => False :=
    fun _ _ _ _ h => h
  have hB := readable_blank
  have hE := quiet_ended request
  refine .bind _ (reads_read rfl hB.toQuiet) hbad fun available => ?_
  split
  · exact .change hB.stable fun tx s h => ⟨ownIntent_of_unsaved h.unsaved s, shown_of_ne (by simp)⟩
  · refine .bind _ (.caught (?_ : Holds net _ _ (fun _ => Ended request) fun _ => Unfinished)
      (fun _ => hE.stable) stable_unfinished) hbad fun result => ?_
    · refine .bind _ ((reads_validate hB.toQuiet).conseq (fun _ _ h => h) (fun _ _ _ h => h)
        fun _ _ s h => h.unfinished) stable_unfinished fun _ => holds_runAddressOperation request
    · refine .bind (fun _ => Ended request) ?_ hbad fun _ => holds_forgetPrimary request hbad
      cases result with
      | error e => exact holds_reportFailure request e hbad
      | ok u => exact .pure hE.stable fun _ _ h => h

/-- The next pass over the saved rows removes the address wherever a snapshot calls for it. -/
def Retried (net : IpNetwork N) (settings : AppSettings) (subnet address : String) : Prop :=
  ∃ row, settings.adoptedMeta.lookup subnet = some row ∧ row.desired = .removed ∧
    row.address = some address ∧
    ∀ snapshot answers, RemovalDue net subnet row (.ok snapshot) → ∃ ip reconciled,
      (reconcileBindings net settings (.ok ()) (.ok snapshot) answers).lookup subnet =
        some reconciled ∧ reconciled.2.writes = [.remove snapshot.iface.name ip]

theorem RemovedFor.retried {settings : AppSettings} (h : RemovedFor settings subnet address) :
    Retried net settings subnet address := by
  obtain ⟨row, hrow, hd, ha⟩ := h
  refine ⟨row, hrow, hd, ha, fun snapshot answers hdue => ?_⟩
  obtain ⟨ip, hact⟩ : ∃ ip, rowAction net subnet row (.ok snapshot) settings.networkMode
      (settings.adoptedSubnets.lookup subnet) = .remove ip := bindingAction_of_removalDue hdue
  refine ⟨ip, reconcileBindingRow net .reconcileBindings subnet row (.ok snapshot)
    settings.networkMode (settings.adoptedSubnets.lookup subnet) (answers subnet), ?_, ?_⟩
  · rw [reconcileBindings, FiniteMap.lookup_mapValues, hrow]
    rfl
  · rw [reconcile_remove hact]

/-- Every intent the run has written is still saved. -/
def IntentsKept (s : AddressState) : Prop :=
  ∀ subnet row, ⟨.persistIntent subnet row, .ok ()⟩ ∈ s.2 →
    ∃ address, row.address = some address ∧ IntentKept subnet address s

theorem stable_intentsKept : addressWorld.logged.Stable IntentsKept := by
  intro s writer h subnet row hmem
  obtain ⟨address, ha, hk⟩ := h subnet row hmem
  exact ⟨address, ha, stable_intentKept _ _ s writer hk⟩

/-- A permitted call keeps the intents written before it, and saves the one it writes. -/
theorem intentsKept_call {call : AddressCall} {s : AddressState} {o : AddressAnswer}
    (hg : RemovalGuard net call s) (h : IntentsKept s) :
    IntentsKept (addressWorld.logged.handle s call o).2 := by
  intro subnet row hmem
  rcases List.mem_append.mp hmem with hmem | hnew
  · obtain ⟨address, ha, hk⟩ := h subnet row hmem
    exact ⟨address, ha, hg.keeps o subnet address hk⟩
  · have hnew := List.mem_singleton.mp hnew
    obtain rfl : AddressCall.persistIntent subnet row = call := congrArg Sigma.fst hnew
    obtain ⟨hd, address, ha⟩ := hg.intended subnet row rfl
    obtain ⟨hm, hdisk⟩ := (removedIn_setBinding s.1 subnet true o.unit hd ha).2 rfl
      (eq_of_heq (Sigma.mk.inj hnew).2).symm
    exact ⟨address, ha,
      ⟨row, List.mem_append_right _ (List.mem_singleton.mpr hnew), hd, ha⟩, hm, hdisk⟩

theorem Transaction.start_blank (mac : Option String) (mode : NetworkMode) (address : String)
    (prefixLen : Option UInt8) : Blank (start mac mode address prefixLen) [] where
  unsaved := rfl
  unreported := by simp [start]
  unverified := rfl
  unwritten _ _ hmem := by cases hmem
  key := rfl
  row := rfl

end SavedRow

/-- In every run of a removal or an addition, alone or in its operation, a removal is issued
only with its intent saved or where a row that is not the address's own has the subnet's key;
a success is what the last observation shows; and from the write of an intent on, its row
stays in memory and in the file, for the next pass over the saved rows. -/
theorem removal_follows_intent {N : Type} (net : IpNetwork N) (request : AddressRequest)
    (operation : AddressOp Unit) (hop : operation = runAddressOperation net request ∨
      operation = addressOperation net request) (mac : Option String) (mode : NetworkMode)
    (address : String) (prefixLen : Option UInt8) (store : Store)
    (moves : List (Move AddressAnswer OtherWriter)) :
    let c := addressWorld.logged.run
      ((store, []), operation (.start mac mode address prefixLen)) moves
    (∀ adapter ip next, c.2 = .request (.remove adapter ip) next →
      (∃ subnet, IntentKept subnet ip c.1) ∨ OtherRowHolds net ip c.1) ∧
    (∀ result tx, c.2 = .done (result, tx) → tx.outcome = .success →
      ∃ snapshot, tx.observed = some snapshot ∧ lastObservation c.1.2 = some snapshot.all ∧
        requestedState snapshot tx.address tx.prefixLen (!request.removing) = true) ∧
    ∀ subnet row, ⟨.persistIntent subnet row, .ok ()⟩ ∈ c.1.2 →
      ∃ address, row.address = some address ∧ Retried net c.1.1.memory subnet address ∧
        Retried net c.1.1.disk subnet address := by
  have hruns : Holds net (fun tx s => Blank tx s.2) operation
      (fun _ tx s => Shown (!request.removing) tx s)
      (fun _ tx s => Shown (!request.removing) tx s) := by
    obtain rfl | rfl := hop
    · exact (holds_runAddressOperation request).conseq (fun _ _ h => h) (fun _ _ _ h => h.2)
        fun _ _ _ h => shown_of_ne h.2
    · exact (holds_addressOperation request).conseq (fun _ _ h => h) (fun _ _ _ h => h.2)
        fun _ _ _ h => h.elim
  have hsafe := hruns.triple _ (store, []) (Transaction.start_blank mac mode address prefixLen)
  intro c
  have hrun := Safe.run (c := ((store, []), operation (.start mac mode address prefixLen)))
    hsafe moves
  refine ⟨fun adapter ip next hc => ?_, fun result tx hc => ?_, fun subnet row hmem => ?_⟩
  · rw [show addressWorld.logged.run _ moves = c from rfl, hc] at hrun
    exact hrun.issued.covered adapter ip rfl
  · rw [show addressWorld.logged.run _ moves = c from rfl, hc] at hrun
    have hend := hrun.returned
    cases result <;> exact hend
  · have hkept : IntentsKept c.1 := Safe.invariant stable_intentsKept
      (fun _ _ _ => intentsKept_call) hsafe (fun _ _ h => by cases h) moves
    obtain ⟨a, ha, hk⟩ := hkept subnet row hmem
    exact ⟨a, ha, hk.memory.retried, hk.disk.retried⟩

section Unrecorded

/-- Settings with a row that records no address. -/
def legacySettings : AppSettings :=
  { AppSettings.fresh "0123456789abcdef" with
    selectedAdapterMac := some wiredAdapter.mac
    adoptedMeta := (∅ : FiniteMap String AdoptedMeta).insert "192.168.5.0/24" {} }

def wiredAnswer : AddressAnswer := ⟨.ok (), .ok [wiredAdapter], fun _ => some true, false⟩

/-- The run that removes the wired adapter's address, up to its seventh reply. -/
def legacyRemoval :
    AddressState × Program AddressCall AddressCall.Reply (Except AppError Unit × Transaction) :=
  addressWorld.logged.run ((⟨legacySettings, legacySettings⟩, []),
    runAddressOperation .cidr (.removeManual "Ethernet" "192.168.5.10")
      (.start (some wiredAdapter.mac) .staticAuto "192.168.5.10" none))
    (List.replicate 7 (.reply wiredAnswer))

def issuesRemoval {α : Type} : Program AddressCall AddressCall.Reply α → Bool
  | .request (.remove _ _) _ => true
  | _ => false

/-- No intent, and no settings but those of the start. -/
def legacyEvent : (call : AddressCall) × call.Reply → Bool
  | ⟨.persistIntent _ _, _⟩ => false
  | ⟨.settings, settings⟩ => settings = legacySettings
  | _ => true

/-- A removal is issued without an intent although no row has another address. -/
theorem unrecorded_row_removes_without_intent :
    ¬ ∀ adapter ip next, legacyRemoval.2 = .request (.remove adapter ip) next →
      (∃ subnet, IntentKept subnet ip legacyRemoval.1) ∨
      ∃ settings prefixLen key row other, ⟨.settings, settings⟩ ∈ legacyRemoval.1.2 ∧
        subnetKey .cidr ip prefixLen = some key ∧ settings.adoptedMeta.lookup key = some row ∧
        row.address = some other ∧ other ≠ ip := by
  intro h
  have hissued : issuesRemoval legacyRemoval.2 = true := by decide +kernel
  have hlog : legacyRemoval.1.2.all legacyEvent = true := by decide +kernel
  obtain ⟨adapter, ip, next, hnext⟩ : ∃ adapter ip next,
      legacyRemoval.2 = .request (.remove adapter ip) next := by
    unfold issuesRemoval at hissued
    split at hissued
    · exact ⟨_, _, _, by assumption⟩
    · cases hissued
  rcases h adapter ip next hnext with ⟨subnet, hk⟩ | ⟨settings, p, key, row, other, hmem, -, hrow, ha, -⟩
  · obtain ⟨row, hmem, -⟩ := hk.written
    cases List.all_eq_true.mp hlog _ hmem
  · have hsettings : settings = legacySettings := by
      simpa [legacyEvent] using List.all_eq_true.mp hlog _ hmem
    rw [hsettings, legacySettings, FiniteMap.lookup_insert] at hrow
    split at hrow
    · cases hrow
      cases ha
    · cases hrow

theorem removal_follows_intent_legacy :
    let c := addressWorld.logged.run ((⟨legacySettings, legacySettings⟩, []),
      runAddressOperation .cidr (.removeManual "Ethernet" "192.168.5.10")
        (.start (some wiredAdapter.mac) .staticAuto "192.168.5.10" none))
      (List.replicate 7 (.reply wiredAnswer))
    ∀ adapter ip next, c.2 = .request (.remove adapter ip) next →
      (∃ subnet, IntentKept subnet ip c.1) ∨ OtherRowHolds .cidr ip c.1 :=
  (removal_follows_intent .cidr (.removeManual "Ethernet" "192.168.5.10") _ (.inl rfl)
    (some wiredAdapter.mac) .staticAuto "192.168.5.10" none ⟨legacySettings, legacySettings⟩
    (List.replicate 7 (.reply wiredAnswer))).1

end Unrecorded

end PocketStream
