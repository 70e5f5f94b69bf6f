import PocketStream.Binding.ManualAddress

/-! # What an address operation observes

The settings are a store that other writers may change while an operation
waits, but for the rows of removed addresses. The log of the operation tells
what it observed last, and its observations keep whatever does not depend on
that.
-/

namespace PocketStream

open Foundation Routine World

/-- How a call is answered. -/
structure AddressAnswer where
  unit : Fallible Unit
  native : Fallible (List NativeAdapter)
  descriptors : NativeAdapter → Option Bool
  flag : Bool

/-- A writer of other settings, which leaves the rows of removed addresses alone: the writers
of binding rows wait for the operation to end. -/
structure OtherWriter where
  apply : Store → Store
  memory : ∀ w subnet row, row.desired = .removed → w.memory.adoptedMeta.lookup subnet = some row →
    (apply w).memory.adoptedMeta.lookup subnet = some row
  disk : ∀ w subnet row, row.desired = .removed → w.disk.adoptedMeta.lookup subnet = some row →
    (apply w).disk.adoptedMeta.lookup subnet = some row

namespace AddressCall

def handle (w : Store) : (call : AddressCall) → AddressAnswer → call.Reply × Store
  | checkWritesAvailable, o => (o.unit, w)
  | native, o => (o.native, w)
  | descriptors, o => (o.descriptors, w)
  | qualify, o => (o.unit, w)
  | add _ _ _, o => (o.unit, w)
  | remove _ _, o => (o.unit, w)
  | persistIntent subnet row, o =>
    w.changeIf (AppSettings.setBindingForOperation subnet row true) o.unit
  | persistBinding subnet row, o =>
    w.changeIf (AppSettings.setBindingForOperation subnet row false) o.unit
  | forgetUnownedBinding subnet expected, o =>
    w.change (AppSettings.forgetUnownedBinding subnet expected) o.unit
  | claim ip, o => w.change (AppSettings.claimBinding ip) o.unit
  | persistPrimary mac cidr, o => w.change (AppSettings.setPrimaryAddress mac cidr) o.unit
  | settings, _ => (w.memory, w)
  | fenceStale, o => (o.flag, w)
  | deadlinePassed, o => (o.flag, w)

/-- The calls that only read something other than the adapters. -/
def quiet : AddressCall → Bool
  | checkWritesAvailable | descriptors | qualify | settings | fenceStale | deadlinePassed => true
  | _ => false

end AddressCall

def addressWorld : World AddressCall AddressCall.Reply Store AddressAnswer OtherWriter where
  handle := AddressCall.handle
  interfere w writer := writer.apply w

abbrev AddressLog := Log AddressCall AddressCall.Reply

abbrev AddressState := Store × AddressLog

/-- The adapters as the last successful observation of the log shows them. -/
def lastObservation (log : AddressLog) : Option (List NativeAdapter) :=
  log.foldl (fun last event => match event with
    | ⟨.native, .ok all⟩ => some all
    | _ => last) none

/-- The snapshot is the last observation. -/
def Seen (snapshot : OperationSnapshot) (s : AddressState) : Prop :=
  lastObservation s.2 = some snapshot.all

/-! ### What reads leave alone -/

/-- The assertions that quiet calls leave alone. -/
structure Quiet (P : Transaction → AddressState → Prop) : Prop where
  stable : ∀ tx, addressWorld.logged.Stable (P tx)
  quiet : ∀ tx w log call r, call.quiet = true → P tx (w, log) → P tx (w, log ++ [⟨call, r⟩])

/-- The assertions that observations leave alone too. -/
structure Readable (P : Transaction → AddressState → Prop) : Prop extends Quiet P where
  native : ∀ tx w log r, P tx (w, log) → P tx (w, log ++ [⟨.native, r⟩])

theorem lastObservation_append (log : AddressLog) (event : (call : AddressCall) × call.Reply) :
    lastObservation (log ++ [event]) = match event with
      | ⟨.native, .ok all⟩ => some all
      | _ => lastObservation log := by
  unfold lastObservation
  rw [List.foldl_append]
  rfl

theorem lastObservation_quiet {log : AddressLog} {call : AddressCall} {r : call.Reply}
    (h : call ≠ .native) : lastObservation (log ++ [⟨call, r⟩]) = lastObservation log := by
  rw [lastObservation_append]
  cases call with
  | native => exact absurd rfl h
  | _ => rfl

theorem ne_native_of_quiet {call : AddressCall} (h : call.quiet = true) : call ≠ .native := by
  rintro rfl
  cases h

section Quiet

variable {P Q : Transaction → AddressState → Prop}

theorem Quiet.and (hP : Quiet P) (hQ : Quiet Q) : Quiet fun tx s => P tx s ∧ Q tx s where
  stable tx := (hP.stable tx).and (hQ.stable tx)
  quiet tx w log call r hc h := ⟨hP.quiet tx w log call r hc h.1, hQ.quiet tx w log call r hc h.2⟩

theorem Readable.and (hP : Readable P) (hQ : Readable Q) : Readable fun tx s => P tx s ∧ Q tx s where
  toQuiet := hP.toQuiet.and hQ.toQuiet
  native tx w log r h := ⟨hP.native tx w log r h.1, hQ.native tx w log r h.2⟩

theorem readable_record (p : Transaction → Prop) : Readable fun tx _ => p tx where
  stable _ _ _ h := h
  quiet _ _ _ _ _ _ h := h
  native _ _ _ _ h := h

/-- What was issued stays issued. -/
theorem readable_issued (event : (call : AddressCall) × call.Reply) :
    Readable fun _ s => event ∈ s.2 where
  stable _ _ _ h := h
  quiet _ _ _ _ _ _ h := List.mem_append_left _ h
  native _ _ _ _ h := List.mem_append_left _ h

theorem quiet_last (all : List NativeAdapter) :
    Quiet fun _ s => lastObservation s.2 = some all where
  stable _ _ _ h := h
  quiet _ _ _ _ _ hc h := (lastObservation_quiet (ne_native_of_quiet hc)).trans h

theorem quiet_seen (snapshot : OperationSnapshot) : Quiet fun _ => Seen snapshot :=
  quiet_last snapshot.all

end Quiet

/-! ### Observations keep what holds before them -/

/-- The assertion allows every observation. -/
class Observes (guard : AddressCall → AddressState → Prop) : Prop where
  quiet : ∀ call s, call.quiet = true → guard call s
  native : ∀ s, guard .native s

section Observations

variable {guard : AddressCall → AddressState → Prop} [Observes guard]
  {P : Transaction → AddressState → Prop} {bad : AppError → Transaction → AddressState → Prop}

abbrev Reads (guard : AddressCall → AddressState → Prop) {α : Type}
    (P : Transaction → AddressState → Prop) (x : AddressOp α)
    (good : α → Transaction → AddressState → Prop)
    (bad : AppError → Transaction → AddressState → Prop) : Prop :=
  addressWorld.logged.Runs guard P x good bad

theorem quiet_store {call : AddressCall} (h : call.quiet = true) (w : Store) (o : AddressAnswer) :
    (call.handle w o).2 = w := by
  cases call <;> first | rfl | cases h

theorem reads_quiet {call : AddressCall} (hc : call.quiet = true) (hP : Quiet P) :
    Reads guard P (ask call) (fun r tx s => P tx s ∧ ⟨call, r⟩ ∈ s.2) bad :=
  .ask hP.stable (fun _ s _ => Observes.quiet _ s hc)
    (fun tx s o h => by
      refine ⟨?_, List.mem_append_right _ (List.mem_singleton.mpr rfl)⟩
      have := hP.quiet tx s.1 s.2 call (call.handle s.1 o).1 hc h
      change P tx ((call.handle s.1 o).2, _)
      rwa [quiet_store hc])
    fun r tx => (hP.stable tx).and fun _ _ h => h

theorem reads_native (hP : Readable P) :
    Reads guard P readNative (fun all tx s => P tx s ∧ lastObservation s.2 = some all)
      (fun _ => P) :=
  .attempt (fun r tx s => P tx s ∧ ∀ all, r = .ok all → lastObservation s.2 = some all) hP.stable
    (fun _ s _ => Observes.native s)
    (fun tx s o h => ⟨hP.native tx s.1 s.2 o.native h, fun all hr => by
      change lastObservation (s.2 ++ [⟨.native, o.native⟩]) = _
      rw [show o.native = .ok all from hr, lastObservation_append]⟩)
    (fun r tx => (hP.stable tx).and fun _ _ h => h)
    (fun r all tx s h hr => ⟨h.1, h.2 all hr⟩) fun r e tx s h hr => h.1

theorem selectSnapshot_all {all : List NativeAdapter} {mac : String} {snapshot : OperationSnapshot}
    (h : selectSnapshot all mac = .ok snapshot) : snapshot.all = all := by
  unfold selectSnapshot at h
  split at h
  · obtain rfl := Except.ok.inj h
    rfl
  · cases h

theorem snapshotFromNative_all {descriptor : NativeAdapter → Option Bool} {mac : String}
    {all : List NativeAdapter} {snapshot : OperationSnapshot}
    (h : snapshotFromNative descriptor mac all = .ok snapshot) : snapshot.all = all := by
  obtain ⟨s, hs, hif⟩ := Fallible.bind_eq_ok.mp h
  split at hif
  · obtain rfl := Except.ok.inj hif
    exact selectSnapshot_all hs
  · cases hif

theorem reads_currentSnapshot (hP : Readable P) (mac : String) (all : List NativeAdapter) :
    Reads guard (fun tx s => P tx s ∧ lastObservation s.2 = some all) (currentSnapshot mac all)
      (fun snapshot tx s => P tx s ∧ Seen snapshot s) (fun _ => P) := by
  have hQ := hP.toQuiet.and (quiet_last all)
  refine .bind _ (reads_quiet rfl hQ) (fun _ => hP.stable) fun descriptor => ?_
  refine .conseq (.require (fun tx => (hQ.stable tx).and fun _ _ h => h) fun _ _ _ h _ => h.1.1)
    (fun _ _ h => h) (fun snapshot tx s h => ?_) fun _ _ _ h => h
  obtain ⟨⟨⟨hp, hlast⟩, -⟩, hok⟩ := h
  refine ⟨hp, ?_⟩
  rw [Seen, hlast, snapshotFromNative_all hok]

theorem reads_read {call : AddressCall} (hc : call.quiet = true) (hP : Quiet P) :
    Reads guard P (ask call) (fun _ => P) bad :=
  (reads_quiet hc hP).conseq (fun _ _ h => h) (fun _ _ _ h => h.1) fun _ _ _ h => h

theorem reads_descriptors (hP : Quiet P) : Reads guard P descriptors (fun _ => P) bad :=
  reads_read rfl hP

theorem reads_deadlinePassed (hP : Quiet P) : Reads guard P deadlinePassed (fun _ => P) bad :=
  reads_read rfl hP

theorem reads_fenceStale (hP : Quiet P) : Reads guard P fenceStale (fun _ => P) bad :=
  reads_read rfl hP

theorem reads_getSettings (hP : Quiet P) : Reads guard P getSettings (fun _ => P) bad :=
  reads_read rfl hP

theorem reads_qualify (hP : Quiet P) : Reads guard P qualify (fun _ => P) (fun _ => P) :=
  .attempt (fun _ => P) hP.stable (fun _ s _ => Observes.quiet _ s rfl)
    (fun tx s o h => hP.quiet tx s.1 s.2 .qualify o.unit rfl h) (fun _ => hP.stable)
    (fun _ _ _ _ h _ => h) fun _ _ _ _ h _ => h

theorem reads_requalify (hP : Readable P) (mac : String) (before : OperationSnapshot) :
    Reads guard P (requalify mac before) (fun snapshot tx s => P tx s ∧ Seen snapshot s)
      (fun _ => P) := by
  refine .bind _ (reads_qualify hP.toQuiet) (fun _ => hP.stable) fun _ => ?_
  refine .bind _ (reads_native hP) (fun _ => hP.stable) fun all => ?_
  have hQ := hP.toQuiet.and (quiet_last all)
  refine .bind _ (.demand hQ.stable fun _ _ _ h _ => h.1) (fun _ => hP.stable) fun again => ?_
  refine .bind _ (.check hQ.stable fun _ _ h _ => h.1) (fun _ => hP.stable) fun _ => ?_
  exact reads_currentSnapshot hP mac all

theorem reads_operationSnapshotOf (hP : Readable P) (mac : String) :
    Reads guard P (operationSnapshotOf mac) (fun snapshot tx s => P tx s ∧ Seen snapshot s)
      (fun _ => P) := by
  refine .bind _ (reads_native hP) (fun _ => hP.stable) fun all => ?_
  have hQ := hP.toQuiet.and (quiet_last all)
  refine .bind _ (.demand hQ.stable fun _ _ _ h _ => h.1) (fun _ => hP.stable) fun before => ?_
  refine .bind _ (reads_descriptors hQ) (fun _ => hP.stable) fun descriptor => ?_
  split
  · exact reads_currentSnapshot hP mac all
  · exact (reads_requalify hP mac before).conseq (fun _ _ h => h.1) (fun _ _ _ h => h)
      fun _ _ _ h => h

theorem reads_operationSnapshot (hP : Readable P) :
    Reads guard P operationSnapshot (fun snapshot tx s => P tx s ∧ Seen snapshot s)
      (fun _ => P) := by
  refine .bind _ (reads_getSettings hP.toQuiet) (fun _ => hP.stable) fun settings => ?_
  split
  · exact .throw hP.stable fun _ _ h => h
  · exact reads_operationSnapshotOf hP _

theorem reads_observeOperation (hP : Readable P) (before : OperationSnapshot) :
    Reads guard P (observeOperation before) (fun snapshot tx s => P tx s ∧ Seen snapshot s)
      (fun _ => P) := by
  refine .bind _ (reads_native hP) (fun _ => hP.stable) fun all => ?_
  refine .bind _ (reads_currentSnapshot hP _ all) (fun _ => hP.stable) fun after => ?_
  have hQ := hP.toQuiet.and (quiet_seen after)
  refine .bind _ (.check hQ.stable fun _ _ h _ => h.1) (fun _ => hP.stable) fun _ => ?_
  exact .pure hQ.stable fun _ _ h => h

/-- The check of the context reads nothing of the adapters. -/
theorem reads_validate (hP : Quiet P) :
    Reads guard P validateOperationContext (fun _ => P) (fun _ => P) := by
  refine .bind _ (.look hP.stable) (fun _ => hP.stable) fun tx => ?_
  refine .bind _ (reads_getSettings hP) (fun _ => hP.stable) fun now => ?_
  refine .bind _ (reads_fenceStale hP) (fun _ => hP.stable) fun stale => ?_
  exact .check hP.stable fun _ _ h _ => h

theorem reads_round (hP : Readable P) (before : OperationSnapshot) (add : Bool)
    {retry : OperationSnapshot → AddressOp OperationSnapshot}
    (hretry : ∀ after, Reads guard (fun tx s => P tx s ∧ Seen after s) (retry after)
      (fun snapshot tx s => P tx s ∧ Seen snapshot s) (fun _ => P)) :
    Reads guard P (verificationRound before add retry)
      (fun snapshot tx s => P tx s ∧ Seen snapshot s) (fun _ => P) := by
  refine .bind _ (reads_deadlinePassed hP.toQuiet) (fun _ => hP.stable) fun passed => ?_
  split
  · exact .throw hP.stable fun _ _ h => h
  · refine .bind _ (reads_observeOperation hP before) (fun _ => hP.stable) fun after => ?_
    have hQ := hP.toQuiet.and (quiet_seen after)
    refine .bind _ ((reads_validate hQ).conseq (fun _ _ h => h) (fun _ _ _ h => h)
      fun _ _ _ h => h.1) (fun _ => hP.stable) fun _ => ?_
    refine .bind _ (.look hQ.stable) (fun _ => hP.stable) fun tx => ?_
    split
    · exact .pure hQ.stable fun _ _ h => h
    · exact hretry after

theorem reads_observeAddressState (hP : Readable P) (before : OperationSnapshot) (add : Bool) :
    ∀ rounds, Reads guard P (observeAddressState before add rounds)
      (fun snapshot tx s => P tx s ∧ Seen snapshot s) (fun _ => P)
  | 0 => reads_round hP before add fun after =>
      .pure (hP.toQuiet.and (quiet_seen after)).stable fun _ _ h => h
  | rounds + 1 => reads_round hP before add fun after => by
      have hQ := hP.toQuiet.and (quiet_seen after)
      refine .bind _ (reads_deadlinePassed hQ) (fun _ => hP.stable) fun passed => ?_
      split
      · exact .pure hQ.stable fun _ _ h => h
      · exact (reads_observeAddressState hP before add rounds).conseq (fun _ _ h => h.1)
          (fun _ _ _ h => h) fun _ _ _ h => h

end Observations

end PocketStream
