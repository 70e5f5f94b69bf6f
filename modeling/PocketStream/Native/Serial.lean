import PocketStream.Foundation.Machine
import PocketStream.Native.LocalExecutor

/-! # One native operation at a time

Every step either admits an operation, finishes the running one, acknowledges a
retained completion or changes none of this. The running operation has the only
task there is, and identifiers are drawn from an increasing counter.
-/

namespace PocketStream

namespace LocalExecutor

open Foundation

variable {Value : Type}

/-- Calls in any order, and every way the work of an operation may end. -/
def machine (Value : Type) : Machine (System Value) (Call Value) := ⟨.initial, System.step⟩

/-- The identifier an event admits an operation under. -/
def Event.admittedId : Event → Option Nat
  | admitted id _ => some id
  | finished .. => none

/-- The running operation has the only task. -/
inductive Serves : Phase Value → List Worker → Prop where
  | recoveryRequired : Serves .recoveryRequired []
  | idle : Serves .idle []
  | running {id : Nat} {cancel managed : Bool} (recovery : Bool) :
    Serves (.running id cancel managed) [⟨id, recovery⟩]
  | retained {id : Nat} {result : Completion Value} : Serves (.retained id result) []

/-- One operation runs at a time, and identifiers are drawn from an increasing counter. -/
structure Serial (s : System Value) : Prop where
  serves : Serves s.shared.state.phase s.workers
  poisoned : s.shared.poisoned = true → s.workers = []
  admitted : ∀ w ∈ s.workers, .admitted w.id w.recovery ∈ s.history
  drawn : ∀ id ∈ s.history.filterMap Event.admittedId, id ≤ s.shared.state.nextId
  increasing : (s.history.filterMap Event.admittedId).Pairwise (· < ·)

theorem Serial.initial : Serial (System.initial : System Value) where
  serves := .recoveryRequired
  poisoned _ := rfl
  admitted _ h := absurd h List.not_mem_nil
  drawn _ h := absurd h List.not_mem_nil
  increasing := .nil

theorem Serves.length_le_one {phase : Phase Value} {workers : List Worker}
    (h : Serves phase workers) : workers.length ≤ 1 := by
  cases h <;> simp

theorem Serves.running_of_mem {phase : Phase Value} {workers : List Worker} {w : Worker}
    (h : Serves phase workers) (hw : w ∈ workers) :
    workers = [w] ∧ ∃ cancel managed, phase = .running w.id cancel managed := by
  cases h with
  | recoveryRequired => cases hw
  | idle => cases hw
  | running recovery =>
    obtain rfl := List.mem_singleton.mp hw
    exact ⟨rfl, _, _, rfl⟩
  | retained => cases hw

/-- What a step does to a serial executor: an admission needs an idle one unless it is a
recovery's, and only an acknowledgment makes a retained completion's executor idle. -/
inductive Effect (s : System Value) : Call Value → System Value → Prop where
  | admits {call : Call Value} {s' : System Value} (recovery managed : Bool)
    (hworkers : s.workers = []) (hpoisoned : s.shared.poisoned = false)
    (hidle : recovery = false → s.shared.state.phase = .idle)
    (hnext : s'.shared.state.nextId = s.shared.state.nextId + 1)
    (hphase : s'.shared.state.phase = .running (s.shared.state.nextId + 1) false managed)
    (hpoisoned' : s'.shared.poisoned = false)
    (hworkers' : s'.workers = [⟨s.shared.state.nextId + 1, recovery⟩])
    (hhistory : s'.history = s.history ++ [.admitted (s.shared.state.nextId + 1) recovery]) :
    Effect s call s'
  | finishes {s' : System Value} (w : Worker) (work : Work Value) (hworkers : s.workers = [w])
    (hnext : s'.shared.state.nextId = s.shared.state.nextId)
    (hphase : s'.shared.state.phase =
      if w.recovery && work.result.outcome = .completed then .idle else .retained w.id work.result)
    (hworkers' : s'.workers = [])
    (hhistory : s'.history = s.history ++ [.finished w.id w.recovery work.result.outcome]) :
    Effect s (.finish w work) s'
  | acknowledges {s' : System Value} (id : Nat) (result : Completion Value)
    (hretained : s.shared.state.phase = .retained id result) (hcertain : result.outcome ≠ .uncertain)
    (hpoisoned : s.shared.poisoned = false)
    (hnext : s'.shared.state.nextId = s.shared.state.nextId)
    (hphase : s'.shared.state.phase = .idle) (hworkers' : s'.workers = [])
    (hhistory : s'.history = s.history) : Effect s (.acknowledge id) s'
  | nothing {call : Call Value} {s' : System Value}
    (hnext : s'.shared.state.nextId = s.shared.state.nextId)
    (hphase : s'.shared.state.phase = s.shared.state.phase ∨
      s'.shared.state.phase = s.shared.state.phase.requestCancel)
    (hpoisoned' : s'.shared.poisoned = true → s.workers = [])
    (hworkers' : s'.workers = s.workers) (hhistory : s'.history = s.history) : Effect s call s'

theorem checkedAdd_eq_some {n m k : Nat} (h : checkedAdd n m = some k) : k = n + m := by
  unfold checkedAdd at h
  split at h
  · exact (Option.some.inj h).symm
  · cases h

theorem State.admit_ok {s : State Value} {recovery : Bool} (h : s.admit recovery = .ok ()) :
    (∀ id cancel managed, s.phase ≠ .running id cancel managed) ∧
      (recovery = false → s.phase = .idle) := by
  unfold State.admit at h
  split at h
  · cases h
  split at h
  · cases h
  · next hphase => exact ⟨by simp [hphase], fun _ => hphase⟩
  · next hrunning _ => exact ⟨hrunning, nofun⟩
  · cases h

theorem Serves.requestCancel {phase : Phase Value} {workers : List Worker}
    (h : Serves phase workers) : Serves phase.requestCancel workers := by
  cases h with
  | recoveryRequired => exact .recoveryRequired
  | idle => exact .idle
  | running recovery => exact .running recovery
  | retained => exact .retained

theorem Phase.requestCancel_of_not_running {phase phase' : Phase Value}
    (h : ∀ id cancel managed, phase' ≠ .running id cancel managed) :
    phase.requestCancel = phase' ↔ phase = phase' := by
  cases phase with
  | running id cancel managed =>
    exact iff_of_false (fun he => h _ _ _ he.symm) fun he => h _ _ _ he.symm
  | recoveryRequired => rfl
  | idle => rfl
  | retained => rfl

theorem Serves.nil_of_not_running {phase : Phase Value} {workers : List Worker}
    (h : Serves phase workers) (hp : ∀ id cancel managed, phase ≠ .running id cancel managed) :
    workers = [] := by
  cases h with
  | recoveryRequired => rfl
  | idle => rfl
  | running recovery => exact absurd rfl (hp _ _ _)
  | retained => rfl

variable {s s' : System Value}

/-- A call that leaves the executor as it was. -/
theorem Serial.nothing (h : Serial s) {call : Call Value} : Effect s call s :=
  .nothing rfl (.inl rfl) h.poisoned rfl rfl

theorem Serial.spawn (h : Serial s) (recovery managed : Bool) {call : Call Value} :
    Effect s call (s.spawn recovery (s.shared.start recovery managed)) := by
  unfold Shared.start
  cases hpoisoned : s.shared.poisoned with
  | true => exact h.nothing
  | false =>
    cases hadmit : s.shared.state.admit recovery with
    | error error => exact h.nothing
    | ok =>
      obtain ⟨hrunning, hidle⟩ := State.admit_ok hadmit
      have hworkers := h.serves.nil_of_not_running hrunning
      cases hid : checkedAdd s.shared.state.nextId 1 with
      | none => exact .nothing rfl (.inl rfl) (fun _ => hworkers) rfl rfl
      | some id =>
        obtain rfl := checkedAdd_eq_some hid
        refine .admits recovery managed hworkers hpoisoned hidle rfl rfl rfl ?_ rfl
        exact congrArg (· ++ _) hworkers

theorem Serial.complete (h : Serial s) {w : Worker} (hw : w ∈ s.workers) (work : Work Value) :
    Effect s (.finish w work) (s.complete w work.result) := by
  obtain ⟨hworkers, cancel, managed, hphase⟩ := h.serves.running_of_mem hw
  have hpoisoned : s.shared.poisoned = false := by
    rw [Bool.eq_false_iff]
    intro hp
    rw [h.poisoned hp] at hw
    cases hw
  let phase : Phase Value :=
    if w.recovery && work.result.outcome = .completed then .idle else .retained w.id work.result
  have hfinish : s.shared.finish w.id w.recovery work.result =
      ({ s.shared with state := { s.shared.state with phase } }, .returned ()) := by
    simp [Shared.finish, hpoisoned, hphase, phase]
  unfold System.complete
  rw [hfinish]
  exact .finishes w work hworkers rfl rfl (by simp [hworkers]) rfl

theorem Serial.acknowledge (h : Serial s) (id : Nat) :
    Effect s (.acknowledge id) { s with shared := (s.shared.acknowledge id).1 } := by
  unfold Shared.acknowledge
  cases hpoisoned : s.shared.poisoned with
  | true => exact h.nothing
  | false =>
    cases hphase : s.shared.state.phase with
    | retained current result =>
      by_cases hc : current = id ∧ result.outcome ≠ .uncertain
      · obtain ⟨rfl, hcertain⟩ := hc
        have hworkers := h.serves.nil_of_not_running (by simp [hphase])
        simp only [hcertain, ne_eq, not_false_iff, and_self, if_true]
        exact .acknowledges current result hphase hcertain hpoisoned rfl rfl hworkers rfl
      · simp only [if_neg hc]
        exact h.nothing
    | recoveryRequired => exact h.nothing
    | idle => exact h.nothing
    | running => exact h.nothing

theorem Serial.dropPending (h : Serial s) (id : Nat) {call : Call Value} :
    Effect s call { s with shared := s.shared.dropPending id } := by
  unfold Shared.dropPending
  split
  · split
    · exact .nothing rfl (.inr rfl) h.poisoned rfl rfl
    · exact h.nothing
  · exact h.nothing

theorem Serial.shutdown (h : Serial s) {call : Call Value} :
    Effect s call { s with shared := s.shared.shutdown.1 } := by
  unfold Shared.shutdown
  split
  · exact h.nothing
  · exact .nothing rfl (.inr rfl) h.poisoned rfl rfl

theorem Serial.effect (h : Serial s) {call : Call Value} (hs : s.step call = some s') :
    Effect s call s' := by
  cases call with
  | submit => exact Option.some.inj hs ▸ h.spawn false false
  | submitManaged => exact Option.some.inj hs ▸ h.spawn false true
  | reconcile => exact Option.some.inj hs ▸ h.spawn true true
  | dropPending id => exact Option.some.inj hs ▸ h.dropPending id
  | finish w work =>
    obtain ⟨hw, hs⟩ := Option.ite_none_right_eq_some.mp hs
    exact Option.some.inj hs ▸ h.complete hw work
  | acknowledge id => exact Option.some.inj hs ▸ h.acknowledge id
  | shutdown => exact Option.some.inj hs ▸ h.shutdown
  | takeWorker =>
    obtain ⟨-, hs⟩ := Option.ite_none_right_eq_some.mp hs
    exact Option.some.inj hs ▸ .nothing rfl (.inl rfl) h.poisoned rfl rfl

/-- An admission draws the next identifier, and only an admission draws one. -/
theorem Effect.serial {call : Call Value} (he : Effect s call s') (h : Serial s) : Serial s' := by
  cases he with
  | admits recovery managed hworkers hpoisoned hidle hnext hphase hpoisoned' hworkers' hhistory =>
    have hids : s'.history.filterMap Event.admittedId =
        s.history.filterMap Event.admittedId ++ [s.shared.state.nextId + 1] := by
      rw [hhistory, List.filterMap_append]
      rfl
    refine ⟨?_, fun hp => ?_, fun w hw => ?_, fun id hid => ?_, ?_⟩
    · rw [hphase, hworkers']
      exact .running recovery
    · rw [hpoisoned'] at hp
      cases hp
    · rw [hworkers', List.mem_singleton] at hw
      rw [hhistory, hw]
      exact List.mem_append_right _ (List.mem_singleton.mpr rfl)
    · rw [hids, List.mem_append, List.mem_singleton] at hid
      rcases hid with hid | rfl
      · have := h.drawn id hid
        omega
      · omega
    · rw [hids, List.pairwise_append]
      refine ⟨h.increasing, List.pairwise_singleton _ _, fun id hid id' hid' => ?_⟩
      have := h.drawn id hid
      rw [List.mem_singleton.mp hid']
      omega
  | finishes w work hworkers hnext hphase hworkers' hhistory =>
    have hids : s'.history.filterMap Event.admittedId = s.history.filterMap Event.admittedId := by
      rw [hhistory, List.filterMap_append]
      exact List.append_nil _
    refine ⟨?_, fun _ => hworkers', fun w hw => ?_, ?_, ?_⟩
    · rw [hphase, hworkers']
      split
      · exact .idle
      · exact .retained
    · rw [hworkers'] at hw
      cases hw
    · rw [hids, hnext]
      exact h.drawn
    · rw [hids]
      exact h.increasing
  | acknowledges id result hretained hcertain hpoisoned hnext hphase hworkers' hhistory =>
    refine ⟨?_, fun _ => hworkers', fun w hw => ?_, ?_, ?_⟩
    · rw [hphase, hworkers']
      exact .idle
    · rw [hworkers'] at hw
      cases hw
    · rw [hhistory, hnext]
      exact h.drawn
    · rw [hhistory]
      exact h.increasing
  | nothing hnext hphase hpoisoned' hworkers' hhistory =>
    refine ⟨?_, fun hp => hworkers'.trans (hpoisoned' hp), ?_, ?_, ?_⟩
    · rw [hworkers']
      rcases hphase with hphase | hphase
      · exact hphase ▸ h.serves
      · exact hphase ▸ h.serves.requestCancel
    · rw [hworkers', hhistory]
      exact h.admitted
    · rw [hhistory, hnext]
      exact h.drawn
    · rw [hhistory]
      exact h.increasing

theorem serial_of_reachable (h : (machine Value).Reachable s) : Serial s :=
  h.invariant Serial.initial fun _ _ _ hs hstep => (hs.effect hstep).serial hs

end LocalExecutor

end PocketStream
