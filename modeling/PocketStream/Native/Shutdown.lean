import PocketStream.Native.Serial

/-! # The shutdown of the executor

A shutdown publishes its flag, takes the handle of the task spawned last and waits
for that task to end. Several callers may do so at once, and a caller may be
dropped while it waits; the handle goes to the first one that comes for it.
-/

namespace PocketStream

namespace LocalExecutor

open Foundation

/-- Where a call to `shutdown` is: it has set the flag, or it waits for the task whose handle it
found. -/
inductive Closer where
  | flagged
  | joining (worker : Option ℕ)
  deriving DecidableEq

/-- The executor with the calls to `shutdown` that have not returned. -/
structure Closing (Value : Type) where
  system : System Value
  closers : List Closer

inductive ClosingCall (Value : Type) where
  /-- Anything but a shutdown. -/
  | work (call : Call Value)
  | shutdown
  | takeWorker
  | returns (worker : Option ℕ)
  | dropped (worker : ℕ)

namespace Closing

variable {Value : Type}

def initial : Closing Value := ⟨.initial, []⟩

def step (s : Closing Value) : ClosingCall Value → Option (Closing Value)
  | .work .shutdown | .work .takeWorker => none
  | .work call => (s.system.step call).map ({ s with system := · })
  | .shutdown =>
    match s.system.shared.shutdown with
    | (shared, .returned ()) =>
      some ⟨{ s.system with shared := shared }, .flagged :: s.closers⟩
    | _ => none
  | .takeWorker =>
    if .flagged ∈ s.closers then
      some ⟨{ s.system with shared := s.system.shared.takeWorker.1 },
        .joining s.system.shared.takeWorker.2 :: s.closers.erase .flagged⟩
    else none
  | .returns worker =>
    if .joining worker ∈ s.closers ∧ ∀ w ∈ s.system.workers, worker ≠ some w.id then
      some { s with closers := s.closers.erase (.joining worker) }
    else none
  | .dropped worker =>
    if .joining (some worker) ∈ s.closers then
      some { s with closers := s.closers.erase (.joining (some worker)) }
    else none

def machine (Value : Type) : Machine (Closing Value) (ClosingCall Value) where
  initial := initial
  step := step

/-- A shutdown comes for the handle of a running operation after another one has taken it. -/
def misses (s : Closing Value) : ClosingCall Value → Bool
  | .takeWorker => s.system.shared.worker.isNone && !s.system.workers.isEmpty
  | _ => false

end Closing

/-- The identifier of the operation that an event finishes. -/
def Event.finishedId : Event → Option Nat
  | finished id _ _ => some id
  | admitted .. => none

namespace System

variable {Value : Type}

def admittedIds (s : System Value) : List Nat := s.history.filterMap Event.admittedId

def finishedIds (s : System Value) : List Nat := s.history.filterMap Event.finishedId

/-- Every operation that was admitted is finished, but for the one that runs. -/
def Accounted (s : System Value) : Prop :=
  s.admittedIds = s.finishedIds ++ s.workers.map (·.id)

variable {s s' : System Value} {call : Call Value}

theorem admittedIds_append (events : List Event) (h : s'.history = s.history ++ events) :
    s'.admittedIds = s.admittedIds ++ events.filterMap Event.admittedId := by
  simp [admittedIds, h]

theorem finishedIds_append (events : List Event) (h : s'.history = s.history ++ events) :
    s'.finishedIds = s.finishedIds ++ events.filterMap Event.finishedId := by
  simp [finishedIds, h]

theorem Accounted.effect (ha : s.Accounted) (h : Serial s) (he : Effect s call s') :
    s'.Accounted := by
  unfold Accounted at ha ⊢
  cases he with
  | admits _ _ hworkers _ _ _ _ _ hworkers' hhistory =>
    rw [admittedIds_append _ hhistory, finishedIds_append _ hhistory, ha, hworkers, hworkers']
    simp [Event.admittedId, Event.finishedId]
  | finishes w _ hworkers _ _ hworkers' hhistory =>
    rw [admittedIds_append _ hhistory, finishedIds_append _ hhistory, ha, hworkers, hworkers']
    simp [Event.admittedId, Event.finishedId]
  | acknowledges _ _ hretained _ _ _ _ hworkers' hhistory =>
    have hworkers := h.serves.nil_of_not_running (by simp [hretained])
    rw [hworkers] at ha
    rw [admittedIds, finishedIds, hhistory, hworkers']
    exact ha
  | nothing _ _ _ hworkers' hhistory =>
    rw [admittedIds, finishedIds, hhistory, hworkers']
    exact ha

theorem accounted_of_reachable (h : (LocalExecutor.machine Value).Reachable s) : s.Accounted := by
  have hboth : Serial s ∧ s.Accounted := by
    apply h.invariant
    · exact ⟨Serial.initial, rfl⟩
    · rintro s call s' ⟨hserial, ha⟩ hs
      have he := hserial.effect hs
      exact ⟨he.serial hserial, ha.effect hserial he⟩
  exact hboth.2

/-- An identifier is finished once, or it is the one that runs. -/
theorem Accounted.once (ha : s.Accounted) (h : Serial s) {id : ℕ} (hid : id ∈ s.admittedIds) :
    s.finishedIds.count id = 1 ∧ (∀ w ∈ s.workers, w.id ≠ id) ∨
      s.finishedIds.count id = 0 ∧ ∃ w ∈ s.workers, w.id = id := by
  have hnodup : s.admittedIds.Nodup := h.increasing.imp Nat.ne_of_lt
  rw [ha, List.nodup_append] at hnodup
  obtain ⟨hfinished, -, hapart⟩ := hnodup
  rw [ha, List.mem_append] at hid
  obtain hid | hid := hid
  · left
    refine ⟨(hfinished.count).trans (if_pos hid), fun w hw heq => ?_⟩
    exact hapart id hid w.id (List.mem_map_of_mem hw) heq.symm
  · right
    obtain ⟨w, hw, rfl⟩ := List.mem_map.mp hid
    refine ⟨List.count_eq_zero.mpr fun hmem => ?_, w, hw, rfl⟩
    exact hapart w.id hmem w.id hid rfl

/-- What a call does to the handle of the task spawned last. -/
theorem step_worker (hs : s.step call = some s') (htake : call ≠ .takeWorker) :
    s'.shared.worker = s.shared.worker ∧ (∀ w ∈ s'.workers, w ∈ s.workers) ∨
      ∃ w, s'.shared.worker = some w.id ∧ s'.workers = s.workers ++ [w] := by
  have hspawn : ∀ recovery managed, s' = s.spawn recovery (s.shared.start recovery managed) →
      s'.shared.worker = s.shared.worker ∧ (∀ w ∈ s'.workers, w ∈ s.workers) ∨
        ∃ w, s'.shared.worker = some w.id ∧ s'.workers = s.workers ++ [w] := by
    rintro recovery managed rfl
    unfold Shared.start
    split
    · exact .inl ⟨rfl, fun _ h => h⟩
    · split
      · exact .inl ⟨rfl, fun _ h => h⟩
      · split
        · exact .inl ⟨rfl, fun _ h => h⟩
        · exact .inr ⟨_, rfl, rfl⟩
  cases call with
  | submit => exact hspawn false false (Option.some.inj hs).symm
  | submitManaged => exact hspawn false true (Option.some.inj hs).symm
  | reconcile => exact hspawn true true (Option.some.inj hs).symm
  | takeWorker => exact absurd rfl htake
  | dropPending id =>
    obtain rfl := Option.some.inj hs
    left
    simp only [Shared.dropPending]
    split
    · split <;> exact ⟨rfl, fun _ h => h⟩
    · exact ⟨rfl, fun _ h => h⟩
  | acknowledge id =>
    obtain rfl := Option.some.inj hs
    left
    simp only [Shared.acknowledge]
    split
    · exact ⟨rfl, fun _ h => h⟩
    · split
      · split <;> exact ⟨rfl, fun _ h => h⟩
      · exact ⟨rfl, fun _ h => h⟩
  | shutdown =>
    obtain rfl := Option.some.inj hs
    left
    simp only [Shared.shutdown]
    split <;> exact ⟨rfl, fun _ h => h⟩
  | finish w work =>
    obtain ⟨-, hs⟩ := Option.ite_none_right_eq_some.mp hs
    obtain rfl := Option.some.inj hs
    left
    have hshared : (s.shared.finish w.id w.recovery work.result).1.worker = s.shared.worker := by
      unfold Shared.finish
      split
      · rfl
      · split
        · split <;> rfl
        · rfl
    unfold complete
    split <;> next heq =>
      rw [heq] at hshared
      exact ⟨hshared, fun _ => List.mem_of_mem_erase⟩

theorem complete_history (h : Serial s) {w : Worker} (hw : w ∈ s.workers)
    (result : Completion Value) :
    (s.complete w result).history = s.history ++ [.finished w.id w.recovery result.outcome] := by
  obtain ⟨-, cancel, managed, hphase⟩ := h.serves.running_of_mem hw
  have hpoisoned : s.shared.poisoned = false := by
    rw [Bool.eq_false_iff]
    intro hp
    rw [h.poisoned hp] at hw
    cases hw
  simp [complete, Shared.finish, hpoisoned, hphase]

/-- With the flag set nothing is admitted, and the flag stays. -/
theorem step_flagged (hflag : s.shared.state.shutdown = true) (hs : s.step call = some s') :
    s'.shared.state.shutdown = true ∧ s'.admittedIds = s.admittedIds ∧
      ∀ w ∈ s'.workers, w ∈ s.workers := by
  have hspawn : ∀ recovery managed, s' = s.spawn recovery (s.shared.start recovery managed) →
      s'.shared.state.shutdown = true ∧ s'.admittedIds = s.admittedIds ∧
        ∀ w ∈ s'.workers, w ∈ s.workers := by
    rintro recovery managed rfl
    have hrefused : ∃ reply, s.shared.start recovery managed = (s.shared, reply) ∧
        ∀ id, reply ≠ .returned id := by
      unfold Shared.start
      split
      · exact ⟨_, rfl, nofun⟩
      · unfold State.admit
        rw [if_pos hflag]
        exact ⟨_, rfl, nofun⟩
    obtain ⟨reply, heq, hreply⟩ := hrefused
    rw [heq]
    cases reply with
    | returned id => exact absurd rfl (hreply id)
    | refused | panicked => exact ⟨hflag, rfl, fun _ h => h⟩
  cases call with
  | submit => exact hspawn false false (Option.some.inj hs).symm
  | submitManaged => exact hspawn false true (Option.some.inj hs).symm
  | reconcile => exact hspawn true true (Option.some.inj hs).symm
  | takeWorker =>
    obtain ⟨-, hs⟩ := Option.ite_none_right_eq_some.mp hs
    obtain rfl := Option.some.inj hs
    exact ⟨hflag, rfl, fun _ h => h⟩
  | dropPending id =>
    obtain rfl := Option.some.inj hs
    simp only [Shared.dropPending]
    split
    · split <;> exact ⟨hflag, rfl, fun _ h => h⟩
    · exact ⟨hflag, rfl, fun _ h => h⟩
  | acknowledge id =>
    obtain rfl := Option.some.inj hs
    simp only [Shared.acknowledge]
    split
    · exact ⟨hflag, rfl, fun _ h => h⟩
    · split
      · split <;> exact ⟨hflag, rfl, fun _ h => h⟩
      · exact ⟨hflag, rfl, fun _ h => h⟩
  | shutdown =>
    obtain rfl := Option.some.inj hs
    simp only [Shared.shutdown]
    split
    · exact ⟨hflag, rfl, fun _ h => h⟩
    · exact ⟨rfl, rfl, fun _ h => h⟩
  | finish w work =>
    obtain ⟨-, hs⟩ := Option.ite_none_right_eq_some.mp hs
    obtain rfl := Option.some.inj hs
    have hshared :
        (s.shared.finish w.id w.recovery work.result).1.state.shutdown = true := by
      unfold Shared.finish
      split
      · exact hflag
      · split
        · split <;> exact hflag
        · exact hflag
    unfold complete
    split <;> next heq =>
      rw [heq] at hshared
      exact ⟨hshared, by simp [admittedIds, Event.admittedId], fun _ => List.mem_of_mem_erase⟩

end System

namespace Closing

variable {Value : Type} {s s' : Closing Value}

theorem step_work {call : Call Value} (hs : s.step (.work call) = some s') :
    call ≠ .takeWorker ∧ ∃ system, s.system.step call = some system ∧ s' = { s with system } := by
  have hmap (h : (s.system.step call).map ({ s with system := · }) = some s') :
      ∃ system, s.system.step call = some system ∧ s' = { s with system } := by
    obtain ⟨system, hs, heq⟩ := Option.map_eq_some_iff.mp h
    exact ⟨system, hs, heq.symm⟩
  cases call with
  | shutdown | takeWorker => cases hs
  | submit | submitManaged | reconcile | dropPending | finish | acknowledge =>
    exact ⟨nofun, hmap hs⟩

/-- Every step of the host is a step of the executor, or leaves it alone. -/
theorem step_system {call : ClosingCall Value} (hs : s.step call = some s')
    (hflag : s.closers ≠ [] → s.system.shared.state.shutdown = true) :
    s'.system = s.system ∨ ∃ call, s.system.step call = some s'.system := by
  cases call with
  | work call =>
    right
    obtain ⟨-, system, hstep, rfl⟩ := step_work hs
    exact ⟨call, hstep⟩
  | shutdown =>
    right
    refine ⟨.shutdown, ?_⟩
    simp only [step] at hs
    split at hs
    · next heq =>
      obtain rfl := Option.some.inj hs
      simp [System.step, heq]
    · cases hs
  | takeWorker =>
    right
    obtain ⟨hmem, hs⟩ := Option.ite_none_right_eq_some.mp hs
    obtain rfl := Option.some.inj hs
    exact ⟨.takeWorker, if_pos (hflag (List.ne_nil_of_mem hmem))⟩
  | returns worker =>
    left
    obtain ⟨-, hs⟩ := Option.ite_none_right_eq_some.mp hs
    exact Option.some.inj hs ▸ rfl
  | dropped worker =>
    left
    obtain ⟨-, hs⟩ := Option.ite_none_right_eq_some.mp hs
    exact Option.some.inj hs ▸ rfl

/-- While no shutdown comes late for a handle, whoever waits waits for the running task. -/
structure Joined (s : Closing Value) : Prop where
  reachable : (LocalExecutor.machine Value).Reachable s.system
  flagged : s.closers ≠ [] → s.system.shared.state.shutdown = true
  latest : ∀ id, s.system.shared.worker = some id → ∀ w ∈ s.system.workers, w.id = id
  joining : ∀ worker, .joining worker ∈ s.closers → ∀ w ∈ s.system.workers, worker = some w.id

theorem Joined.initial : Joined (initial : Closing Value) where
  reachable := .initial
  flagged h := absurd rfl h
  latest _ h := nomatch h
  joining _ h := nomatch h

theorem Joined.work (h : Joined s) {call : Call Value} {system : System Value}
    (hs : s.system.step call = some system) (htake : call ≠ .takeWorker) :
    Joined { s with system } := by
  have hreach := h.reachable.step trivial hs
  constructor
  · exact hreach
  · intro hclosers
    exact (System.step_flagged (h.flagged hclosers) hs).1
  · intro id hid w hw
    obtain ⟨hworker, hkept⟩ | ⟨w', hworker, hspawned⟩ := System.step_worker hs htake
    · exact h.latest id (hworker ▸ hid) w (hkept w hw)
    · obtain ⟨hone, -⟩ := (serial_of_reachable hreach).serves.running_of_mem hw
      have hw' : w' ∈ system.workers := by simp [hspawned]
      rw [hone, List.mem_singleton] at hw'
      rw [hworker, Option.some.injEq] at hid
      rw [← hid, hw']
  · intro worker hmem w hw
    have hflag := h.flagged (List.ne_nil_of_mem hmem)
    exact h.joining worker hmem w ((System.step_flagged hflag hs).2.2 w hw)

/-- A caller that stops waiting leaves everything else as it is. -/
theorem Joined.leave (h : Joined s) (closer : Closer) :
    Joined { s with closers := s.closers.erase closer } where
  reachable := h.reachable
  flagged hne := h.flagged fun hnil => hne (by simp [hnil])
  latest := h.latest
  joining worker hmem := h.joining worker (List.mem_of_mem_erase hmem)

theorem Joined.step (h : Joined s) {call : ClosingCall Value} (hm : s.misses call = false)
    (hs : s.step call = some s') : Joined s' := by
  cases call with
  | work call =>
    obtain ⟨htake, system, hstep, rfl⟩ := step_work hs
    exact h.work hstep htake
  | shutdown =>
    simp only [Closing.step] at hs
    split at hs
    · next shared heq =>
      obtain rfl := Option.some.inj hs
      have hstep : s.system.step .shutdown = some { s.system with shared } := by
        simp [System.step, heq]
      have hnext := h.work hstep nofun
      have hset : shared.state.shutdown = true := by
        simp only [Shared.shutdown] at heq
        split at heq
        · cases heq
        · obtain ⟨rfl, -⟩ := Prod.mk.inj heq
          rfl
      refine ⟨hnext.reachable, fun _ => hset, hnext.latest, fun worker hmem => ?_⟩
      exact hnext.joining worker ((List.mem_cons.mp hmem).resolve_left nofun)
    · cases hs
  | takeWorker =>
    obtain ⟨hmem, hs⟩ := Option.ite_none_right_eq_some.mp hs
    obtain rfl := Option.some.inj hs
    have hflag := h.flagged (List.ne_nil_of_mem hmem)
    have hstep : (LocalExecutor.machine Value).step s.system .takeWorker =
        some { s.system with shared := s.system.shared.takeWorker.1 } := if_pos hflag
    have hreach := h.reachable.step trivial hstep
    refine ⟨hreach, fun _ => hflag, nofun, fun worker hjoin w hw => ?_⟩
    obtain hjoin | hjoin := List.mem_cons.mp hjoin
    · obtain rfl := Closer.joining.inj hjoin
      cases hworker : s.system.shared.worker with
      | some id => exact hworker.trans (congrArg some (h.latest id hworker w hw).symm)
      | none =>
        -- An empty slot with a task running is what `misses` rules out.
        have hnone : s.system.workers = [] := by simpa [misses, hworker] using hm
        rw [show s.system.workers = [] from hnone] at hw
        cases hw
    · exact h.joining worker (List.mem_of_mem_erase hjoin) w hw
  | returns worker =>
    obtain ⟨-, hs⟩ := Option.ite_none_right_eq_some.mp hs
    exact Option.some.inj hs ▸ h.leave _
  | dropped worker =>
    obtain ⟨-, hs⟩ := Option.ite_none_right_eq_some.mp hs
    exact Option.some.inj hs ▸ h.leave _

theorem joined_of_reaches (h : (machine Value).Reaches (fun s call => s.misses call = false) s) :
    Joined s := by
  induction h with
  | initial => exact Joined.initial
  | step _ hm hs ih => exact ih.step hm hs

/-- After the flag is set, whatever comes is refused and nothing is spawned. -/
theorem run_flagged {calls : List (ClosingCall Value)}
    (hflag : s.system.shared.state.shutdown = true) (hr : (machine Value).run s calls = some s') :
    s'.system.admittedIds = s.system.admittedIds ∧
      ∀ w ∈ s'.system.workers, w ∈ s.system.workers := by
  induction calls generalizing s with
  | nil =>
    obtain rfl := Option.some.inj hr
    exact ⟨rfl, fun _ h => h⟩
  | cons call calls ih =>
    obtain ⟨s₁, hs, hr⟩ := Option.bind_eq_some_iff.mp hr
    obtain heq | ⟨call, hs⟩ := step_system hs fun _ => hflag
    · rw [← heq] at hflag ⊢
      exact ih hflag hr
    · obtain ⟨hflag, hadmitted, hkept⟩ := System.step_flagged hflag hs
      obtain ⟨hadmitted', hkept'⟩ := ih hflag hr
      exact ⟨hadmitted'.trans hadmitted, fun w hw => hkept w (hkept' w hw)⟩

/-- The running task can finish, and its outcome is recorded when it does. -/
theorem Joined.finishes (h : Joined s) {w : Worker} (hw : w ∈ s.system.workers)
    (work : Work Value) : ∃ s', s.step (.work (.finish w work)) = some s' ∧
      s'.system.history =
        s.system.history ++ [.finished w.id w.recovery work.result.outcome] := by
  have hs : s.system.step (.finish w work) = some (s.system.complete w work.result) := if_pos hw
  refine ⟨_, congrArg (Option.map _) hs, ?_⟩
  exact System.complete_history (serial_of_reachable h.reachable) hw work.result

/-- A caller returns only when nothing runs. -/
theorem Joined.returned (h : Joined s) {worker : Option ℕ}
    (hs : s.step (.returns worker) = some s') :
    s.system.workers = [] ∧ s'.system = s.system ∧
      s.system.shared.state.shutdown = true := by
  obtain ⟨⟨hmem, hjoined⟩, hs⟩ := Option.ite_none_right_eq_some.mp hs
  refine ⟨List.eq_nil_iff_forall_not_mem.mpr fun w hw => ?_, Option.some.inj hs ▸ rfl,
    h.flagged (List.ne_nil_of_mem hmem)⟩
  exact hjoined w hw (h.joining worker hmem w hw)

/-- While no shutdown comes late for a handle, nothing runs when one returns and nothing is
admitted afterwards; what was admitted is finished once, or runs and is going to be. -/
theorem shutdown_final
    (h : (machine Value).Reaches (fun s call => s.misses call = false) s) :
    (∀ id ∈ s.system.admittedIds,
      s.system.finishedIds.count id = 1 ∧ (∀ w ∈ s.system.workers, w.id ≠ id) ∨
        s.system.finishedIds.count id = 0 ∧ ∃ w ∈ s.system.workers, w.id = id ∧
          ∀ work : Work Value, ∃ s', s.step (.work (.finish w work)) = some s' ∧
            s'.system.history =
              s.system.history ++ [.finished w.id w.recovery work.result.outcome]) ∧
    ∀ worker s', s.step (.returns worker) = some s' →
      s'.system.workers = [] ∧
      (∀ id cancel managed, s'.system.shared.state.phase ≠ .running id cancel managed) ∧
      (∀ id ∈ s'.system.admittedIds, s'.system.finishedIds.count id = 1) ∧
      ∀ calls s'', (machine Value).run s' calls = some s'' →
        s''.system.workers = [] ∧ s''.system.admittedIds = s'.system.admittedIds := by
  have hj := joined_of_reaches h
  have hserial := serial_of_reachable hj.reachable
  have honce := fun (id : ℕ) (hid : id ∈ s.system.admittedIds) =>
    (System.accounted_of_reachable hj.reachable).once hserial hid
  constructor
  · intro id hid
    obtain hfinished | ⟨hzero, w, hw, hwid⟩ := honce id hid
    · exact .inl hfinished
    · exact .inr ⟨hzero, w, hw, hwid, hj.finishes hw⟩
  · intro worker s' hs
    obtain ⟨hnone, heq, hflag⟩ := hj.returned hs
    rw [heq]
    refine ⟨hnone, fun id cancel managed hphase => ?_, fun id hid => ?_, fun calls s'' hr => ?_⟩
    · have hserves := hserial.serves
      rw [hphase, hnone] at hserves
      cases hserves
    · obtain ⟨hone, -⟩ | ⟨-, w, hw, -⟩ := honce id hid
      · exact hone
      · simp [hnone] at hw
    · obtain ⟨hadmitted, hkept⟩ := run_flagged (heq ▸ hflag) hr
      rw [heq] at hadmitted hkept
      refine ⟨List.eq_nil_iff_forall_not_mem.mpr fun w hw => ?_, hadmitted⟩
      simpa [hnone] using hkept w hw

/-- A reconciliation, and a shutdown that waits for it. -/
def joinedRun : List (ClosingCall Unit) :=
  [.work .reconcile, .shutdown, .takeWorker,
    .work (.finish ⟨1, true⟩ (.returned (.new .completed "startup_reconciled")))]

theorem shutdown_final_joined :
    ∃ s, (machine Unit).run .initial joinedRun = some s ∧
      ∃ s', s.step (.returns (some 1)) = some s' ∧ s'.system.workers = [] ∧
        s'.system.finishedIds.count 1 = 1 := by
  have hadmits : (machine Unit).Admits (fun s call => s.misses call = false) .initial joinedRun := by
    decide
  obtain ⟨-, hreturned⟩ := shutdown_final (Machine.Reaches.run .initial hadmits rfl)
  obtain ⟨hnone, -, honce, -⟩ := hreturned (some 1) _ rfl
  exact ⟨_, rfl, _, rfl, hnone, honce 1 (by decide)⟩

/-- A second shutdown finds no handle and returns while the operation runs. -/
theorem second_shutdown_returns_early :
    ∃ s s', (machine Unit).run .initial
        [.work .reconcile, .shutdown, .takeWorker, .shutdown, .takeWorker] = some s ∧
      s.step (.returns none) = some s' ∧
      s'.system.workers = [⟨1, true⟩] ∧ s'.system.shared.state.phase = .running 1 true true ∧
      s'.system.finishedIds = [] :=
  ⟨_, _, rfl, rfl, rfl, rfl, rfl⟩

/-- A shutdown dropped while it waits takes the handle with it. -/
theorem dropped_shutdown_returns_early :
    ∃ s s', (machine Unit).run .initial
        [.work .reconcile, .shutdown, .takeWorker, .dropped 1, .shutdown, .takeWorker] = some s ∧
      s.step (.returns none) = some s' ∧ s'.system.workers = [⟨1, true⟩] :=
  ⟨_, _, rfl, rfl, rfl⟩

end Closing

end LocalExecutor

end PocketStream
