import Mathlib.Algebra.Group.Nat.Defs
import Mathlib.Data.List.Basic

/-! # The native executor

One admitted operation and one retained completion; no admission queue. A mutex
guards the state, so each call is one step, and a call that panics while it holds
the mutex poisons it for every later one.
-/

namespace PocketStream

namespace LocalExecutor

inductive Outcome | completed | failed | canceled | uncertain
deriving DecidableEq, Repr

/-- A completion keeps the structured facts its operation observed. -/
structure Completion (Value : Type) where
  outcome : Outcome
  step : String
  observation : Option Value
deriving DecidableEq, Repr

inductive AdmissionError | busy | reconciliationRequired | shuttingDown
deriving DecidableEq, Repr

inductive Phase (Value : Type) where
  | recoveryRequired
  | idle
  | running (id : Nat) (cancel managed : Bool)
  | retained (id : Nat) (result : Completion Value)
deriving DecidableEq, Repr

/-- Requests the cancellation of what is running. -/
def Phase.requestCancel {Value : Type} : Phase Value → Phase Value
  | running id _ managed => running id true managed
  | phase => phase

structure State (Value : Type) where
  phase : Phase Value
  nextId : Nat
  shutdown : Bool
deriving DecidableEq, Repr

/-- The state, whether its mutex is poisoned, and the operation whose task was spawned last. -/
structure Shared (Value : Type) where
  state : State Value
  poisoned : Bool
  worker : Option Nat
deriving DecidableEq, Repr

/-- How a call ends. -/
inductive Reply (α : Type) where
  | returned (a : α)
  | refused (error : AdmissionError)
  | panicked
deriving DecidableEq, Repr

variable {Value : Type}

def Completion.new (outcome : Outcome) (step : String) : Completion Value := ⟨outcome, step, none⟩

def forSerializedWriters : Shared Value where
  state := ⟨.recoveryRequired, 0, false⟩
  poisoned := false
  worker := none

/-- Addition on the 64-bit operation counter. -/
def checkedAdd (n m : Nat) : Option Nat := if n + m < 2 ^ 64 then some (n + m) else none

def State.admit (s : State Value) (recovery : Bool) : Except AdmissionError Unit :=
  if s.shutdown then .error .shuttingDown else
  match s.phase, recovery with
  | .running .., _ => .error .busy
  | .idle, _ => .ok ()
  | _, true => .ok ()
  | _, false => .error .reconciliationRequired

namespace Shared

def start (e : Shared Value) (recovery managed : Bool) : Shared Value × Reply Nat :=
  if e.poisoned then (e, .panicked) else
  match e.state.admit recovery with
  | .error error => (e, .refused error)
  | .ok () =>
    match checkedAdd e.state.nextId 1 with
    | none => ({ e with poisoned := true }, .panicked)
    | some id =>
      ({ e with
        state := { e.state with nextId := id, phase := .running id false managed }
        worker := some id }, .returned id)

def submit (e : Shared Value) : Shared Value × Reply Nat := e.start false false

def submitManaged (e : Shared Value) : Shared Value × Reply Nat := e.start false true

def reconcile (e : Shared Value) : Shared Value × Reply Nat := e.start true true

def finish (e : Shared Value) (id : Nat) (recovery : Bool) (result : Completion Value) :
    Shared Value × Reply Unit :=
  if e.poisoned then (e, .panicked) else
  match e.state.phase with
  | .running running _ _ =>
    if running = id then
      let phase := if recovery && result.outcome = .completed then .idle else .retained id result
      ({ e with state := { e.state with phase } }, .returned ())
    else ({ e with poisoned := true }, .panicked)
  | _ => ({ e with poisoned := true }, .panicked)

def retained (e : Shared Value) : Reply (Option (Nat × Completion Value)) :=
  if e.poisoned then .panicked else
  match e.state.phase with
  | .retained id result => .returned (some (id, result))
  | _ => .returned none

def available (e : Shared Value) : Reply Unit :=
  if e.poisoned then .panicked else
  if e.state.shutdown then .refused .shuttingDown else
  match e.state.phase with
  | .idle => .returned ()
  | .running .. => .refused .busy
  | _ => .refused .reconciliationRequired

def acknowledge (e : Shared Value) (id : Nat) : Shared Value × Reply Unit :=
  if e.poisoned then (e, .panicked) else
  match e.state.phase with
  | .retained current result =>
    if current = id ∧ result.outcome ≠ .uncertain then
      ({ e with state := { e.state with phase := .idle } }, .returned ())
    else (e, .refused .reconciliationRequired)
  | _ => (e, .refused .reconciliationRequired)

/-- Dropping the ticket of an operation requests its cancellation. -/
def dropPending (e : Shared Value) (id : Nat) : Shared Value :=
  match e.state.phase with
  | .running running _ _ =>
    if running = id then
      { e with state := { e.state with phase := e.state.phase.requestCancel } }
    else e
  | _ => e

/-- The part of a shutdown that holds the mutex. -/
def shutdown (e : Shared Value) : Shared Value × Reply Unit :=
  if e.poisoned then (e, .panicked) else
  let phase := e.state.phase.requestCancel
  ({ e with state := { e.state with phase, shutdown := true } }, .returned ())

/-- The task a shutdown waits for. -/
def takeWorker (e : Shared Value) : Shared Value × Option Nat := ({ e with worker := none }, e.worker)

end Shared

/-- How the work of an operation ends. -/
inductive Work (Value : Type) where
  | returned (result : Completion Value)
  | panicked

def Work.result : Work Value → Completion Value
  | returned result => result
  | panicked => .new .uncertain "worker_panicked"

/-- A spawned task, with what it captured. -/
structure Worker where
  id : Nat
  recovery : Bool
deriving DecidableEq, Repr

inductive Event where
  | admitted (id : Nat) (recovery : Bool)
  | finished (id : Nat) (recovery : Bool) (outcome : Outcome)
deriving DecidableEq, Repr

/-- The executor with the tasks it has spawned and what has happened so far. -/
structure System (Value : Type) where
  shared : Shared Value
  workers : List Worker
  history : List Event
deriving DecidableEq, Repr

inductive Call (Value : Type) where
  | submit
  | submitManaged
  | reconcile
  | dropPending (id : Nat)
  | finish (worker : Worker) (work : Work Value)
  | acknowledge (id : Nat)
  | shutdown
  | takeWorker

namespace System

def initial : System Value := ⟨forSerializedWriters, [], []⟩

/-- An admitted operation has its task spawned. -/
def spawn (s : System Value) (recovery : Bool) : Shared Value × Reply Nat → System Value
  | (shared, .returned id) =>
    { shared, workers := s.workers ++ [⟨id, recovery⟩], history := s.history ++ [.admitted id recovery] }
  | (shared, _) => { s with shared }

/-- A task ends with its operation, or with the panic that keeps it from finishing. -/
def complete (s : System Value) (w : Worker) (result : Completion Value) : System Value :=
  match s.shared.finish w.id w.recovery result with
  | (shared, .returned ()) =>
    { shared, workers := s.workers.erase w,
      history := s.history ++ [.finished w.id w.recovery result.outcome] }
  | (shared, _) => { s with shared, workers := s.workers.erase w }

def step (s : System Value) : Call Value → Option (System Value)
  | .submit => some (s.spawn false s.shared.submit)
  | .submitManaged => some (s.spawn false s.shared.submitManaged)
  | .reconcile => some (s.spawn true s.shared.reconcile)
  | .dropPending id => some { s with shared := s.shared.dropPending id }
  | .finish w work => if w ∈ s.workers then some (s.complete w work.result) else none
  | .acknowledge id => some { s with shared := (s.shared.acknowledge id).1 }
  | .shutdown => some { s with shared := s.shared.shutdown.1 }
  | .takeWorker =>
    if s.shared.state.shutdown then some { s with shared := s.shared.takeWorker.1 } else none

end System

end LocalExecutor

end PocketStream
