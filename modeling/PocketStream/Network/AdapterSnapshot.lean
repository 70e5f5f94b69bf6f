import Mathlib.Algebra.Group.Nat.Defs
import PocketStream.Foundation.Machine

/-! # The adapter snapshot

Callers share one enumeration of the adapters under a mutex and keep its result for a
while. An invalidation advances the generation and clears what is kept, and a result
is kept only when the generation is still that read before its query. Qualifications
are published under the mutex of the topology. The advances of the generation are
counted as they come.
-/

namespace PocketStream

open Foundation

namespace AdapterSnapshot

variable {α β ε : Type}

/-- `SNAPSHOT_TTL` in milliseconds. -/
def snapshotTtl : ℕ := 5000

/-- `ADAPTER_QUERY_DEADLINE` in milliseconds. -/
def adapterQueryDeadline : ℕ := 10000

structure CachedAdapters (α : Type) where
  storedAt : ℕ
  generation : UInt64
  adapters : α
  /-- How many advances there were when the generation was read. -/
  loaded : ℕ
  /-- How many when the query began. -/
  begun : ℕ

inductive Answer (α ε : Type) where
  /-- Of a query begun after so many advances. -/
  | adapters (a : α) (begun : ℕ)
  | failed (e : ε) (begun : ℕ)
  /-- `"Adapters changed during enumeration; retry"`, the generation read after so many advances
  and found after so many. -/
  | changed (loaded found : ℕ)
  /-- `adapter_timeout` -/
  | timeout

/-- Where a `get` is. -/
inductive Phase (α ε : Type) where
  | called
  /-- For `refresh`. -/
  | waiting
  | locked
  | missed
  | loaded (generation : UInt64) (loaded : ℕ)
  | querying (generation : UInt64) (loaded begun : ℕ)
  | queried (generation : UInt64) (loaded begun : ℕ) (adapters : α)
  | answered (answer : Answer α ε)

structure Get (α ε : Type) where
  /-- How many advances there were when it was called. -/
  advances : ℕ
  calledAt : ℕ
  phase : Phase α ε

/-- What `invalidate` does next. -/
inductive RetireStage where
  | advance
  | clearValue
  | clearQualified
  | done
  deriving DecidableEq

def RetireStage.next : RetireStage → RetireStage
  | .advance => .clearValue
  | .clearValue => .clearQualified
  | .clearQualified | .done => .done

/-- A qualification before `publish_qualification`. -/
inductive Qualifying where
  | loaded (generation : UInt64) (loaded : ℕ)
  | begun (generation : UInt64) (loaded begun : ℕ)
  | handed

/-- Who holds the mutex of the topology. -/
inductive Holder (β : Type) where
  | observer (stage : RetireStage)
  | publisher (generation : UInt64) (loaded begun : ℕ) (qualified : β) (checked : Bool)

end AdapterSnapshot

open AdapterSnapshot

/-- The snapshot, the calls on it and the clock. -/
structure AdapterSnapshot (α β ε : Type) where
  value : Option (CachedAdapters α)
  refresh : Option ℕ
  generation : UInt64
  /-- With how many advances there were when its query began. -/
  qualified : Option (β × ℕ)
  topology : Option (Holder β)
  now : ℕ
  advances : ℕ
  /-- How many invalidations have completed. -/
  completed : ℕ
  gets : List (Get α ε)
  /-- The invalidations outside the mutex of the topology. -/
  bare : List RetireStage
  qualifying : List Qualifying

namespace AdapterSnapshot

variable {α β ε : Type} (s : AdapterSnapshot α β ε)

def initial : AdapterSnapshot α β ε where
  value := none
  refresh := none
  generation := 0
  qualified := none
  topology := none
  now := 0
  advances := 0
  completed := 0
  gets := []
  bare := []
  qualifying := []

inductive Call (α β ε : Type) where
  | tick
  | get
  /-- `cached`, before and after `refresh` is locked. -/
  | look (i : ℕ)
  | lock (i : ℕ)
  | load (i : ℕ)
  | beginQuery (i : ℕ)
  | complete (i : ℕ) (result : Except ε α)
  /-- What follows the query, under the mutex of the value. -/
  | store (i : ℕ)
  | expire (i : ℕ)
  /-- `invalidate` by itself. -/
  | invalidate
  | retire (i : ℕ)
  /-- `observe_topology` -/
  | observe
  | retireObserved
  | observed
  /-- The generation is read before the query of a qualification. -/
  | capture
  | beginQualifying (i : ℕ)
  /-- `publish_qualification` locks the topology. -/
  | publish (i : ℕ) (qualified : β)
  | compare
  | storeQualified

def cached : Option (CachedAdapters α) :=
  s.value.filter fun v => v.generation == s.generation && decide (s.now - v.storedAt < snapshotTtl)

def setPhase (i : ℕ) (g : Get α ε) (phase : Phase α ε) : AdapterSnapshot α β ε :=
  { s with gets := s.gets.set i { g with phase := phase } }

/-- The call returns, and a guard of `refresh` is dropped. -/
def answer (i : ℕ) (g : Get α ε) (answer : Answer α ε) : AdapterSnapshot α β ε :=
  { s.setPhase i g (.answered answer) with
    refresh := if s.refresh = some i then none else s.refresh }

/-- One step of `invalidate`. -/
def retire : RetireStage → AdapterSnapshot α β ε
  | .advance => { s with generation := s.generation + 1, advances := s.advances + 1 }
  | .clearValue => { s with value := none }
  | .clearQualified => { s with qualified := none, completed := s.completed + 1 }
  | .done => s

/-- A step of a `get`. -/
def stepGet (i : ℕ) (g : Get α ε) : Call α β ε → Option (AdapterSnapshot α β ε)
  | .look _ =>
    match g.phase with
    | .called =>
      match s.cached with
      | some v => some (s.answer i g (.adapters v.adapters v.begun))
      | none => some (s.setPhase i g .waiting)
    | .locked =>
      match s.cached with
      | some v => some (s.answer i g (.adapters v.adapters v.begun))
      | none => some (s.setPhase i g .missed)
    | _ => none
  | .lock _ =>
    match g.phase, s.refresh with
    | .waiting, none => some { s.setPhase i g .locked with refresh := some i }
    | _, _ => none
  | .load _ =>
    match g.phase with
    | .missed => some (s.setPhase i g (.loaded s.generation s.advances))
    | _ => none
  | .beginQuery _ =>
    match g.phase with
    | .loaded generation loaded => some (s.setPhase i g (.querying generation loaded s.advances))
    | _ => none
  | .complete _ result =>
    match g.phase with
    | .querying generation loaded begun =>
      match result with
      | .ok adapters => some (s.setPhase i g (.queried generation loaded begun adapters))
      | .error e => some (s.answer i g (.failed e begun))
    | _ => none
  | .store _ =>
    match g.phase with
    | .queried generation loaded begun adapters =>
      if generation = s.generation then
        some { s.answer i g (.adapters adapters begun) with
          value := some ⟨s.now, generation, adapters, loaded, begun⟩ }
      else some (s.answer i g (.changed loaded s.advances))
    | _ => none
  | .expire _ =>
    match g.phase with
    | .waiting | .querying _ _ _ =>
      if g.calledAt + adapterQueryDeadline ≤ s.now then some (s.answer i g .timeout) else none
    | _ => none
  | _ => none

/-- The `get` that makes the step. -/
def Call.caller : Call α β ε → Option ℕ
  | .look i | .lock i | .load i | .beginQuery i | .complete i _ | .store i | .expire i => some i
  | _ => none

/-- It waits neither for a query nor for another caller. -/
def Call.unaided : Call α β ε → Bool
  | .look _ | .load _ | .beginQuery _ | .store _ | .expire _ => true
  | _ => false

def step (s : AdapterSnapshot α β ε) (call : Call α β ε) : Option (AdapterSnapshot α β ε) :=
  match call with
  | .tick => some { s with now := s.now + 1 }
  | .get => some { s with gets := s.gets ++ [⟨s.advances, s.now, .called⟩] }
  | .look i | .lock i | .load i | .beginQuery i | .complete i _ | .store i | .expire i =>
    s.gets[i]?.bind fun g => s.stepGet i g call
  | .invalidate => some { s with bare := s.bare ++ [.advance] }
  | .retire i => s.bare[i]?.map fun stage => { s.retire stage with bare := s.bare.set i stage.next }
  | .observe =>
    if s.topology.isNone then some { s with topology := some (.observer .advance) } else none
  | .retireObserved =>
    match s.topology with
    | some (.observer stage) => some { s.retire stage with topology := some (.observer stage.next) }
    | _ => none
  | .observed =>
    match s.topology with
    | some (.observer .advance) | some (.observer .done) => some { s with topology := none }
    | _ => none
  | .capture => some { s with qualifying := s.qualifying ++ [.loaded s.generation s.advances] }
  | .beginQualifying i =>
    match s.qualifying[i]? with
    | some (.loaded generation loaded) =>
      some { s with qualifying := s.qualifying.set i (.begun generation loaded s.advances) }
    | _ => none
  | .publish i qualified =>
    match s.qualifying[i]?, s.topology with
    | some (.begun generation loaded begun), none =>
      some { s with
        topology := some (.publisher generation loaded begun qualified false)
        qualifying := s.qualifying.set i .handed }
    | _, _ => none
  | .compare =>
    match s.topology with
    | some (.publisher generation loaded begun qualified false) =>
      if generation = s.generation then
        some { s with topology := some (.publisher generation loaded begun qualified true) }
      else some { s with topology := none }
    | _ => none
  | .storeQualified =>
    match s.topology with
    | some (.publisher _ _ begun qualified true) =>
      some { s with qualified := some (qualified, begun), topology := none }
    | _ => none

def machine : Machine (AdapterSnapshot α β ε) (Call α β ε) where
  initial := initial
  step := step

/-- The generation does not come round. -/
def Bounded (s : AdapterSnapshot α β ε) : Call α β ε → Prop
  | .retire _ | .retireObserved => s.advances + 1 < 2 ^ 64
  | _ => True

/-- And invalidations hold the mutex of the topology, as those of the program do. -/
def Serialized (s : AdapterSnapshot α β ε) : Call α β ε → Prop
  | .invalidate => False
  | call => Bounded s call

instance (call : Call α β ε) : Decidable (Bounded s call) := by
  cases call <;> unfold Bounded <;> infer_instance

instance (call : Call α β ε) : Decidable (Serialized s call) := by
  cases call <;> unfold Serialized <;> infer_instance

end AdapterSnapshot

end PocketStream
