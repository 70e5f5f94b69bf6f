import PocketStream.Streaming.RelaySupervisor

/-! # The history of the relay

What has happened, beside the shared state: how many intents were claimed and
by whom, which operation has the newest one and how far it has come, which stops
are published and not carried out, and what the supervisor is at. The history
follows the operations and decides nothing.
-/

namespace PocketStream

open Foundation

/-- How far the newest intent has come: claimed, published as a start that is not through, or
settled. -/
inductive Phase where
  | settled
  | claimed (t : ℕ)
  | published (t : ℕ)
  deriving DecidableEq

/-- The history; `claimOf` numbers the newest intent of each operation, `builtFor` is what the
last listener was built for, `storedBy` the number of the intent it was stored under, and
`stops` the targets of the published stops that have not taken their listener yet. -/
structure RelayTrack where
  claims : ℕ
  claimOf : ℕ → Option ℕ
  installer : ℕ → Option ℕ
  builtFor : Option (UInt64 × UInt64)
  storedBy : ℕ
  phase : Phase
  stops : ℕ → Option (Option UInt64)
  supervisor : Option ℕ
  handling : Option RelaySupervisorEvent
  recovering : Option (UInt64 × UInt64)

namespace RelayTrack

def new : RelayTrack where
  claims := 0
  claimOf _ := none
  installer _ := none
  builtFor := none
  storedBy := 0
  phase := .settled
  stops _ := none
  supervisor := none
  handling := none
  recovering := none

variable (h : RelayTrack) (t : ℕ)

def claim : RelayTrack :=
  { h with
    claims := h.claims + 1
    claimOf := Function.update h.claimOf t (some (h.claims + 1))
    phase := .claimed t }

/-- The start of `t` is through. -/
def settle : RelayTrack := { h with phase := if h.phase = .published t then .settled else h.phase }

/-- The supervisor takes a recovery up under the newest intent. -/
def accept (recovery : Option (UInt64 × UInt64)) : RelayTrack :=
  { h with
    handling := none
    recovering := recovery
    claimOf :=
      if recovery.isSome then Function.update h.claimOf t (some h.claims) else h.claimOf }

/-- What an effect of thread `t` adds to the history, from its reply. -/
def after (s : RelayShared) : (e : RelayEffect) → e.Reply → RelayTrack
  | .claimEpoch, _ => h.claim t
  | .claimEpochIf _, epoch => if epoch.isSome then h.claim t else h
  | .publishStart _, preserve => if preserve.isSome then { h with phase := .published t } else h
  | .publishStop _, intent =>
    match intent with
    | some intent =>
      { h with phase := .settled, stops := Function.update h.stops t (some intent.targetGeneration) }
    | none => h
  | .cancelStart epoch _, _ =>
    if s.epoch = epoch ∧ s.data.restreamIntentEpoch = some epoch then h.settle t else h
  | .installStart _ _ _, decision =>
    match decision with
    | .installed _ health => { h with installer := Function.update h.installer health (some t) }
    | .noop _ => h.settle t
    | _ => h
  | .takeTarget _, _ | .abandonStop _, _ => { h with stops := Function.update h.stops t none }
  | .recheck _ _ _ _ _ _, check => if check = .failed then h.settle t else h
  | .refuseMoved _ _ _, moved => if moved then h.settle t else h
  | .markIfEpoch _ _ _ _, marked => if marked then h.settle t else h
  | .markResolutionFailed _ _ _, _ | .markBuildFailed _ _ _ _ _, _ | .abandonStart _, _ =>
    h.settle t
  | .confirmBuild epoch generation _ _ _, build =>
    match build with
    | .built _ => { h with builtFor := some (epoch, generation) }
    | _ => h
  | .storeListener _ _ _ _ _, stored =>
    if stored then
      { h.settle t with
        storedBy := h.claims
        recovering := if h.supervisor = some t then none else h.recovering }
    else h
  | .takeEvents, taken => if taken then { h with supervisor := some t } else h
  | .nextEvent, event => { h with handling := event }
  | .admitFault fault, admitted =>
    h.accept t (admitted.map fun (epoch, _) => (epoch, fault.serverGeneration))
  | .admitRetry generation, admitted => h.accept t (admitted.map fun (epoch, _) => (epoch, generation))
  | .permanentFailure, permanent => if permanent then { h with recovering := none } else h
  | .recoveryEnded _ _, _ => { h with recovering := none }
  | _, _ => h

end RelayTrack

/-- The shared state with its history. -/
structure TrackedRelay where
  shared : RelayShared
  track : RelayTrack

namespace TrackedRelay

def new (selectedProtocol : RestreamProtocol) (store : Store) : TrackedRelay :=
  ⟨.new selectedProtocol store, .new⟩

def answer (t : ℕ) (s : TrackedRelay) (e : RelayEffect) (o : RelayOutcome) :
    Option (e.Reply × TrackedRelay) :=
  (s.shared.answer t e o).map fun (reply, shared) =>
    (reply, ⟨shared, s.track.after t s.shared e reply⟩)

end TrackedRelay

/-- The relay operations with their history. -/
def trackedCalls : Shared RelayEffect RelayEffect.Reply TrackedRelay RelayOutcome RelayDisturbance
    RelayCall where
  answer := TrackedRelay.answer
  disturb s i := { s with shared := s.shared.disturb i }
  abandon _ _ := none
  start := RelayCall.program

abbrev RelayThreads := Threads RelayEffect RelayEffect.Reply RelayCall

/-- The history decides nothing: without it a run is a run of the relay operations. -/
theorem trackedCalls_erases : trackedCalls.Erases relayCalls TrackedRelay.shared where
  answer t s e o := by
    simp only [trackedCalls, TrackedRelay.answer, relayCalls, Option.map_map]
    exact Option.map_id'.symm
  disturb _ _ := rfl
  abandon _ _ := rfl
  start := rfl

end PocketStream
