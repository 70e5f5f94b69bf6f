import PocketStream.Foundation.Threads
import PocketStream.Streaming.RelayService

/-! # The relay supervisor

One task takes the events of the listeners and recovers the generation that
failed: it retires the listener, then builds again with growing delays until the
generation is no longer the current one. Each attempt goes on as the next call.
-/

namespace PocketStream

open Foundation

/-- How an attempt goes on. -/
inductive Attempt | again | ended

inductive RelayCall where
  | start
  | stop
  | apply (update : RestreamSettingsUpdate)
  | switch (protocol : RestreamProtocol)
  | supervise
  | listen
  | recover (epoch generation : UInt64)
  | attempt (epoch generation : UInt64)

/-- The calls that the application makes; the others are how a supervisor goes on. -/
def RelayCall.isCommand : RelayCall → Bool
  | start | stop | apply _ | switch _ | supervise => true
  | listen | recover _ _ | attempt _ _ => false

def listenForEvents : RelayProgram (Option RelayCall) := do
  match ← relayStep .nextEvent with
  | none => return some .listen
  | some (.fault fault) =>
    match ← relayStep (.admitFault fault) with
    | none => return some .listen
    | some (epoch, _) => return some (.recover epoch fault.serverGeneration)
  | some (.retryRequested generation) =>
    match ← relayStep (.admitRetry generation) with
    | none => return some .listen
    | some (epoch, _) => return some (.recover epoch generation)

def endRecovery (epoch generation : UInt64) : RelayProgram (Option RelayCall) := do
  relayStep (.recoveryEnded epoch generation)
  return some .listen

/-- The failed listener is retired before any delay. -/
def retireFailed (epoch generation : UInt64) : RelayProgram Bool := do
  if !(← relayIsCurrent epoch generation) then return false
  else
    let failed ← relayStep (.takeGeneration generation)
    shutdownServer failed
    let _ ← retireFirewall generation
    return true

def recoverRelayGeneration (epoch generation : UInt64) : RelayProgram (Option RelayCall) := do
  if !(← withLifecycle (retireFailed epoch generation)) then endRecovery epoch generation
  else if ← relayStep (.contextFailed generation) then
    if ← relayStep .permanentFailure then endRecovery epoch generation
    else return some (.attempt epoch generation)
  else return some (.attempt epoch generation)

/-- What a resolution for an attempt comes to. -/
inductive Resolution where
  | superseded
  | unresolved
  | ready (spec : ResolvedStartSpec)

def rebind (spec : ResolvedStartSpec) (r : ResolvedInterface) : ResolvedStartSpec :=
  { spec with
    bindAddress := some r.address
    advertisedIp := r.address
    bindInterface := some r.aliasName
    bindIdentity := some r.identity
    bindScope := r.scope }

def resolveExplicitBind (epoch generation : UInt64) (health : ℕ) (spec : ResolvedStartSpec) :
    RelayProgram Resolution := do
  match spec.bindInterface with
  | none => return .ready spec
  | some interfaceName =>
    if !(← relayIsCurrent epoch generation) then return .superseded
    else
      match ← relayStep (.resolveInterface interfaceName (spec.bindIdentity.map (·.guid))) with
      | .ok r => return .ready (rebind spec r)
      | .error error =>
        relayStep (.markUnresolved health
          s!"Re-stream bind interface '{interfaceName}' is unavailable: {error.toText}")
        return .unresolved

def resolveAttempt (epoch generation : UInt64) (health : ℕ) (base : ResolvedStartSpec) :
    RelayProgram Resolution := do
  match base.bindInterface with
  | none =>
    match ← relayStep .resolveExposure with
    | .ok bindScope => return .ready { base with bindScope }
    | .error error => return .ready { base with bindScope := .unknown error.toText }
  | some _ =>
    if base.bindIdentity.isSome then resolveExplicitBind epoch generation health base
    else if ← relayStep (.shouldReresolve health) then
      resolveExplicitBind epoch generation health base
    else return .ready base

/-- The build of an attempt, under its last check of currency and topology. -/
def rebuildListener (epoch generation : UInt64) (health : ℕ) (spec : ResolvedStartSpec) :
    RelayProgram Attempt := do
  match ← ifEpoch epoch .stale (relayStep (.confirmBuild epoch generation spec health true)) with
  | .stale =>
    let _ ← retireFirewall generation
    return .again
  | .failed serverInstance failure =>
    let _ ← retireFirewall generation
    relayStep (.markBuildFailed health serverInstance failure.error.toText
      (failure.kind == .bind) none)
    return .again
  | .built listener =>
    if ← relayStep (.storeListener epoch generation spec.bindScope listener (some spec)) then
      return .ended
    else
      relayStep (.shutdown listener)
      let _ ← retireFirewall generation
      if ← relayStep (.markIfEpoch epoch health
          "Bind topology changed during listener construction" none) then return .again
      else return .ended

/-- One attempt under the lifecycle gate. -/
def rebuild (epoch generation : UInt64) (health : ℕ) (spec : ResolvedStartSpec) :
    RelayProgram Attempt := do
  if !(← relayIsCurrent epoch generation) then return .ended
  else
    let prior ← relayStep (.takeGeneration generation)
    shutdownServer prior
    let gstError ← relayStep (.preflightRestream spec)
    let reason := match gstError with
      | .error error => some error.toText
      | .ok () => none
    match ← ifEpoch epoch .superseded
        (relayStep (.recheck epoch generation health reason true none)) with
    | .superseded => return .ended
    | .failed => return .again
    | .current =>
      match ← relayStep (.preflightTarget (← relayStep .readTarget)) with
      | .error error =>
        relayStep (.markResolutionFailed health error.toText none)
        return .again
      | .ok _ =>
        if !(← relayIsCurrent epoch generation) then return .ended
        else if !(← relayStep (.scopeIsCurrent spec.bindScope)) then return .again
        else
          let _ ← applyFirewall spec generation
          rebuildListener epoch generation health spec

/-- The wait before an attempt, with its two checks. -/
def waitRelayBackoff (epoch generation : UInt64) (health : ℕ) : RelayProgram Bool := do
  if !(← relayIsCurrent epoch generation) then return false
  else ifEpoch epoch false (relayStep (.resumeRecovery epoch generation health))

def attemptRecovery (epoch generation : UInt64) : RelayProgram (Option RelayCall) := do
  match ← relayStep (.scheduleAttempt epoch generation) with
  | none => endRecovery epoch generation
  | some health =>
    if !(← waitRelayBackoff epoch generation health) then endRecovery epoch generation
    else
      match ← relayStep .readSpec with
      | none => endRecovery epoch generation
      | some base =>
        match ← resolveAttempt epoch generation health base with
        | .superseded => endRecovery epoch generation
        | .unresolved => return some (.attempt epoch generation)
        | .ready spec =>
          match ← withLifecycle (rebuild epoch generation health spec) with
          | .again => return some (.attempt epoch generation)
          | .ended => endRecovery epoch generation

def RelayCall.program : RelayCall → RelayProgram (Option RelayCall)
  | start => do
    let _ ← startRestreamServer
    return none
  | stop => do
    stopRestreamServer
    return none
  | apply update => do
    let _ ← applyRestreamSettings update
    return none
  | switch protocol => do
    let _ ← switchRestreamProtocol protocol
    return none
  | supervise => do
    if ← relayStep .takeEvents then return some .listen else return none
  | listen => listenForEvents
  | recover epoch generation => recoverRelayGeneration epoch generation
  | attempt epoch generation => attemptRecovery epoch generation

/-- The relay operations over the shared state; none is dropped before it returns. -/
def relayCalls : Shared RelayEffect RelayEffect.Reply RelayShared RelayOutcome RelayDisturbance
    RelayCall where
  answer := RelayShared.answer
  disturb := RelayShared.disturb
  abandon _ _ := none
  start := RelayCall.program

end PocketStream
