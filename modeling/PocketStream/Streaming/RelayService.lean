import PocketStream.Streaming.RelayState

/-! # The relay service

The operations of the relay, each as the steps it takes between its await
points. An intent is published before the gates are taken, so every operation
checks again whether it is still the current one.
-/

namespace PocketStream

open Foundation

abbrev RelayProgram := Program RelayEffect RelayEffect.Reply

def relayStep (e : RelayEffect) : RelayProgram e.Reply := Program.perform e

section Helpers

variable {α : Type}

def withTransaction (body : RelayProgram α) : RelayProgram α := do
  relayStep .lockTransaction
  let result ← body
  relayStep .unlockTransaction
  return result

def withLifecycle (body : RelayProgram α) : RelayProgram α := do
  relayStep .lockLifecycle
  let result ← body
  relayStep .unlockLifecycle
  return result

/-- The check of the epoch that an operation makes without the state mutex. -/
def ifEpoch (epoch : UInt64) (superseded : α) (next : RelayProgram α) : RelayProgram α := do
  if (← relayStep .loadEpoch) = epoch then next else return superseded

def relayIsCurrent (epoch generation : UInt64) : RelayProgram Bool :=
  ifEpoch epoch false (relayStep (.isCurrent epoch generation))

def shutdownServer : Option Listener → RelayProgram Unit
  | some listener => relayStep (.shutdown listener)
  | none => return ()

end Helpers

def relayLease (e : LeaseEffect) : RelayProgram e.Reply := relayStep (.lease e)

def relayEnsure (role : FirewallRule) (port : UInt16) (interface : Option NativeIdentity) :
    RelayProgram FirewallOutcome :=
  relayStep (.firewall (.ensure role port interface))

def relayDisable (role : FirewallRule) : RelayProgram FirewallOutcome :=
  relayStep (.firewall (.disable role))

def applyFirewall (spec : ResolvedStartSpec) (generation : UInt64) :
    RelayProgram FirewallOutcome :=
  applyFirewallWith relayLease relayEnsure relayDisable spec generation

def retireFirewall (generation : UInt64) : RelayProgram Bool :=
  retireFirewallWith relayLease relayDisable generation

/-! ### Start -/

def startSuperseded : AppError :=
  .stream "Re-stream server start was superseded by a newer request"

def startSupersededByStop : AppError := .stream "Re-stream server start was superseded by a stop"

def serverNotEnabled : AppError :=
  .validation "Re-stream Server Enable must be on before starting"

def publishRestreamStartIntent (epoch : UInt64) : RelayProgram (Option (UInt64 × Bool)) := do
  return (← relayStep (.publishStart epoch)).map fun preserve => (epoch, preserve)

def beginRestreamStartIntent : RelayProgram (Option (UInt64 × Bool)) := do
  publishRestreamStartIntent (← relayStep .claimEpoch)

def beginRestreamStartIntentIfCurrent (expected : UInt64) :
    RelayProgram (Option (UInt64 × Bool)) := do
  match ← relayStep (.claimEpochIf expected) with
  | some epoch => publishRestreamStartIntent epoch
  | none => return none

def cancelRestreamStartIntent (epoch : UInt64) (preserve : Bool) : RelayProgram Unit :=
  ifEpoch epoch () (relayStep (.cancelStart epoch preserve))

def sourceOf (settings : AppSettings) : Fallible ResolvedSource :=
  match settings.stream.protocol with
  | .rtsp => (buildInputUrl settings).map .rtsp
  | .udp => .ok (.udp settings.stream.udpPort)

def savedBindId (settings : AppSettings) : Option String :=
  match settings.restreamProtocol with
  | .rtsp => settings.rtspServer.bindInterfaceId
  | .srt => settings.srtServer.bindInterfaceId

def ResolvedInterface.scope (r : ResolvedInterface) : BindScope :=
  .interface r.identity.guid r.aliasName r.address r.topologyRevision

def boundAddress : BindScope → Option String
  | .interface _ _ address _ => some address
  | _ => none

/-- The identity and scope of a bind; an exposure that cannot be read is unknown. -/
def resolveBind (interface id : Option String) :
    RelayProgram (Fallible (Option NativeIdentity × BindScope)) := do
  match interface with
  | some name => return (← relayStep (.resolveInterface name id)).map fun r =>
      (some r.identity, r.scope)
  | none =>
    match ← relayStep .resolveExposure with
    | .ok scope => return .ok (none, scope)
    | .error error => return .ok (none, .unknown error.toText)

def advertisedAddress : Option String → RelayProgram String
  | some address => return address
  | none => return (← relayStep .displayIp).getD "0.0.0.0"

def resolveRestreamStartSpec (settings : AppSettings) :
    RelayProgram (Fallible ResolvedStartSpec) := do
  match resolveSelectedRestreamOutput settings, sourceOf settings with
  | .error error, _ => return .error error
  | _, .error error => return .error error
  | .ok (bindInterface, output), .ok source =>
    if bindInterface.isSome && (savedBindId settings).isNone then
      return .error (.stream
        "Choose the unavailable saved bind interface again to establish its identity")
    else
      match ← resolveBind bindInterface (savedBindId settings) with
      | .error error => return .error error
      | .ok (bindIdentity, bindScope) =>
        let advertisedIp ← advertisedAddress (boundAddress bindScope)
        return .ok
          { source, output, bindIdentity, bindScope, advertisedIp
            bindInterface := (bindIdentity.map (·.aliasName)).or bindInterface
            bindAddress := boundAddress bindScope
            username := settings.credentials.username
            password := settings.credentials.password }

/-- The listener is stored under the last check, or shut down. -/
def storeOrRetire (spec : ResolvedStartSpec) (epoch generation : UInt64) (health : ℕ)
    (info : RestreamServerInfo) (listener : Listener) :
    RelayProgram (Fallible RestreamServerInfo) := do
  if ← relayStep (.storeListener epoch generation spec.bindScope listener none) then
    return .ok info
  else
    relayStep (.shutdown listener)
    let _ ← retireFirewall generation
    let _ ← relayStep (.markIfEpoch epoch health
      "Bind topology changed during listener construction" (some generation))
    return .error startSuperseded

/-- The build of an explicit start, under its last check of currency and topology. -/
def buildListener (spec : ResolvedStartSpec) (epoch generation : UInt64) (health : ℕ)
    (info : RestreamServerInfo) : RelayProgram (Fallible RestreamServerInfo) := do
  match ← ifEpoch epoch .stale (relayStep (.confirmBuild epoch generation spec health false)) with
  | .stale =>
    let _ ← retireFirewall generation
    let _ ← relayStep (.markIfEpoch epoch health
      "Bind topology changed during policy reconciliation" (some generation))
    return .error (.stream "Listener start superseded during Windows rule reconciliation")
  | .failed serverInstance failure =>
    let _ ← retireFirewall generation
    relayStep (.markBuildFailed health serverInstance failure.error.toText false (some generation))
    return .error failure.error
  | .built listener => storeOrRetire spec epoch generation health info listener

/-- The preparation of a build once no older listener is alive. -/
def prepareListener (spec : ResolvedStartSpec) (target : Option CameraTarget)
    (epoch generation : UInt64) (health : ℕ) (info : RestreamServerInfo)
    (gstError : Fallible Unit) : RelayProgram (Fallible RestreamServerInfo) := do
  let reason := match gstError with
    | .error error => some error.toText
    | .ok () => none
  match ← ifEpoch epoch .superseded
      (relayStep (.recheck epoch generation health reason false (some generation))) with
  | .superseded => return .error startSuperseded
  | .failed => return gstError.map fun () => info
  | .current =>
    match ← relayStep (.preflightTarget target) with
    | .error error =>
      relayStep (.markResolutionFailed health error.toText (some generation))
      return .error error
    | .ok _ =>
      if ← relayStep (.refuseMoved spec.bindScope health generation) then
        return .error (.stream "Bind topology changed; listener recovery is pending")
      else
        let firewall ← applyFirewall spec generation
        buildListener spec epoch generation health { info with firewall }

/-- The replacement of the listener, under the lifecycle gate. -/
def replaceListener (spec : ResolvedStartSpec) (target : Option CameraTarget)
    (epoch generation : UInt64) (health : ℕ) (info : RestreamServerInfo)
    (gstError : Fallible Unit) : RelayProgram (Fallible RestreamServerInfo) := do
  if !(← relayIsCurrent epoch generation) then return .error startSuperseded
  else
    match ← relayStep (.takeServer epoch generation) with
    | none => return .error startSuperseded
    | some none => prepareListener spec target epoch generation health info gstError
    | some (some old) =>
      relayStep (.shutdown old)
      let _ ← retireFirewall old.generation
      prepareListener spec target epoch generation health info gstError

/-- The installation of a resolved start. -/
def startResolved (spec : ResolvedStartSpec) (target : Option CameraTarget) (epoch : UInt64)
    (preserve : Bool) : RelayProgram (Fallible RestreamServerInfo) := do
  let info := RestreamServerInfo.fromSpec spec .inactive
  match ← ifEpoch epoch .superseded (relayStep (.installStart spec target epoch)) with
  | .superseded => return .error startSupersededByStop
  | .noop firewall => return .ok { info with firewall }
  | .refused error =>
    cancelRestreamStartIntent epoch preserve
    return .error error
  | .installed generation health =>
    let gstError ← relayStep (.preflightRestream spec)
    withLifecycle (replaceListener spec target epoch generation health info gstError)

def startRestreamServerInner (settings : AppSettings) (epoch : UInt64) (preserve : Bool) :
    RelayProgram (Fallible RestreamServerInfo) := do
  match ← relayStep (.preflightTarget (streamTarget settings)) with
  | .error error =>
    cancelRestreamStartIntent epoch preserve
    return .error error
  | .ok path =>
    match ← resolveRestreamStartSpec settings with
    | .error error =>
      cancelRestreamStartIntent epoch preserve
      return .error error
    | .ok spec => startResolved spec (path.or (streamTarget settings)) epoch preserve

/-- The part of a start under the transaction gate. -/
def startUnderTransaction (epoch : UInt64) (preserve : Bool) :
    RelayProgram (Fallible RestreamServerInfo) := do
  if !(← ifEpoch epoch false (relayStep (.intentIsCurrent epoch))) then
    return .error startSuperseded
  else
    match validateProspectiveSettings (← relayStep .getSettings) with
    | .error error =>
      cancelRestreamStartIntent epoch preserve
      return .error error
    | .ok settings =>
      if !settings.rtspServer.enabled then
        cancelRestreamStartIntent epoch false
        return .error serverNotEnabled
      else
        match validateSelectedRestreamStartable settings with
        | .error error =>
          cancelRestreamStartIntent epoch preserve
          return .error error
        | .ok () => startRestreamServerInner settings epoch preserve

/-- What a start checks before it publishes anything. -/
def startable (settings : AppSettings) : Fallible Unit := do
  let initial ← validateProspectiveSettings settings
  if !initial.rtspServer.enabled then .error serverNotEnabled
  else validateSelectedRestreamStartable initial

def startRestreamServer : RelayProgram (Fallible RestreamServerInfo) := do
  match startable (← relayStep .getSettings) with
  | .error error => return .error error
  | .ok () =>
    match ← beginRestreamStartIntent with
    | none => return .error startSuperseded
    | some (epoch, preserve) => withTransaction (startUnderTransaction epoch preserve)

/-! ### Stop -/

def beginRestreamStopIntent : RelayProgram (Option RestreamStopIntent) := do
  relayStep (.publishStop (← relayStep .claimEpoch))

def beginRestreamStopIntentIfCurrent (expected : UInt64) :
    RelayProgram (Option RestreamStopIntent) := do
  match ← relayStep (.claimEpochIf expected) with
  | some epoch => relayStep (.publishStop epoch)
  | none => return none

def retireLease : Option UInt64 → RelayProgram Unit
  | some generation => do
    let _ ← retireFirewall generation
  | none => return ()

def finishRestreamStop (intent : RestreamStopIntent) : RelayProgram Unit :=
  withLifecycle do
    let server ← relayStep (.takeTarget intent.targetGeneration)
    shutdownServer server
    retireLease intent.targetGeneration
    if intent.firewallGeneration ≠ intent.targetGeneration then
      retireLease intent.firewallGeneration

def stopRestreamServer : RelayProgram Unit := do
  let intent ← beginRestreamStopIntent
  withTransaction do
    match intent with
    | some intent => finishRestreamStop intent
    | none => return ()

/-! ### Settings transactions -/

def restoreRestreamAfterTransactionError (oldSettings : AppSettings)
    (stopIntent : RestreamStopIntent) (error : AppError) : RelayProgram AppError := do
  if !stopIntent.wasDesired then return error
  else
    match ← beginRestreamStartIntentIfCurrent stopIntent.epoch with
    | none => return error
    | some (epoch, preserve) =>
      match ← startRestreamServerInner oldSettings epoch preserve with
      | .ok _ => return error
      | .error restoration =>
        return .config (error.toText ++
          "; restoring the prior re-stream output also failed: " ++ restoration.toText)

/-- A transaction that fails restores what its stop has taken down. -/
def failTransaction {α : Type} (oldSettings : AppSettings)
    (stopIntent : Option RestreamStopIntent) (error : AppError) : RelayProgram (Fallible α) := do
  match stopIntent with
  | some intent =>
    return .error (← restoreRestreamAfterTransactionError oldSettings intent error)
  | none => return .error error

/-- A transaction that returns at once leaves a stop that it has published. -/
def leaveTransaction {α : Type} (stopIntent : Option RestreamStopIntent) (error : AppError) :
    RelayProgram (Fallible α) := do
  match stopIntent with
  | some intent =>
    relayStep (.abandonStop intent)
    return .error error
  | none => return .error error

def finishStopIntent : Option RestreamStopIntent → RelayProgram Unit
  | some intent => finishRestreamStop intent
  | none => return ()

def currentOperationResult : RelayProgram (Fallible RestreamOperationResult) := do
  return .ok (← relayStep .operationResult)

/-- The start of a transaction that took the relay down, while no newer intent was claimed. -/
def restartWith (settings : AppSettings) (expected : UInt64) :
    RelayProgram (Fallible RestreamOperationResult) := do
  match ← beginRestreamStartIntentIfCurrent expected with
  | none => currentOperationResult
  | some (epoch, preserve) =>
    match ← startRestreamServerInner settings epoch preserve with
    | .error error => return .error error
    | .ok _ => currentOperationResult

def applySuperseded : AppError :=
  .stream "Re-stream settings apply was superseded by a newer request"

def restartable (willRestart : Bool) (prospective : AppSettings) : Fallible Unit :=
  if willRestart then validateSelectedRestreamStartable prospective else .ok ()

/-- The teardown and the commit of an apply. -/
def commitApply (oldSettings prospective : AppSettings) (wasDesired : Bool)
    (stopIntent : Option RestreamStopIntent) : RelayProgram (Fallible RestreamOperationResult) := do
  finishStopIntent stopIntent
  match ← relayStep (.commitSettings prospective.rtspServer prospective.srtServer) with
  | .error error => failTransaction oldSettings stopIntent error
  | .ok committed =>
    match stopIntent with
    | some intent =>
      if wasDesired && committed.rtspServer.enabled then restartWith committed intent.epoch
      else currentOperationResult
    | none => currentOperationResult

def applyUnderTransaction (update : RestreamSettingsUpdate) (expected : UInt64)
    (stopIntent : Option RestreamStopIntent) : RelayProgram (Fallible RestreamOperationResult) := do
  if (← relayStep .loadEpoch) ≠ expected then leaveTransaction stopIntent applySuperseded
  else
    match validateProspectiveSettings (← relayStep .getSettings) with
    | .error error => leaveTransaction stopIntent error
    | .ok oldSettings =>
      match prospectiveRestreamSettings oldSettings update with
      | .error error => failTransaction oldSettings stopIntent error
      | .ok prospective =>
        let desired ← relayStep .readDesired
        let wasDesired := stopIntent.elim desired (·.wasDesired)
        let runtimeChanged := selectedRestreamRuntimeChanged oldSettings prospective
        match restartable (wasDesired && runtimeChanged && prospective.rtspServer.enabled)
            prospective with
        | .error error => failTransaction oldSettings stopIntent error
        | .ok () =>
          if wasDesired && (runtimeChanged || !prospective.rtspServer.enabled) &&
              stopIntent.isNone then
            match ← beginRestreamStopIntentIfCurrent expected with
            | none => return .error applySuperseded
            | some intent => commitApply oldSettings prospective intent.wasDesired (some intent)
          else commitApply oldSettings prospective wasDesired stopIntent

def applyRestreamSettings (update : RestreamSettingsUpdate) :
    RelayProgram (Fallible RestreamOperationResult) := do
  let initialSettings ← relayStep .getSettings
  match prospectiveRestreamSettings initialSettings update with
  | .error error => return .error error
  | .ok initialProspective =>
    let (operationEpoch, wasDesired) ← relayStep .epochAndDesired
    let runtimeChanged := selectedRestreamRuntimeChanged initialSettings initialProspective
    match restartable (wasDesired && runtimeChanged && initialProspective.rtspServer.enabled)
        initialProspective with
    | .error error => return .error error
    | .ok () =>
      if wasDesired && (runtimeChanged || !initialProspective.rtspServer.enabled) then
        match ← beginRestreamStopIntentIfCurrent operationEpoch with
        | none => return .error applySuperseded
        | some intent =>
          withTransaction (applyUnderTransaction update intent.epoch (some intent))
      else withTransaction (applyUnderTransaction update operationEpoch none)

def switchSuperseded : AppError :=
  .stream "Re-stream protocol switch was superseded by a newer request"

/-- The start after a committed switch. -/
def restartSwitched (committed : AppSettings) (expected : UInt64) :
    RelayProgram (Fallible RestreamOperationResult) := do
  match ← beginRestreamStartIntentIfCurrent expected with
  | none => currentOperationResult
  | some (epoch, preserve) =>
    match validateSelectedRestreamStartable committed with
    | .error error =>
      relayStep (.abandonStart epoch)
      return .error error
    | .ok () =>
      match ← startRestreamServerInner committed epoch preserve with
      | .error error => return .error error
      | .ok _ => currentOperationResult

/-- The teardown and the commit of a switch. -/
def commitSwitch (oldSettings : AppSettings) (protocol : RestreamProtocol)
    (intent : RestreamStopIntent) : RelayProgram (Fallible RestreamOperationResult) := do
  finishRestreamStop intent
  match ← relayStep (.commitProtocol protocol) with
  | .error error => failTransaction oldSettings (some intent) error
  | .ok committed =>
    relayStep (.setProtocol protocol)
    if intent.wasDesired then restartSwitched committed intent.epoch else currentOperationResult

/-- A switch to the protocol that is selected already. -/
def reselect (prospective : AppSettings) (protocol : RestreamProtocol) (expected : UInt64)
    (wasDesired : Bool) (stopIntent : Option RestreamStopIntent) :
    RelayProgram (Fallible RestreamOperationResult) := do
  relayStep (.setProtocol protocol)
  finishStopIntent stopIntent
  if wasDesired then restartWith prospective (stopIntent.elim expected (·.epoch))
  else currentOperationResult

def switchUnderTransaction (protocol : RestreamProtocol) (expected : UInt64)
    (stopIntent : Option RestreamStopIntent) : RelayProgram (Fallible RestreamOperationResult) := do
  if (← relayStep .loadEpoch) ≠ expected then leaveTransaction stopIntent switchSuperseded
  else
    match validateProspectiveSettings (← relayStep .getSettings) with
    | .error error => leaveTransaction stopIntent error
    | .ok oldSettings =>
      match validateProspectiveSettings { oldSettings with restreamProtocol := protocol } with
      | .error error => failTransaction oldSettings stopIntent error
      | .ok prospective =>
        let desired ← relayStep .readDesired
        let wasDesired := stopIntent.elim desired (·.wasDesired)
        match validateRestreamSwitchTarget prospective wasDesired with
        | .error error => failTransaction oldSettings stopIntent error
        | .ok () =>
          if oldSettings.restreamProtocol = protocol then
            reselect prospective protocol expected wasDesired stopIntent
          else
            match stopIntent with
            | some intent => commitSwitch oldSettings protocol intent
            | none =>
              match ← beginRestreamStopIntentIfCurrent expected with
              | none => return .error switchSuperseded
              | some intent => commitSwitch oldSettings protocol intent

def switchRestreamProtocol (protocol : RestreamProtocol) :
    RelayProgram (Fallible RestreamOperationResult) := do
  match validateProspectiveSettings (← relayStep .getSettings) with
  | .error error => return .error error
  | .ok initialSettings =>
    match validateProspectiveSettings { initialSettings with restreamProtocol := protocol } with
    | .error error => return .error error
    | .ok initialProspective =>
      let (operationEpoch, wasDesired) ← relayStep .epochAndDesired
      match validateRestreamSwitchTarget initialProspective wasDesired with
      | .error error => return .error error
      | .ok () =>
        if initialSettings.restreamProtocol ≠ protocol then
          match ← beginRestreamStopIntentIfCurrent operationEpoch with
          | none => return .error switchSuperseded
          | some intent =>
            withTransaction (switchUnderTransaction protocol intent.epoch (some intent))
        else withTransaction (switchUnderTransaction protocol operationEpoch none)

end PocketStream
