import PocketStream.Config.Store
import PocketStream.Streaming.FirewallHost
import PocketStream.Streaming.RelayHealth
import PocketStream.Streaming.RelaySpec

/-! # The relay state

What the relay operations share: the relay data under the state mutex, the two
counters, the two gates, the health records, the supervisor's queue and the
listeners that are alive outside the stored slot. An operation moves from one
await point to the next in one step.
-/

namespace PocketStream

/-- A listener, with the health record its callbacks report to. -/
structure Listener where
  generation : UInt64
  serverInstance : UInt64
  health : ℕ
  protocol : RestreamProtocol
  udpIngestPort : Option UInt16
  deriving DecidableEq

inductive SourceMode where
  | udp (port : UInt16)
  | rtsp
  deriving DecidableEq

structure RelayData where
  slot : FirewallSlot
  restreamTarget : Option CameraTarget
  selectedProtocol : RestreamProtocol
  restreamServer : Option Listener
  restreamDesired : Bool
  restreamSpec : Option ResolvedStartSpec
  restreamHealth : Option ℕ
  restreamIntentEpoch : Option UInt64

/-- The shared state; `hands` are the listeners that an operation has built and not stored, or
taken and not shut down. -/
structure RelayShared where
  data : RelayData
  playbackSource : Option SourceMode
  epoch : UInt64
  generation : UInt64
  healths : ℕ → RelayHealth
  nextHealth : ℕ
  transaction : Option ℕ
  lifecycle : Option ℕ
  events : List RelaySupervisorEvent
  eventsTaken : Bool
  hands : List Listener
  revision : UInt64
  store : Store

structure RestreamStopIntent where
  epoch : UInt64
  targetGeneration : Option UInt64
  firewallGeneration : Option UInt64
  wasDesired : Bool

structure RestreamServerInfo where
  bindScope : BindScope
  firewall : FirewallOutcome
  protocol : RestreamProtocol
  serverUrl : String
  displayUrl : String

structure RestreamOperationResult where
  selectedProtocol : RestreamProtocol
  desired : Bool
  serverInfo : Option RestreamServerInfo

def RestreamServerInfo.fromSpec (spec : ResolvedStartSpec) (firewall : FirewallOutcome) :
    RestreamServerInfo where
  bindScope := spec.bindScope
  firewall := firewall
  protocol := spec.protocol
  serverUrl := spec.clientUrl
  displayUrl := spec.displayUrl

namespace RelayData

def new (selectedProtocol : RestreamProtocol) : RelayData where
  slot := ⟨.inactive, none⟩
  restreamTarget := none
  selectedProtocol := selectedProtocol
  restreamServer := none
  restreamDesired := false
  restreamSpec := none
  restreamHealth := none
  restreamIntentEpoch := none

def currentOperationResult (data : RelayData) : RestreamOperationResult where
  selectedProtocol := data.selectedProtocol
  desired := data.restreamDesired
  serverInfo :=
    if data.restreamDesired then
      data.restreamSpec.map fun spec => .fromSpec spec data.slot.firewall
    else none

end RelayData

def guardPlayback (data : RelayData) (port : UInt16) : Fallible Unit :=
  if (data.restreamDesired ∧ data.restreamSpec.bind (·.udpIngestPort) = some port) ∨
      data.restreamServer.bind (·.udpIngestPort) = some port then
    .error (.stream (s!"UDP port {port} is already claimed by the re-stream server. " ++
      "Stop it first or switch the input to RTSP."))
  else .ok ()

def guardRelay (playbackSource : Option SourceMode) (port : UInt16) : Fallible Unit :=
  if playbackSource = some (.udp port) then
    .error (.stream (s!"UDP port {port} is already claimed by the running preview - " ++
      "only one consumer can receive a UDP stream. Stop the stream first, or switch the input " ++
      "to RTSP."))
  else .ok ()

/-- What `bindings::resolve` finds for an explicit interface. -/
structure ResolvedInterface where
  identity : NativeIdentity
  aliasName : String
  address : String
  topologyRevision : UInt64

/-- What an explicit start found when it was about to install its generation. -/
inductive StartDecision where
  | superseded
  | noop (firewall : FirewallOutcome)
  | refused (error : AppError)
  | installed (generation : UInt64) (health : ℕ)

/-- The currency check with the work that follows it at once. -/
inductive Recheck | superseded | failed | current
  deriving DecidableEq

inductive RestreamBuildFailureKind | bind | other
  deriving DecidableEq, Repr

structure RestreamBuildFailure where
  kind : RestreamBuildFailureKind
  error : AppError

/-- A build under the currency check: stale, failed with the instance it had begun, or built. -/
inductive BuildReply where
  | stale
  | failed (serverInstance : UInt64) (failure : RestreamBuildFailure)
  | built (listener : Listener)

/-- Everything an operation does between two await points. The last three change nothing: they
mark where an operation returns without finishing the stop or the start it has published, and
where a recovery is over. -/
inductive RelayEffect where
  | getSettings
  | claimEpoch
  | claimEpochIf (expected : UInt64)
  | loadEpoch
  | epochAndDesired
  | publishStart (epoch : UInt64)
  | publishStop (epoch : UInt64)
  | intentIsCurrent (epoch : UInt64)
  | readDesired
  | cancelStart (epoch : UInt64) (preserve : Bool)
  | lockTransaction
  | unlockTransaction
  | lockLifecycle
  | unlockLifecycle
  | preflightTarget (target : Option CameraTarget)
  | resolveExposure
  | resolveInterface (interface : String) (id : Option String)
  | displayIp
  | preflightRestream (spec : ResolvedStartSpec)
  | installStart (spec : ResolvedStartSpec) (target : Option CameraTarget) (epoch : UInt64)
  | isCurrent (epoch generation : UInt64)
  | takeServer (epoch generation : UInt64)
  | takeTarget (generation : Option UInt64)
  | takeGeneration (generation : UInt64)
  | shutdown (listener : Listener)
  | recheck (epoch generation : UInt64) (health : ℕ) (gstError : Option String)
      (recovering : Bool) (retry : Option UInt64)
  | refuseMoved (scope : BindScope) (health : ℕ) (generation : UInt64)
  | scopeIsCurrent (scope : BindScope)
  | confirmBuild (epoch generation : UInt64) (spec : ResolvedStartSpec) (health : ℕ)
      (recovering : Bool)
  | storeListener (epoch generation : UInt64) (scope : BindScope) (listener : Listener)
      (spec : Option ResolvedStartSpec)
  | markResolutionFailed (health : ℕ) (reason : String) (retry : Option UInt64)
  | markIfEpoch (epoch : UInt64) (health : ℕ) (reason : String) (retry : Option UInt64)
  | markBuildFailed (health : ℕ) (serverInstance : UInt64) (reason : String) (bindFailure : Bool)
      (retry : Option UInt64)
  | markUnresolved (health : ℕ) (reason : String)
  | lease (e : LeaseEffect)
  | firewall (operation : FirewallOperation)
  | setProtocol (protocol : RestreamProtocol)
  | commitSettings (rtspServer : RtspServerConfig) (srtServer : SrtServerConfig)
  | commitProtocol (protocol : RestreamProtocol)
  | operationResult
  | takeEvents
  | nextEvent
  | admitFault (fault : RelayFault)
  | admitRetry (generation : UInt64)
  | contextFailed (generation : UInt64)
  | permanentFailure
  | scheduleAttempt (epoch generation : UInt64)
  | resumeRecovery (epoch generation : UInt64) (health : ℕ)
  | readSpec
  | shouldReresolve (health : ℕ)
  | readTarget
  | abandonStop (intent : RestreamStopIntent)
  | abandonStart (epoch : UInt64)
  | recoveryEnded (epoch generation : UInt64)

@[reducible] def RelayEffect.Reply : RelayEffect → Type
  | getSettings => AppSettings
  | claimEpoch => UInt64
  | claimEpochIf _ => Option UInt64
  | loadEpoch => UInt64
  | epochAndDesired => UInt64 × Bool
  | publishStart _ => Option Bool
  | publishStop _ => Option RestreamStopIntent
  | intentIsCurrent _ => Bool
  | readDesired => Bool
  | cancelStart _ _ => Unit
  | lockTransaction => Unit
  | unlockTransaction => Unit
  | lockLifecycle => Unit
  | unlockLifecycle => Unit
  | preflightTarget _ => Fallible (Option CameraTarget)
  | resolveExposure => Fallible BindScope
  | resolveInterface _ _ => Fallible ResolvedInterface
  | displayIp => Option String
  | preflightRestream _ => Fallible Unit
  | installStart _ _ _ => StartDecision
  | isCurrent _ _ => Bool
  | takeServer _ _ => Option (Option Listener)
  | takeTarget _ => Option Listener
  | takeGeneration _ => Option Listener
  | shutdown _ => Unit
  | recheck _ _ _ _ _ _ => Recheck
  | refuseMoved _ _ _ => Bool
  | scopeIsCurrent _ => Bool
  | confirmBuild _ _ _ _ _ => BuildReply
  | storeListener _ _ _ _ _ => Bool
  | markResolutionFailed _ _ _ => Unit
  | markIfEpoch _ _ _ _ => Bool
  | markBuildFailed _ _ _ _ _ => Unit
  | markUnresolved _ _ => Unit
  | lease e => e.Reply
  | firewall _ => FirewallOutcome
  | setProtocol _ => Unit
  | commitSettings _ _ => Fallible AppSettings
  | commitProtocol _ => Fallible AppSettings
  | operationResult => RestreamOperationResult
  | takeEvents => Bool
  | nextEvent => Option RelaySupervisorEvent
  | admitFault _ => Option (UInt64 × ℕ)
  | admitRetry _ => Option (UInt64 × ℕ)
  | contextFailed _ => Bool
  | permanentFailure => Bool
  | scheduleAttempt _ _ => Option ℕ
  | resumeRecovery _ _ _ => Bool
  | readSpec => Option ResolvedStartSpec
  | shouldReresolve _ => Bool
  | readTarget => Option CameraTarget
  | abandonStop _ => Unit
  | abandonStart _ => Unit
  | recoveryEnded _ _ => Unit

/-- What the world outside decides about one step; each effect reads its own part. -/
structure RelayOutcome where
  target : Fallible (Option CameraTarget) := .ok none
  exposure : Fallible BindScope := .ok (.unknown "")
  interface : Fallible ResolvedInterface := .error (.stream "")
  displayIp : Option String := none
  preflight : Fallible Unit := .ok ()
  /-- What the callbacks of a listener report while it is built. -/
  callbacks : List RelayCallback := []
  built : Except RestreamBuildFailure Unit := .ok ()
  policy : FirewallOutcome := .inactive
  saved : Fallible Unit := .ok ()
  /-- The supervisor's timer went off, and what the stored listener's probe found. -/
  tick : Bool := false
  polled : Option RelayFault := none
  now : ℕ := 0

/-- What happens around the operations: a listener that is alive reports, the topology changes,
another writer changes the settings, and the preview changes its source. -/
inductive RelayDisturbance where
  | callback (listener : Listener) (report : RelayCallback)
  | topology (revision : UInt64)
  | settings (store : Store)
  | preview (source : Option SourceMode)

namespace RelayShared

/-- Nothing has been started. -/
def new (selectedProtocol : RestreamProtocol) (store : Store) : RelayShared where
  data := .new selectedProtocol
  playbackSource := none
  epoch := 0
  generation := 0
  healths _ := .new 0 .rtsp
  nextHealth := 0
  transaction := none
  lifecycle := none
  events := []
  eventsTaken := false
  hands := []
  revision := 0
  store := store

variable (s : RelayShared)

/-- Every listener that has not finished shutting down. -/
def alive : List Listener := s.data.restreamServer.toList ++ s.hands

def updateHealth (health : ℕ) (f : RelayHealth → RelayHealth) : RelayShared :=
  { s with healths := Function.update s.healths health (f (s.healths health)) }

def send (events : List RelaySupervisorEvent) : RelayShared :=
  { s with events := s.events ++ events }

/-- The retry event that a failure leaves to the supervisor. -/
def sendRetry (retry : Option UInt64) : RelayShared :=
  s.send (retry.toList.map .retryRequested)

def generationOf (health : ℕ) : UInt64 := (s.healths health).serverGeneration

def healthGeneration : Option UInt64 := s.data.restreamHealth.map s.generationOf

def relayStateIsGeneration (generation : UInt64) : Bool :=
  s.data.restreamDesired && s.healthGeneration == some generation

/-- `relay_is_current` under the state mutex -/
def relayIsCurrent (epoch generation : UInt64) : Bool :=
  s.epoch == epoch && s.data.restreamIntentEpoch == some epoch &&
    s.relayStateIsGeneration generation

def currentRelayContext (generation : UInt64) : Option (UInt64 × ℕ) :=
  if s.relayStateIsGeneration generation then
    match s.data.restreamIntentEpoch, s.data.restreamHealth with
    | some expected, some health => if s.epoch = expected then some (expected, health) else none
    | _, _ => none
  else none

def restreamIntentIsCurrent (epoch : UInt64) : Bool :=
  s.epoch == epoch && s.data.restreamDesired && s.data.restreamIntentEpoch == some epoch

def scopeRevision (scope : BindScope) : UInt64 := scope.revision s.revision

def publishRestreamStartIntent (epoch : UInt64) : Option Bool × RelayShared :=
  if s.epoch ≠ epoch then (none, s)
  else
    (some (s.data.restreamDesired && s.data.restreamSpec.isSome && s.data.restreamHealth.isSome),
      { s with data := { s.data with
          restreamDesired := true
          restreamIntentEpoch := some epoch } })

/-- `health.stop()`, for the record there is -/
def stopHealth : RelayShared :=
  match s.data.restreamHealth with
  | some health => s.updateHealth health .stop
  | none => s

def cancelRestreamStartIntent (epoch : UInt64) (preserve : Bool) : RelayShared :=
  if s.epoch ≠ epoch ∨ s.data.restreamIntentEpoch ≠ some epoch then s
  else if preserve then
    match s.data.restreamHealth with
    | some health =>
      if (s.healths health).retryable then s.sendRetry (some (s.generationOf health)) else s
    | none => s
  else
    { s.stopHealth with data := { s.data with
        restreamDesired := false
        restreamSpec := none
        restreamHealth := none
        restreamIntentEpoch := none } }

def publishRestreamStopIntent (epoch : UInt64) : Option RestreamStopIntent × RelayShared :=
  if s.epoch ≠ epoch then (none, s)
  else
    let firewallGeneration := s.data.slot.firewallGeneration.map (·.1)
    let target :=
      (restreamStopTarget s.data.restreamDesired s.healthGeneration
        (s.data.restreamServer.map (·.generation))).or firewallGeneration
    (some ⟨epoch, target, firewallGeneration, s.data.restreamDesired⟩,
      if s.data.restreamDesired then
        { s.stopHealth with data := { s.data with
            restreamDesired := false
            restreamSpec := none
            restreamHealth := none
            restreamIntentEpoch := none
            restreamTarget := none } }
      else s)

def installStart (spec : ResolvedStartSpec) (target : Option CameraTarget) (epoch : UInt64) :
    StartDecision × RelayShared :=
  if s.epoch ≠ epoch then (.superseded, s)
  else if resolvedStartIsHealthyNoop s.data.restreamDesired s.data.restreamSpec spec
        (s.data.restreamHealth.map s.healths) (s.data.restreamServer.map (·.generation))
        (s.data.restreamServer.any fun l => (s.healths l.health).loopAliveFor l.serverInstance) ∧
      s.data.restreamTarget = target then
    (.noop s.data.slot.firewall, s)
  else
    match spec.udpIngestPort.elim (.ok ()) (guardRelay s.playbackSource) with
    | .error error => (.refused error, s)
    | .ok () =>
      (.installed (s.generation + 1) s.nextHealth,
        { s with
          generation := s.generation + 1
          healths := Function.update s.healths s.nextHealth
            (.new (s.generation + 1) spec.ingestKind)
          nextHealth := s.nextHealth + 1
          data := { s.data with
            restreamTarget := target
            restreamSpec := some spec
            restreamHealth := some s.nextHealth } })

/-- A stored listener of the wanted generation changes hands. -/
def takeWhere (wanted : UInt64 → Bool) : Option Listener × RelayShared :=
  match s.data.restreamServer with
  | some l =>
    if wanted l.generation then
      (some l, { s with data := { s.data with restreamServer := none }, hands := l :: s.hands })
    else (none, s)
  | none => (none, s)

def takeServer (epoch generation : UInt64) : Option (Option Listener) × RelayShared :=
  if !s.relayStateIsGeneration generation || s.data.restreamIntentEpoch != some epoch then (none, s)
  else
    let (old, s) := s.takeWhere fun _ => true
    (some old, s)

/-- What the callbacks of one instance report, in order, with the faults they send. -/
def runCallbacks (health : ℕ) (serverInstance : UInt64) :
    RelayShared → List RelayCallback → RelayShared
  | s, [] => s
  | s, report :: reports =>
    runCallbacks health serverInstance
      ((s.updateHealth health fun h => (h.callback serverInstance report).2).send
        (((s.healths health).callback serverInstance report).1.toList.map .fault)) reports

def beginServerInstance (health : ℕ) (recovering : Bool) : UInt64 × RelayShared :=
  (((s.healths health).beginServerInstance recovering).1,
    s.updateHealth health fun h => (h.beginServerInstance recovering).2)

def markBuildFailed (health : ℕ) (serverInstance : UInt64) (reason : String) (bindFailure : Bool)
    (retry : Option UInt64) : RelayShared :=
  (s.updateHealth health fun h => h.markBuildFailed serverInstance reason bindFailure).sendRetry
    retry

def markResolutionFailed (health : ℕ) (reason : String) (retry : Option UInt64) : RelayShared :=
  (s.updateHealth health fun h => h.markResolutionFailed reason).sendRetry retry

def recheck (epoch generation : UInt64) (health : ℕ) (gstError : Option String) (recovering : Bool)
    (retry : Option UInt64) : Recheck × RelayShared :=
  if !s.relayIsCurrent epoch generation then (.superseded, s)
  else
    match gstError with
    | none => (.current, s)
    | some reason =>
      let (serverInstance, s) := s.beginServerInstance health recovering
      (.failed, s.markBuildFailed health serverInstance reason false retry)

/-- `build_restream_server` -/
def buildRestreamServer (spec : ResolvedStartSpec) (health : ℕ) (recovering : Bool)
    (o : RelayOutcome) : BuildReply × RelayShared :=
  let (serverInstance, s) := s.beginServerInstance health recovering
  let s := runCallbacks health serverInstance s o.callbacks
  match o.built with
  | .error failure => (.failed serverInstance failure, s)
  | .ok () =>
    let s := s.updateHealth health fun h => h.markListenerBound serverInstance
    let listener :=
      ⟨s.generationOf health, serverInstance, health, spec.protocol, spec.udpIngestPort⟩
    (.built listener, { s with hands := listener :: s.hands })

def confirmBuild (epoch generation : UInt64) (spec : ResolvedStartSpec) (health : ℕ)
    (recovering : Bool) (o : RelayOutcome) : BuildReply × RelayShared :=
  if !s.relayIsCurrent epoch generation || s.revision != s.scopeRevision spec.bindScope then
    (.stale, s)
  else s.buildRestreamServer spec health recovering o

def storeListener (epoch generation : UInt64) (scope : BindScope) (listener : Listener)
    (spec : Option ResolvedStartSpec) : Bool × RelayShared :=
  if s.relayIsCurrent epoch generation && s.revision == s.scopeRevision scope then
    (true,
      { s with
        hands := s.hands.erase listener
        data := { s.data with
          restreamServer := some listener
          restreamSpec := spec.or s.data.restreamSpec } })
  else (false, s)

/-- `poll_relay_fault` -/
def pollRelayFault (o : RelayOutcome) : Option RelayFault × RelayShared :=
  if !s.data.restreamDesired then (none, s)
  else
    match s.data.restreamHealth, s.data.restreamServer.bind fun _ => o.polled with
    | none, _ => (none, s)
    | some _, some fault => (some fault, s)
    | some health, none =>
      (((s.healths health).evaluateWatchdog o.now).1,
        s.updateHealth health fun h => (h.evaluateWatchdog o.now).2)

def admitFault (fault : RelayFault) : Option (UInt64 × ℕ) × RelayShared :=
  match s.currentRelayContext fault.serverGeneration with
  | none => (none, s)
  | some (epoch, health) =>
    (if ((s.healths health).acceptFault fault).1 then some (epoch, health) else none,
      s.updateHealth health fun h => (h.acceptFault fault).2)

def admitRetry (generation : UInt64) : Option (UInt64 × ℕ) :=
  (s.currentRelayContext generation).filter fun (_, health) => (s.healths health).retryable

def contextFailed (generation : UInt64) : Bool :=
  (s.currentRelayContext generation).any fun (_, health) =>
    (s.healths health).state == .failed && (s.healths health).error.isSome

def scheduleAttempt (epoch generation : UInt64) : Option ℕ × RelayShared :=
  match s.currentRelayContext generation with
  | none => (none, s)
  | some (current, health) =>
    if current ≠ epoch then (none, s)
    else (some health, s.updateHealth health fun h => h.scheduleRecoveryAttempt.2)

/-- How an effect of thread `t` is answered; a taken gate and an empty queue block. -/
def answer (t : ℕ) (s : RelayShared) :
    (e : RelayEffect) → RelayOutcome → Option (e.Reply × RelayShared)
  | .getSettings, _ => some (s.store.memory, s)
  | .claimEpoch, _ => some (s.epoch + 1, { s with epoch := s.epoch + 1 })
  | .claimEpochIf expected, _ =>
    some (if s.epoch = expected then (some (expected + 1), { s with epoch := expected + 1 })
      else (none, s))
  | .loadEpoch, _ => some (s.epoch, s)
  | .epochAndDesired, _ => some ((s.epoch, s.data.restreamDesired), s)
  | .publishStart epoch, _ => some (s.publishRestreamStartIntent epoch)
  | .publishStop epoch, _ => some (s.publishRestreamStopIntent epoch)
  | .intentIsCurrent epoch, _ => some (s.restreamIntentIsCurrent epoch, s)
  | .readDesired, _ => some (s.data.restreamDesired, s)
  | .cancelStart epoch preserve, _ => some ((), s.cancelRestreamStartIntent epoch preserve)
  | .lockTransaction, _ =>
    if s.transaction.isNone then some ((), { s with transaction := some t }) else none
  | .unlockTransaction, _ => some ((), { s with transaction := none })
  | .lockLifecycle, _ =>
    if s.lifecycle.isNone then some ((), { s with lifecycle := some t }) else none
  | .unlockLifecycle, _ => some ((), { s with lifecycle := none })
  | .preflightTarget target, o => some (if target.isNone then .ok none else o.target, s)
  | .resolveExposure, o => some (o.exposure, s)
  | .resolveInterface _ _, o => some (o.interface, s)
  | .displayIp, o => some (o.displayIp, s)
  | .preflightRestream _, o => some (o.preflight, s)
  | .installStart spec target epoch, _ => some (s.installStart spec target epoch)
  | .isCurrent epoch generation, _ => some (s.relayIsCurrent epoch generation, s)
  | .takeServer epoch generation, _ => some (s.takeServer epoch generation)
  | .takeTarget target, _ => some (s.takeWhere fun generation => some generation == target)
  | .takeGeneration generation, _ => some (s.takeWhere (· == generation))
  | .shutdown listener, _ => some ((), { s with hands := s.hands.erase listener })
  | .recheck epoch generation health gstError recovering retry, _ =>
    some (s.recheck epoch generation health gstError recovering retry)
  | .refuseMoved scope health generation, _ =>
    some (if s.revision ≠ s.scopeRevision scope then
        (true, s.markResolutionFailed health
          "Bind topology changed during preflight; resolving again" (some generation))
      else (false, s))
  | .scopeIsCurrent scope, _ => some (s.revision == s.scopeRevision scope, s)
  | .confirmBuild epoch generation spec health recovering, o =>
    some (s.confirmBuild epoch generation spec health recovering o)
  | .storeListener epoch generation scope listener spec, _ =>
    some (s.storeListener epoch generation scope listener spec)
  | .markResolutionFailed health reason retry, _ =>
    some ((), s.markResolutionFailed health reason retry)
  | .markIfEpoch epoch health reason retry, _ =>
    some (if s.epoch = epoch then (true, s.markResolutionFailed health reason retry)
      else (false, s))
  | .markBuildFailed health serverInstance reason bindFailure retry, _ =>
    some ((), s.markBuildFailed health serverInstance reason bindFailure retry)
  | .markUnresolved health reason, _ =>
    some ((), s.updateHealth health fun h => (h.markResolutionFailed reason).forceMaxBackoff)
  | .lease e, _ =>
    some ((s.data.slot.answer s.relayStateIsGeneration e).1,
      { s with data := { s.data with slot := (s.data.slot.answer s.relayStateIsGeneration e).2 } })
  | .firewall _, o => some (o.policy, s)
  | .setProtocol protocol, _ =>
    some ((), { s with data := { s.data with selectedProtocol := protocol } })
  | .commitSettings rtspServer srtServer, o =>
    let (result, store) := s.store.commitRestream ({ · with rtspServer, srtServer }) o.saved
    some (result, { s with store })
  | .commitProtocol restreamProtocol, o =>
    let (result, store) := s.store.commitRestream ({ · with restreamProtocol }) o.saved
    some (result, { s with store })
  | .operationResult, _ => some (s.data.currentOperationResult, s)
  | .takeEvents, _ => some (!s.eventsTaken, { s with eventsTaken := true })
  | .nextEvent, o =>
    if o.tick then some ((s.pollRelayFault o).1.map .fault, (s.pollRelayFault o).2)
    else
      match s.events with
      | [] => none
      | event :: events => some (some event, { s with events })
  | .admitFault fault, _ => some (s.admitFault fault)
  | .admitRetry generation, _ => some (s.admitRetry generation, s)
  | .contextFailed generation, _ => some (s.contextFailed generation, s)
  | .permanentFailure, _ =>
    some (s.data.restreamHealth.any fun health => (s.healths health).permanentFailure, s)
  | .scheduleAttempt epoch generation, _ => some (s.scheduleAttempt epoch generation)
  | .resumeRecovery epoch generation health, _ =>
    some (if s.relayIsCurrent epoch generation then
        (true, s.updateHealth health .markRecoveryInProgress)
      else (false, s))
  | .readSpec, _ => some (s.data.restreamSpec, s)
  | .shouldReresolve health, _ => some ((s.healths health).shouldReresolveExplicitBind, s)
  | .readTarget, _ => some (s.data.restreamTarget, s)
  | .abandonStop _, _ => some ((), s)
  | .abandonStart _, _ => some ((), s)
  | .recoveryEnded _ _, _ => some ((), s)

/-- A listener reports only while it is alive. -/
def disturb : RelayDisturbance → RelayShared
  | .callback listener report =>
    if listener ∈ s.alive then runCallbacks listener.health listener.serverInstance s [report]
    else s
  | .topology revision => { s with revision }
  | .settings store => { s with store }
  | .preview source => { s with playbackSource := source }

end RelayShared

end PocketStream
