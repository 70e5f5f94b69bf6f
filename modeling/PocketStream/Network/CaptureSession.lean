import Mathlib.Logic.Function.Basic
import PocketStream.Foundation.Machine

/-! # The capture session

One capture listener at a time attaches to the selected adapter. Its thread is
started on behalf of an incarnation, whose flag every frame it hears must pass;
its handle is installed, parked with the prior joins, or in the hands of a task.
The lifecycle operations run one at a time. The watchdog runs beside them until
an operation has stopped it, or aborts it after a while.
-/

namespace PocketStream

open Foundation

namespace Capture

inductive ScopeOutcome where
  | selectedInterface (sourceId : Option UInt32)
  | scopedByName (sourceId : UInt32)
  | unscopedFallback (reason : String)
  deriving DecidableEq

def ScopeOutcome.sourceId : ScopeOutcome → Option UInt32
  | selectedInterface sourceId => sourceId
  | scopedByName sourceId => some sourceId
  | unscopedFallback _ => none

def ScopeOutcome.selectsInterface : ScopeOutcome → Bool
  | selectedInterface _ => true
  | _ => false

/-- What the activation channel of a thread has delivered. -/
inductive Activation where
  | pending
  | confirmed (outcome : ScopeOutcome)
  | failed
  | closed
  deriving DecidableEq

def Activation.isConfirmed : Activation → Bool
  | confirmed _ => true
  | _ => false

/-- A capture thread, and the flag of the incarnation it was started for. -/
structure CaptureThread where
  activation : Activation
  stopped : Bool
  exited : Bool
  active : Bool
  deriving DecidableEq

structure CaptureIdentity where
  ifaceName : String
  mac : Option (List UInt8)
  sourceId : Option UInt32
  incarnation : ℕ
  deriving DecidableEq

inductive LiveSourceId where
  | enumerated (id : UInt32)
  | enumFailed
  deriving DecidableEq

inductive ListenerAction where
  | attach
  | keep
  | replace (reason : String)
  deriving DecidableEq

def listenerAction (current : Option CaptureIdentity) (active : ℕ → Bool) (hasListener : Bool)
    (desiredIface : String) (desiredMac : Option (List UInt8)) (live : LiveSourceId) :
    ListenerAction :=
  match current with
  | none => .attach
  | some current =>
    if !hasListener then .attach
    else if !active current.incarnation then .replace "capture inactive"
    else if current.ifaceName ≠ desiredIface ∨ current.mac ≠ desiredMac then
      .replace "adapter changed"
    else match current.sourceId, live with
      | _, .enumFailed => .keep
      | none, .enumerated _ => .replace "retry scoped attach"
      | some bound, .enumerated live =>
        if bound ≠ live then .replace "data source changed" else .keep

def modeCaptureAction (action : ListenerAction) (preserve : Bool) : ListenerAction :=
  if action = .replace "retry scoped attach" ∧ preserve = true then .keep else action

inductive CaptureHealth where
  | healthy
  | rxDead
  | quiet
  | fullyDead
  deriving DecidableEq

def captureHealth (payloadDelta selfDelta : ℕ) : CaptureHealth :=
  if payloadDelta > 0 then .healthy else if selfDelta > 0 then .rxDead else .quiet

inductive CaptureMode where
  | preferScoped
  | forcedUnscoped
  deriving DecidableEq

inductive AttemptEvent where
  | verdict (health : CaptureHealth)
  | activationTimedOut
  | activationChannelClosed
  | startFailed
  | joinTimedOut
  | shutdownSignalled
  deriving DecidableEq

inductive LadderAction where
  | done
  | rebaseline
  | restart (mode : CaptureMode)
  | exhaust
  | abort
  deriving DecidableEq

def ladderMaxRestarts : ℕ := 2

def nextLadderStep (event : AttemptEvent) (restartsUsed : ℕ) : LadderAction :=
  match event with
  | .shutdownSignalled => .abort
  | .verdict .healthy => .done
  | .verdict .quiet => .rebaseline
  | .verdict _ =>
    if restartsUsed = 0 then .restart .preferScoped
    else if restartsUsed < ladderMaxRestarts then .restart .forcedUnscoped
    else .exhaust
  | .activationTimedOut | .activationChannelClosed | .startFailed | .joinTimedOut => .exhaust

def maxQuietWindows : ℕ := 30

def quietExhaustEvent (linkUp : Option Bool) : Option CaptureHealth :=
  if linkUp = some true then some .fullyDead else none

/-- What a start asks of the listener. -/
structure CaptureRequest where
  ifaceName : String
  ownMac : Option (List UInt8)
  ifaceIsUp : Bool
  preserveCapture : Bool
  deriving DecidableEq

/-- Where `ensure_capture_listener` is waiting. -/
inductive EnsureStage where
  | look
  | compare (hasListener : Bool)
  | probe (hasListener : Bool)
  | choose (hasListener : Bool) (live : LiveSourceId)
  | retained (action : ListenerAction)
  | retire
  | deactivate
  | takeOld
  | parkOld (handle : ℕ)
  | drain
  | install (handle : ℕ)
  | activation (handle : ℕ)
  | takeFailed
  | parkFailed (handle : ℕ)
  | identify (handle : ℕ) (outcome : ScopeOutcome)
  | announce (outcome : ScopeOutcome)
  deriving DecidableEq

/-- Where `stop_capture_locked` is waiting. -/
inductive StopStage where
  | retire
  | deactivate
  | take
  | park (handle : ℕ)
  deriving DecidableEq

/-- The channel the watchdog awaits an activation on. -/
inductive ActivationRx where
  | resolved (outcome : ScopeOutcome)
  | thread (handle : ℕ)
  deriving DecidableEq

/-- Where `watchdog_ladder` is waiting. -/
inductive LadderStage where
  | activation (rx : ActivationRx)
  | identify (outcome : ScopeOutcome)
  | announce (outcome : ScopeOutcome)
  | counters (quietWindows : ℕ)
  | window (quietWindows : ℕ)
  | linkState
  | takeUnconfirmed
  | parkUnconfirmed (handle : ℕ)
  | retire (mode : CaptureMode)
  | deactivate (mode : CaptureMode)
  | takeDeaf (mode : CaptureMode)
  | join (handle : ℕ) (mode : CaptureMode)
  | parkWedged (handle : ℕ)
  | drain (mode : CaptureMode)
  | install (handle : ℕ)
  | parkStale (handle : ℕ)
  | adopt (handle : ℕ)
  | exhausted
  deriving DecidableEq

/-- The handles in the hands of the watchdog. -/
def LadderStage.owned : LadderStage → List ℕ
  | .parkUnconfirmed handle | .join handle _ | .parkWedged handle | .install handle
  | .parkStale handle => [handle]
  | _ => []

/-- The watchdog of a discovery session, under the fence of its generation. -/
structure Watchdog where
  generation : ℕ
  restartsUsed : ℕ
  stage : LadderStage
  deriving DecidableEq

/-- What a stop of the session is a part of. -/
inductive Purpose where
  | start (request : CaptureRequest)
  | full
  | sessionOnly
  deriving DecidableEq

/-- The lifecycle operation that holds the lifecycle mutex. -/
inductive Lifecycle where
  | idle
  | stopAdoption (purpose : Purpose)
  | stopWatchdog (purpose : Purpose)
  | ensure (request : CaptureRequest) (stage : EnsureStage)
  | stopCapture (stage : StopStage)
  deriving DecidableEq

/-- What a wait ends with. -/
inductive Input where
  | next
  | timeout
  | shutdown
  | live (live : LiveSourceId)
  | reap (handle : ℕ)
  | frames (payloadDelta selfDelta : ℕ)
  | link (linkUp : Option Bool)
  deriving DecidableEq

structure CaptureHost where
  threads : ℕ → CaptureThread
  started : ℕ
  arpListenerHandle : Option ℕ
  priorCaptureJoins : List ℕ
  captureIdentity : Option CaptureIdentity
  signalActive : Bool
  outcome : Option ScopeOutcome
  discoveryGeneration : ℕ
  discoveryActive : Bool
  lifecycle : Lifecycle
  watchdog : Option Watchdog
  shutdown : Bool
  /-- The threads whose frames changed the device map, the candidates or the registry. -/
  merged : List ℕ

namespace CaptureHost

variable (s : CaptureHost)

def initial : CaptureHost where
  threads := fun _ => ⟨.pending, false, false, false⟩
  started := 0
  arpListenerHandle := none
  priorCaptureJoins := []
  captureIdentity := none
  signalActive := false
  outcome := none
  discoveryGeneration := 0
  discoveryActive := false
  lifecycle := .idle
  watchdog := none
  shutdown := false
  merged := []

def update (handle : ℕ) (f : CaptureThread → CaptureThread) : CaptureHost :=
  { s with threads := Function.update s.threads handle (f (s.threads handle)) }

/-- The shutdown of a handle is sent, or its sender dropped. -/
def stopThread (handle : ℕ) : CaptureHost := s.update handle ({ · with stopped := true })

/-- The flag of an incarnation goes false for ever. -/
def retire (handle : ℕ) : CaptureHost := s.update handle ({ · with active := false })

def retireIdentity : CaptureHost :=
  { s with threads := match s.captureIdentity with
      | none => s.threads
      | some identity => (s.retire identity.incarnation).threads }

/-- A thread is started for a fresh incarnation. -/
def startThread : CaptureHost :=
  { s with
    threads := Function.update s.threads s.started ⟨.pending, false, false, true⟩
    started := s.started + 1 }

/-- `stop_into_join`, and the join is parked. -/
def park (handle : ℕ) : CaptureHost :=
  { s.stopThread handle with priorCaptureJoins := s.priorCaptureJoins ++ [handle] }

def stale (generation : ℕ) : Bool :=
  !s.discoveryActive || generation != s.discoveryGeneration

/-- The listener is in place; on a link that is up the session starts, with its watchdog. -/
def startSession (request : CaptureRequest) (outcome : ScopeOutcome) : CaptureHost :=
  if request.ifaceIsUp then { s with
    lifecycle := .idle
    discoveryGeneration := s.discoveryGeneration + 1
    discoveryActive := true
    shutdown := false
    watchdog := some ⟨s.discoveryGeneration + 1, 0, .activation (.resolved outcome)⟩ }
  else { s with lifecycle := .idle }

/-- The first lock of `park_capture_handle` on a failure path. -/
def takeHandle (gone : CaptureHost) (taken : ℕ → CaptureHost → CaptureHost) : CaptureHost :=
  match s.arpListenerHandle with
  | none => gone
  | some handle => taken handle { s with arpListenerHandle := none }

def ensureStep (request : CaptureRequest) (stage : EnsureStage) (input : Input) :
    Option CaptureHost :=
  let at' := fun stage (s : CaptureHost) => { s with lifecycle := .ensure request stage }
  match stage, input with
  | .look, .next => some (at' (.compare s.arpListenerHandle.isSome) s)
  | .compare hasListener, .next =>
    let sameAdapter := s.captureIdentity.any fun c =>
      c.ifaceName == request.ifaceName && c.mac == request.ownMac
    some (at' (if hasListener && sameAdapter then .probe hasListener
      else .choose hasListener .enumFailed) s)
  | .probe hasListener, .live live => some (at' (.choose hasListener live) s)
  | .choose hasListener live, .next =>
    let action := listenerAction s.captureIdentity (fun i => (s.threads i).active) hasListener
      request.ifaceName request.ownMac live
    some (at' (.retained (modeCaptureAction action request.preserveCapture)) s)
  | .retained action, .next =>
    match action, s.outcome with
    | .keep, some outcome => some (s.startSession request outcome)
    | _, _ => some (at' .retire s)
  | .retire, .next => some (at' .deactivate { s.retireIdentity with captureIdentity := none })
  | .deactivate, .next => some (at' .takeOld { s with signalActive := false })
  | .takeOld, .next => some (s.takeHandle (at' .drain s) fun handle s => at' (.parkOld handle) s)
  | .parkOld handle, .next => some (at' .drain (s.park handle))
  | .drain, .reap handle =>
    if handle ∈ s.priorCaptureJoins ∧ (s.threads handle).exited then
      some { s with priorCaptureJoins := s.priorCaptureJoins.filter (· ≠ handle) } else none
  | .drain, .next =>
    if s.priorCaptureJoins = [] then some (at' (.install s.started) s.startThread) else none
  | .drain, .timeout =>
    if s.priorCaptureJoins = [] then none else some { s with lifecycle := .idle }
  | .install handle, .next =>
    some (at' (.activation handle) { s with arpListenerHandle := some handle })
  | .activation handle, .next =>
    match (s.threads handle).activation with
    | .pending => none
    | .confirmed outcome =>
      if request.ifaceIsUp || outcome.selectsInterface then
        some (at' (.identify handle outcome) s)
      else some (at' .takeFailed (s.retire handle))
    | .failed | .closed => some (at' .takeFailed (s.retire handle))
  | .activation handle, .timeout =>
    if (s.threads handle).activation = .pending then some (at' .takeFailed (s.retire handle))
    else none
  | .takeFailed, .next => some (s.takeHandle { s with lifecycle := .idle } fun handle s =>
      at' (.parkFailed handle) s)
  | .parkFailed handle, .next => some { s.park handle with lifecycle := .idle }
  | .identify handle outcome, .next => some (at' (.announce outcome) { s with
      captureIdentity := some ⟨request.ifaceName, request.ownMac, outcome.sourceId, handle⟩ })
  | .announce outcome, .next =>
    some ({ s with signalActive := true, outcome := some outcome }.startSession request outcome)
  | _, _ => none

def stopCaptureStep (stage : StopStage) (input : Input) : Option CaptureHost :=
  let at' := fun stage (s : CaptureHost) => { s with lifecycle := .stopCapture stage }
  match stage, input with
  | .retire, .next => some (at' .deactivate { s.retireIdentity with captureIdentity := none })
  | .deactivate, .next => some (at' .take { s with signalActive := false })
  | .take, .next =>
    some (s.takeHandle { s with lifecycle := .idle } fun handle s => at' (.park handle) s)
  | .park handle, .next => some { s.park handle with lifecycle := .idle }
  | _, _ => none

/-- What the operation does once the session is stopped. -/
def afterStop : Purpose → CaptureHost
  | .start request => { s with lifecycle := .ensure request .look }
  | .full => { s with lifecycle := .stopCapture .retire }
  | .sessionOnly => { s with lifecycle := .idle }

/-- The watchdog's future is dropped, and the handles it holds with it. -/
def abortWatchdog : CaptureHost :=
  match s.watchdog with
  | none => s
  | some watchdog =>
    { watchdog.stage.owned.foldl stopThread s with watchdog := none }

def lifecycleStep (input : Input) : Option CaptureHost :=
  match s.lifecycle, input with
  | .stopAdoption purpose, .next =>
    some { s with shutdown := true, lifecycle := .stopWatchdog purpose }
  | .stopWatchdog purpose, .next => if s.watchdog = none then some (s.afterStop purpose) else none
  | .stopWatchdog purpose, .timeout =>
    if s.watchdog = none then none else some (s.abortWatchdog.afterStop purpose)
  | .ensure request stage, input => s.ensureStep request stage input
  | .stopCapture stage, input => s.stopCaptureStep stage input
  | _, _ => none

/-- The ladder acts on an event. -/
def ladderAct (w : Watchdog) (event : AttemptEvent) (quietWindows : ℕ) : CaptureHost :=
  let at' := fun stage => { s with watchdog := some { w with stage := stage } }
  match nextLadderStep event w.restartsUsed with
  | .done | .abort => { s with watchdog := none }
  | .rebaseline =>
    if quietWindows + 1 ≥ maxQuietWindows then at' .linkState else at' (.counters (quietWindows + 1))
  | .restart mode => at' (.retire mode)
  | .exhaust => at' .exhausted

def received : ActivationRx → Activation
  | .resolved outcome => .confirmed outcome
  | .thread handle => (s.threads handle).activation

def ladderStep (w : Watchdog) (input : Input) : Option CaptureHost :=
  let at' := fun stage (s : CaptureHost) => { s with watchdog := some { w with stage := stage } }
  let ended := { s with watchdog := none }
  match w.stage, input with
  | .activation _, .shutdown =>
    if s.shutdown then some (s.ladderAct w .shutdownSignalled 0) else none
  | .activation rx, .next =>
    match s.received rx with
    | .pending => none
    | .confirmed outcome =>
      if w.restartsUsed = 0 then some (at' (.counters 0) s)
      else if s.stale w.generation then some ended
      else some (at' (.identify outcome) s)
    | .failed => some (s.ladderAct w .startFailed 0)
    | .closed => some (s.ladderAct w .activationChannelClosed 0)
  | .activation rx, .timeout =>
    if s.received rx = .pending then some (at' .takeUnconfirmed s) else none
  | .identify outcome, .next =>
    let identity := s.captureIdentity.map fun c => { c with sourceId := outcome.sourceId }
    some (at' (.announce outcome) { s with captureIdentity := identity })
  | .announce outcome, .next =>
    some (at' (.counters 0) { s with signalActive := true, outcome := some outcome })
  | .counters quietWindows, .next =>
    some (if s.arpListenerHandle = none then ended else at' (.window quietWindows) s)
  | .window _, .shutdown => if s.shutdown then some ended else none
  | .window quietWindows, .frames payloadDelta selfDelta =>
    some (s.ladderAct w (.verdict (captureHealth payloadDelta selfDelta)) quietWindows)
  | .linkState, .link linkUp =>
    match quietExhaustEvent linkUp with
    | some verdict => some (s.ladderAct w (.verdict verdict) 0)
    | none => some ended
  | .takeUnconfirmed, .next => some (s.takeHandle (s.ladderAct w .activationTimedOut 0)
      fun handle s => at' (.parkUnconfirmed handle) s)
  | .parkUnconfirmed handle, .next => some ((s.park handle).ladderAct w .activationTimedOut 0)
  | .retire mode, .next => some (at' (.deactivate mode) s.retireIdentity)
  | .deactivate mode, .next => some (at' (.takeDeaf mode) { s with signalActive := false })
  | .takeDeaf mode, .next =>
    some (s.takeHandle ended fun handle s => at' (.join handle mode) (s.stopThread handle))
  | .join handle mode, .next =>
    if (s.threads handle).exited then some (at' (.drain mode) s) else none
  | .join handle _, .timeout =>
    if (s.threads handle).exited then none else some (at' (.parkWedged handle) s)
  | .parkWedged handle, .next => some ({ s with
      priorCaptureJoins := s.priorCaptureJoins ++ [handle] }.ladderAct w .joinTimedOut 0)
  | .drain _, .reap handle =>
    if handle ∈ s.priorCaptureJoins ∧ (s.threads handle).exited then
      some { s with priorCaptureJoins := s.priorCaptureJoins.filter (· ≠ handle) } else none
  | .drain _, .next =>
    if s.priorCaptureJoins = [] then some (at' (.install s.started) s.startThread) else none
  | .drain _, .timeout =>
    if s.priorCaptureJoins = [] then none else some (s.ladderAct w .startFailed 0)
  | .install handle, .next =>
    if s.stale w.generation then some (at' (.parkStale handle) (s.retire handle))
    else some (at' (.adopt handle) { s with arpListenerHandle := some handle })
  | .parkStale handle, .next => some { s.park handle with watchdog := none }
  | .adopt handle, .next =>
    let identity := s.captureIdentity.map fun c => { c with sourceId := none, incarnation := handle }
    some { s with
      captureIdentity := identity
      watchdog := some { w with
        restartsUsed := w.restartsUsed + 1, stage := .activation (.thread handle) } }
  | .exhausted, .next => some ended
  | _, _ => none

end CaptureHost

inductive Call where
  | begin (purpose : Purpose)
  /-- A refresh finds the adapter gone or another one selected. -/
  | loseAdapter
  | lifecycle (input : Input)
  | watchdog (input : Input)
  | activate (handle : ℕ) (outcome : ScopeOutcome)
  | startError (handle : ℕ)
  | exit (handle : ℕ)
  /-- A frame that the session of a thread heard comes to be merged. -/
  | frame (handle : ℕ)
  deriving DecidableEq

namespace CaptureHost

def step (s : CaptureHost) : Call → Option CaptureHost
  | .begin purpose =>
    if s.lifecycle = .idle then
      some { s with discoveryActive := false, lifecycle := .stopAdoption purpose } else none
  | .loseAdapter =>
    if s.lifecycle = .idle then some { s.retireIdentity with
      discoveryActive := false, lifecycle := .stopAdoption .full } else none
  | .lifecycle input => s.lifecycleStep input
  | .watchdog input => s.watchdog.bind fun w => s.ladderStep w input
  | .activate handle outcome =>
    if handle < s.started ∧ (s.threads handle).activation = .pending then
      some (s.update handle ({ · with activation := .confirmed outcome })) else none
  | .startError handle =>
    if handle < s.started ∧ (s.threads handle).activation = .pending then
      some (s.update handle ({ · with activation := .failed })) else none
  | .exit handle =>
    if handle < s.started ∧ (s.threads handle).exited = false then
      some (s.update handle fun t => { t with
        exited := true
        activation := if t.activation = .pending then .closed else t.activation }) else none
  | .frame handle =>
    if handle < s.started ∧ (s.threads handle).activation.isConfirmed then
      some (if (s.threads handle).active then { s with merged := handle :: s.merged } else s)
    else none

def machine : Machine CaptureHost Call where
  initial := initial
  step := step

end CaptureHost

end Capture

end PocketStream
