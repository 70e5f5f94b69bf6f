import Mathlib.Data.Nat.Notation
import Mathlib.Data.UInt

/-! # Relay health

The health record of one explicitly started relay generation. Listener
instances and data pipelines report to it from their callbacks, each with the
instance it belongs to, and the first fault stays until the next instance.
Times are milliseconds.
-/

namespace PocketStream

inductive RelayState | stopped | listening | starting | streaming | recovering | failed
  deriving DecidableEq, Repr

inductive RelayFaultKind where
  | gstError
  | permanentGstError
  | eos
  | capability
  | mediaStatusError
  | firstBufferTimeout
  | bufferStall
  | mainLoopExited
  deriving DecidableEq, Repr

structure RelayFault where
  kind : RelayFaultKind
  reason : String
  serverGeneration : UInt64
  dataGeneration : UInt64
  deriving DecidableEq

inductive RelaySupervisorEvent where
  | fault (fault : RelayFault)
  | retryRequested (serverGeneration : UInt64)
  deriving DecidableEq

inductive RelayIngestKind | rtsp | udp
  deriving DecidableEq, Repr

def FIRST_BUFFER_TIMEOUT : ℕ := 15000

def STALL_WINDOW : ℕ := 5000

def STALL_CONFIRMATION : ℕ := 10000

def HEALTHY_RESET_WINDOW : ℕ := 30000

/-- `RECOVERY_DELAYS.len()` -/
def recoveryStages : UInt32 := 6

/-- `RelayRuntimeInner` -/
structure RelayHealth where
  serverGeneration : UInt64
  dataGeneration : UInt64
  activeDataGeneration : Option UInt64
  serverInstance : UInt64
  state : RelayState
  ingestKind : RelayIngestKind
  firstBufferArmedAt : Option ℕ
  lastBufferAt : Option ℕ
  healthySince : Option ℕ
  stallWarningEmitted : Bool
  firstFault : Option RelayFault
  error : Option String
  recoveryAttempt : UInt32
  consecutiveBindFailures : UInt32
  loopAlive : Bool

/-- `saturating_add(1)` -/
def saturatingSucc (n : UInt32) : UInt32 := if n + 1 = 0 then n else n + 1

/-- `wrapping_add(1).max(1)` -/
def nextInstance (n : UInt64) : UInt64 := max (n + 1) 1

namespace RelayHealth

def new (serverGeneration : UInt64) (ingestKind : RelayIngestKind) : RelayHealth where
  serverGeneration := serverGeneration
  dataGeneration := 0
  activeDataGeneration := none
  serverInstance := 0
  state := .starting
  ingestKind := ingestKind
  firstBufferArmedAt := none
  lastBufferAt := none
  healthySince := none
  stallWarningEmitted := false
  firstFault := none
  error := none
  recoveryAttempt := 0
  consecutiveBindFailures := 0
  loopAlive := false

def permanentFailure (h : RelayHealth) : Bool :=
  h.firstFault.any (·.kind == .permanentGstError)

def upstreamAllowed (h : RelayHealth) : Bool := h.state != .stopped && h.firstFault.isNone

/-- The state a retry is honoured in. -/
def retryable (h : RelayHealth) : Bool := h.state == .failed || h.state == .recovering

def beginServerInstance (h : RelayHealth) (recovering : Bool) : UInt64 × RelayHealth :=
  (nextInstance h.serverInstance,
    { h with
      serverInstance := nextInstance h.serverInstance
      activeDataGeneration := none
      firstBufferArmedAt := none
      lastBufferAt := none
      healthySince := none
      stallWarningEmitted := false
      firstFault := none
      loopAlive := false
      state := if recovering then .recovering else .starting })

def loopStarted (h : RelayHealth) (serverInstance : UInt64) : RelayHealth :=
  if h.serverInstance = serverInstance then { h with loopAlive := true } else h

def loopAliveFor (h : RelayHealth) (serverInstance : UInt64) : Bool :=
  h.serverInstance == serverInstance && h.loopAlive

def recordFaultLocked (h : RelayHealth) (kind : RelayFaultKind) (reason : String)
    (dataGeneration : UInt64) : Option RelayFault × RelayHealth :=
  if h.firstFault.isSome then (none, h)
  else
    let fault := ⟨kind, reason, h.serverGeneration, dataGeneration⟩
    (some fault, { h with firstFault := some fault, error := some reason })

def loopExited (h : RelayHealth) (serverInstance : UInt64) (intentional : Bool)
    (reason : String) : Option RelayFault × RelayHealth :=
  if h.serverInstance ≠ serverInstance then (none, h)
  else
    let h := { h with loopAlive := false }
    if intentional then (none, h)
    else
      h.recordFaultLocked .mainLoopExited reason (h.activeDataGeneration.getD h.dataGeneration)

def markListenerBound (h : RelayHealth) (serverInstance : UInt64) : RelayHealth :=
  if h.serverInstance ≠ serverInstance then h
  else
    let h := { h with consecutiveBindFailures := 0 }
    if h.firstFault.isSome then h
    else { h with
      error := none
      state := if h.activeDataGeneration.isNone then .listening else h.state }

def markBuildFailed (h : RelayHealth) (serverInstance : UInt64) (reason : String)
    (bindFailure : Bool) : RelayHealth :=
  if h.serverInstance ≠ serverInstance then h
  else { h with
    loopAlive := false
    error := some reason
    consecutiveBindFailures :=
      if bindFailure then saturatingSucc h.consecutiveBindFailures else 0
    state := .failed }

def scheduleRecoveryAttempt (h : RelayHealth) : UInt32 × RelayHealth :=
  (saturatingSucc h.recoveryAttempt,
    { h with recoveryAttempt := saturatingSucc h.recoveryAttempt })

def markRecoveryInProgress (h : RelayHealth) : RelayHealth := { h with state := .recovering }

def markResolutionFailed (h : RelayHealth) (reason : String) : RelayHealth :=
  { h with loopAlive := false, error := some reason, state := .failed }

def forceMaxBackoff (h : RelayHealth) : RelayHealth :=
  { h with recoveryAttempt := max h.recoveryAttempt recoveryStages }

def shouldReresolveExplicitBind (h : RelayHealth) : Bool := 3 ≤ h.consecutiveBindFailures

def beginDataGeneration (h : RelayHealth) (serverInstance : UInt64) :
    Option UInt64 × RelayHealth :=
  if h.serverInstance ≠ serverInstance ∨ h.firstFault.isSome then (none, h)
  else
    (some (nextInstance h.dataGeneration),
      { h with
        dataGeneration := nextInstance h.dataGeneration
        activeDataGeneration := some (nextInstance h.dataGeneration)
        firstBufferArmedAt := none
        lastBufferAt := none
        healthySince := none
        stallWarningEmitted := false
        firstFault := none
        error := none
        state := .starting })

def isCurrentData (h : RelayHealth) (serverInstance dataGeneration : UInt64) : Bool :=
  h.serverInstance == serverInstance && h.activeDataGeneration == some dataGeneration &&
    h.firstFault.isNone

def armFirstBuffer (h : RelayHealth) (serverInstance dataGeneration : UInt64) (now : ℕ) :
    RelayHealth :=
  if !h.isCurrentData serverInstance dataGeneration || h.lastBufferAt.isSome then h
  else { h with
    firstBufferArmedAt := some now
    state := if h.state = .listening then .starting else h.state }

def disarmFirstBuffer (h : RelayHealth) (serverInstance dataGeneration : UInt64) : RelayHealth :=
  if h.isCurrentData serverInstance dataGeneration && h.lastBufferAt.isNone then
    { h with firstBufferArmedAt := none }
  else h

def endDataGeneration (h : RelayHealth) (serverInstance dataGeneration : UInt64) : RelayHealth :=
  if !h.isCurrentData serverInstance dataGeneration then h
  else { h with
    activeDataGeneration := none
    firstBufferArmedAt := none
    lastBufferAt := none
    healthySince := none
    stallWarningEmitted := false
    state :=
      if h.firstFault.isNone && !h.retryable && h.loopAlive then .listening else h.state }

def observeBuffer (h : RelayHealth) (serverInstance dataGeneration : UInt64) (now : ℕ) :
    Bool × RelayHealth :=
  if !h.isCurrentData serverInstance dataGeneration then (false, h)
  else (true, { h with
    lastBufferAt := some now
    stallWarningEmitted := false
    healthySince := some (h.healthySince.getD now)
    state :=
      if h.state = .starting ∨ h.state = .recovering ∨ h.state = .listening then .streaming
      else h.state })

def reportStreamingWithoutBuffer (h : RelayHealth) (serverInstance dataGeneration : UInt64)
    (now : ℕ) : Bool × RelayHealth :=
  if !h.isCurrentData serverInstance dataGeneration then (false, h)
  else (true, { h with
    firstBufferArmedAt := none
    healthySince := some (h.healthySince.getD now)
    state := .streaming })

def reportFault (h : RelayHealth) (serverInstance dataGeneration : UInt64)
    (kind : RelayFaultKind) (reason : String) : Option RelayFault × RelayHealth :=
  if !h.isCurrentData serverInstance dataGeneration then (none, h)
  else h.recordFaultLocked kind reason dataGeneration

def acceptFault (h : RelayHealth) (fault : RelayFault) : Bool × RelayHealth :=
  if h.serverGeneration ≠ fault.serverGeneration ∨ h.firstFault ≠ some fault then (false, h)
  else (true, { h with
    activeDataGeneration := none
    firstBufferArmedAt := none
    healthySince := none
    state := if fault.kind = .permanentGstError then .failed else .recovering })

/-- The backoff starts over after a long healthy time. -/
def resetBackoff (h : RelayHealth) (now : ℕ) : RelayHealth :=
  if h.state = .streaming ∧ h.healthySince.any (HEALTHY_RESET_WINDOW ≤ now - ·) then
    { h with recoveryAttempt := 0 }
  else h

/-- Seconds with one decimal, rounded. -/
def secondsText (ms : ℕ) : String := s!"{(ms + 50) / 1000}.{(ms + 50) % 1000 / 100}"

/-- The stall checks after the last buffer. -/
def checkStall (h : RelayHealth) (last now : ℕ) : Option RelayFault × RelayHealth :=
  let elapsed := now - last
  let h :=
    if STALL_WINDOW ≤ elapsed ∧ h.stallWarningEmitted = false then
      { h with stallWarningEmitted := true, healthySince := none }
    else h
  if STALL_CONFIRMATION ≤ elapsed then
    h.recordFaultLocked .bufferStall
      s!"Re-stream output produced no buffers for {secondsText elapsed}s (two windows)"
      (h.activeDataGeneration.getD 0)
  else (none, h)

def checkFirstBuffer (h : RelayHealth) (started now : ℕ) : Option RelayFault × RelayHealth :=
  if FIRST_BUFFER_TIMEOUT ≤ now - started then
    h.recordFaultLocked .firstBufferTimeout
      s!"Re-stream output produced no first buffer for {(now - started) / 1000}s"
      (h.activeDataGeneration.getD 0)
  else (none, h)

def evaluateWatchdog (h : RelayHealth) (now : ℕ) : Option RelayFault × RelayHealth :=
  let h := h.resetBackoff now
  if h.ingestKind ≠ .rtsp ∨ h.firstFault.isSome ∨ h.activeDataGeneration.isNone then (none, h)
  else
    match h.lastBufferAt, h.firstBufferArmedAt with
    | some last, _ => h.checkStall last now
    | none, some started => h.checkFirstBuffer started now
    | none, none => (none, h)

def stop (h : RelayHealth) : RelayHealth :=
  { h with
    activeDataGeneration := none
    firstBufferArmedAt := none
    lastBufferAt := none
    healthySince := none
    firstFault := none
    error := none
    loopAlive := false
    state := .stopped }

end RelayHealth

/-- What the callbacks of a listener report, each for the instance of the listener. -/
inductive RelayCallback where
  | loopStarted
  | loopExited (intentional : Bool) (reason : String)
  | markListenerBound
  | beginDataGeneration
  | armFirstBuffer (dataGeneration : UInt64) (now : ℕ)
  | disarmFirstBuffer (dataGeneration : UInt64)
  | endDataGeneration (dataGeneration : UInt64)
  | observeBuffer (dataGeneration : UInt64) (now : ℕ)
  | reportStreaming (dataGeneration : UInt64) (now : ℕ)
  | reportFault (dataGeneration : UInt64) (kind : RelayFaultKind) (reason : String)

/-- A callback with the fault it has sent to the supervisor, if any. -/
def RelayHealth.callback (h : RelayHealth) (serverInstance : UInt64) :
    RelayCallback → Option RelayFault × RelayHealth
  | .loopStarted => (none, h.loopStarted serverInstance)
  | .loopExited intentional reason => h.loopExited serverInstance intentional reason
  | .markListenerBound => (none, h.markListenerBound serverInstance)
  | .beginDataGeneration => (none, (h.beginDataGeneration serverInstance).2)
  | .armFirstBuffer dataGeneration now =>
    (none, h.armFirstBuffer serverInstance dataGeneration now)
  | .disarmFirstBuffer dataGeneration => (none, h.disarmFirstBuffer serverInstance dataGeneration)
  | .endDataGeneration dataGeneration => (none, h.endDataGeneration serverInstance dataGeneration)
  | .observeBuffer dataGeneration now =>
    (none, (h.observeBuffer serverInstance dataGeneration now).2)
  | .reportStreaming dataGeneration now =>
    (none, (h.reportStreamingWithoutBuffer serverInstance dataGeneration now).2)
  | .reportFault dataGeneration kind reason =>
    h.reportFault serverInstance dataGeneration kind reason

namespace RelayHealth

variable {h : RelayHealth} {i : UInt64} {c : RelayCallback}

/-- A report changes neither the generation nor the instance. -/
theorem callback_identity (h : RelayHealth) (i : UInt64) (c : RelayCallback) :
    (h.callback i c).2.serverGeneration = h.serverGeneration ∧
      (h.callback i c).2.serverInstance = h.serverInstance := by
  cases c <;> simp only [callback, loopStarted, loopExited, recordFaultLocked, markListenerBound,
    beginDataGeneration, armFirstBuffer, disarmFirstBuffer, endDataGeneration, observeBuffer,
    reportStreamingWithoutBuffer, reportFault] <;> grind

theorem callback_other (hi : h.serverInstance ≠ i) (c : RelayCallback) :
    h.callback i c = (none, h) := by
  cases c <;> simp [callback, loopStarted, loopExited, markListenerBound, beginDataGeneration,
    armFirstBuffer, disarmFirstBuffer, endDataGeneration, observeBuffer,
    reportStreamingWithoutBuffer, reportFault, isCurrentData, hi]

/-- After its first fault an instance reports nothing that counts. -/
theorem callback_faulted (hf : h.firstFault.isSome = true) (i : UInt64) (c : RelayCallback) :
    (h.callback i c).2.firstFault = h.firstFault ∧ (h.callback i c).2.state = h.state := by
  cases c <;> simp only [callback, loopStarted, loopExited, recordFaultLocked, markListenerBound,
    beginDataGeneration, armFirstBuffer, disarmFirstBuffer, endDataGeneration, observeBuffer,
    reportStreamingWithoutBuffer, reportFault, isCurrentData] <;> grind

/-- Data that flows without a fault is not up for a retry. -/
def Steady (h : RelayHealth) : Prop :=
  h.firstFault = none → h.activeDataGeneration.isSome = true → h.retryable = false

theorem markBuildFailed_generation (h : RelayHealth) (i : UInt64) (reason : String)
    (bindFailure : Bool) :
    (h.markBuildFailed i reason bindFailure).serverGeneration = h.serverGeneration := by
  unfold markBuildFailed
  split <;> rfl

theorem markListenerBound_generation (h : RelayHealth) (i : UInt64) :
    (h.markListenerBound i).serverGeneration = h.serverGeneration := by
  unfold markListenerBound
  split
  · rfl
  · simp only
    split <;> rfl

/-- Untouched since its generation was installed. -/
structure Pristine (h : RelayHealth) : Prop where
  starting : h.state = .starting
  faultless : h.firstFault = none
  dataless : h.activeDataGeneration = none

theorem pristine_new (g : UInt64) (kind : RelayIngestKind) : (new g kind).Pristine := ⟨rfl, rfl, rfl⟩

theorem Pristine.not_retryable (hp : h.Pristine) : h.retryable = false := by
  simp [retryable, hp.starting]

theorem watchdog_keeps (h : RelayHealth) (now : ℕ) :
    (h.evaluateWatchdog now).2.serverGeneration = h.serverGeneration ∧
      (h.evaluateWatchdog now).2.serverInstance = h.serverInstance ∧
      (h.evaluateWatchdog now).2.state = h.state ∧
      (h.firstFault.isSome = true → (h.evaluateWatchdog now).2.firstFault = h.firstFault) := by
  simp only [evaluateWatchdog, resetBackoff, checkStall, checkFirstBuffer, recordFaultLocked]
  grind

theorem Pristine.watchdog (hp : h.Pristine) (now : ℕ) : (h.evaluateWatchdog now).2.Pristine := by
  obtain ⟨h1, h2, h3⟩ := hp
  constructor <;>
    simp [evaluateWatchdog, resetBackoff, h1, h2, h3]

/-- A fault is accepted only as the first one of its instance. -/
theorem acceptFault_cases (h : RelayHealth) (fault : RelayFault) :
    (h.acceptFault fault = (false, h)) ∨
      ((h.acceptFault fault).1 = true ∧ h.firstFault = some fault ∧
        (h.acceptFault fault).2.firstFault = some fault ∧
        (h.acceptFault fault).2.retryable = true ∧
        (h.acceptFault fault).2.serverGeneration = h.serverGeneration ∧
        (h.acceptFault fault).2.serverInstance = h.serverInstance) := by
  simp only [acceptFault, retryable]
  grind

end RelayHealth

end PocketStream
