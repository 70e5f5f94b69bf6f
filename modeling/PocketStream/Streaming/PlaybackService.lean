import Mathlib.Logic.Function.Basic
import PocketStream.Foundation.Machine
import PocketStream.Streaming.PlaybackHealth
import PocketStream.Streaming.RelayState

/-! # The playback service

A start or a retry publishes an intent under a new epoch, a stop claims an epoch
before it withdraws one. The supervisor's step, the tail of a stop and the
recordings run under the lifecycle gate, one at a time, each from one await
point to the next; everything else may happen in between.
-/

namespace PocketStream

open Foundation

namespace Playback

/-- `wrapping_add(1)` of a 64-bit epoch. -/
def nextEpoch (epoch : ℕ) : ℕ := (epoch + 1) % 2 ^ 64

def samePlaybackSource (a b : AppSettings) : Bool :=
  a.stream.protocol == b.stream.protocol && a.stream.cameraIp == b.stream.cameraIp &&
    a.stream.cameraMac == b.stream.cameraMac && a.stream.rtspPort == b.stream.rtspPort &&
    a.stream.rtspPath == b.stream.rtspPath && a.stream.udpPort == b.stream.udpPort &&
    a.credentials.username == b.credentials.username &&
    a.credentials.password == b.credentials.password

def playbackSource (settings : AppSettings) : SourceMode :=
  match settings.stream.protocol with
  | .udp => .udp settings.stream.udpPort
  | .rtsp => .rtsp

/-- The desired settings with the corrections that a manual retry may apply. -/
def correctedSettings (current desired : AppSettings) : AppSettings :=
  let stream := if desired.stream.protocol = .rtsp then
      { desired.stream with rtspPath := current.stream.rtspPath, rtspPort := current.stream.rtspPort }
    else desired.stream
  { desired with credentials := current.credentials, stream := stream }

def preflightTarget (target : Option CameraTarget) (bound : Except String ReadyPath) :
    Except String (Option ReadyPath) :=
  match target with
  | none => .ok none
  | some _ => bound.map some

/-- The MAC and the interface index of the selected adapter. -/
abbrev AdapterIdentity := Option String × Option UInt32

/-- A pipeline, the epoch at its construction and the path of its recording branch. -/
structure Pipeline where
  health : ℕ
  generation : UInt64
  builtEpoch : ℕ
  alive : Bool
  branch : Option String

/-- What a step of the supervisor works on. -/
structure Attempt where
  epoch : ℕ
  health : ℕ
  settings : AppSettings
  target : Option CameraTarget

/-- What goes on after a pipeline is retired. -/
inductive After where
  | stop
  | step (a : Attempt) (snap : PlaybackHealth)

/-- Where the holder of the lifecycle gate is waiting. -/
inductive Gated where
  | idle
  | stopCheck (stopEpoch : ℕ)
  | stopSource
  | retireTake (after : After)
  | retireDetach (after : After) (pipeline : Option ℕ) (path : Option String)
  | retireReport (after : After) (path : Option String) (finalized : Except String Unit)
  | reserve (path : String)
  | rollback
  | stopRecording
  | detachRecording (pipeline : ℕ) (path : String)
  | clearRecording (path : String)
  | intent
  | current (a : Attempt)
  | selection (a : Attempt)
  | adapter (a : Attempt) (identity : AdapterIdentity)
  | installed (a : Attempt)
  | preflight (a : Attempt) (pipeline : Option ℕ)
  | checked (a : Attempt) (pipeline : Option ℕ) (result : Except String (Option ReadyPath))
  | ready (a : Attempt) (pipeline : Option ℕ) (result : Except String (Option ReadyPath))
  | compare (a : Attempt) (pipeline : Option ℕ) (snap : PlaybackHealth)
  | retired (a : Attempt) (snap : PlaybackHealth)
  | attempt (a : Attempt) (generation : UInt64)
  | build (a : Attempt) (generation : UInt64) (path : Option ReadyPath)
  | finalPath (a : Attempt) (generation : UInt64) (path : Option ReadyPath) (pipeline : ℕ)
  | play (a : Attempt) (generation : UInt64) (path : Option ReadyPath) (pipeline : ℕ)
      (final : Except String (Option ReadyPath))
  | install (a : Attempt) (generation : UInt64) (path : Option ReadyPath) (pipeline : ℕ)

/-- A call that waits for the state, or for the gate, and the epoch it has claimed or read. -/
inductive Pending where
  | start (startEpoch : ℕ) (settings : AppSettings)
  | retry (requestedEpoch : ℕ) (manual : Bool) (settings : Option AppSettings)
  | clear (stopEpoch : ℕ)
  | retire (stopEpoch : ℕ)
  deriving DecidableEq

/-- What a wait of the gate's holder ends with. An error is given by its text. -/
inductive Input where
  | next
  | selection (identity : Option AdapterIdentity)
  | bound (path : Except String ReadyPath)
  | built (result : Except String Unit)
  | played (stale : Bool) (result : Except String Unit)
  | fence (stale : Bool)
  | attached (result : Except String Unit)
  | finalized (result : Except String Unit)

structure Host where
  now : ℕ
  epoch : ℕ
  playbackTarget : Option CameraTarget
  playbackSettings : Option AppSettings
  playbackHealth : Option ℕ
  playbackIntentEpoch : Option ℕ
  playbackInstance : Option (ℕ × UInt64)
  playbackAdapter : Option AdapterIdentity
  playbackReady : Option (UInt32 × Ipv4Addr)
  recordingReport : Option String
  recordingFinalizedPath : Option String
  playback : Option ℕ
  recording : Bool
  recordingPath : Option String
  source : Option SourceMode
  healths : ℕ → PlaybackHealth
  healthCount : ℕ
  pipelines : ℕ → Pipeline
  pipelineCount : ℕ
  gate : Gated
  pending : List Pending
  /-- The pipeline that the recording was reserved for. -/
  recordingOn : Option ℕ
  /-- The paths of the recordings that were attached, and those that a stop or a retirement told. -/
  attached : List String
  reported : List String
  /-- A start was called since the last stop. -/
  startedSince : Bool

namespace Host

variable (s : Host)

def initial : Host where
  now := 0
  epoch := 0
  playbackTarget := none
  playbackSettings := none
  playbackHealth := none
  playbackIntentEpoch := none
  playbackInstance := none
  playbackAdapter := none
  playbackReady := none
  recordingReport := none
  recordingFinalizedPath := none
  playback := none
  recording := false
  recordingPath := none
  source := none
  healths := fun _ => .new 0
  healthCount := 0
  pipelines := fun _ => ⟨0, 0, 0, false, none⟩
  pipelineCount := 0
  gate := .idle
  pending := []
  recordingOn := none
  attached := []
  reported := []
  startedSince := false

def onHealth (health : ℕ) (f : PlaybackHealth → PlaybackHealth) : Host :=
  { s with healths := Function.update s.healths health (f (s.healths health)) }

def onPipeline (pipeline : ℕ) (f : Pipeline → Pipeline) : Host :=
  { s with pipelines := Function.update s.pipelines pipeline (f (s.pipelines pipeline)) }

/-- `PlaybackPipeline::stop`, or the drop of the last reference. -/
def stopPipeline (pipeline : Option ℕ) : Host :=
  { s with pipelines := match pipeline with
      | none => s.pipelines
      | some p => (s.onPipeline p ({ · with alive := false })).pipelines }

def stopHealth : Host :=
  { s with healths := match s.playbackHealth with
      | none => s.healths
      | some health => (s.onHealth health .stop).healths }

/-- A new intent with its own health record replaces the old one. -/
def publish (settings : AppSettings) (epoch : ℕ) : Host :=
  { s.stopHealth with
    epoch := epoch
    healths := Function.update s.stopHealth.healths s.healthCount (.new s.now)
    healthCount := s.healthCount + 1
    playbackSettings := some settings
    playbackHealth := some s.healthCount
    playbackIntentEpoch := some epoch }

/-- A start that gets the state, with the relay's half of it. -/
def resumeStart (startEpoch : ℕ) (settings : AppSettings) (relay : RelayData) : Host :=
  let guarded := if settings.stream.protocol = .udp then
      guardPlayback relay settings.stream.udpPort else .ok ()
  match guarded with
  | .error _ => s
  | .ok () =>
    if s.playbackSettings.any (samePlaybackSource · settings) then s
    else if s.epoch ≠ startEpoch then s
    else { s.publish settings (nextEpoch startEpoch) with
      playbackTarget := streamTarget settings
      playbackAdapter := none
      playbackReady := none
      source := some (playbackSource settings) }

/-- The settings that a retry publishes in place of those in force. -/
def corrections (manual : Bool) (settings : Option AppSettings) : Option AppSettings :=
  match settings, s.playbackSettings with
  | some current, some desired =>
    if manual ∧ samePlaybackSource desired (correctedSettings current desired) = false then
      some (correctedSettings current desired) else none
  | _, _ => none

def resumeRetry (requestedEpoch : ℕ) (manual : Bool) (settings : Option AppSettings) : Host :=
  if s.epoch ≠ requestedEpoch then s
  else
    let s := match s.corrections manual settings with
      | some desired => s.publish desired (nextEpoch requestedEpoch)
      | none => s
    match s.playbackHealth with
    | none => s
    | some health =>
      s.onHealth health fun h => if manual then h.retry s.now else h.wakeReady s.now

def resumeClear (stopEpoch : ℕ) : Host :=
  if s.playbackIntentEpoch.all (· < stopEpoch) then
    { s.stopHealth with
      playbackHealth := none
      playbackSettings := none
      playbackIntentEpoch := none
      playbackTarget := none
      playbackAdapter := none
      playbackReady := none }
  else s

/-- A waiting call goes on, a stop as far as its next wait. -/
def resume (call : Pending) (relay : RelayData) : Option Host :=
  let s' := { s with pending := s.pending.erase call }
  if call ∈ s.pending then
    match call with
    | .start startEpoch settings => some (s'.resumeStart startEpoch settings relay)
    | .retry requestedEpoch manual settings => some (s'.resumeRetry requestedEpoch manual settings)
    | .clear stopEpoch =>
      some { s'.resumeClear stopEpoch with pending := .retire stopEpoch :: s'.pending }
    | .retire stopEpoch =>
      match s.gate with
      | .idle => some { s' with gate := .stopCheck stopEpoch }
      | _ => none
  else none

/-- `playback_is_current` -/
def isCurrent (a : Attempt) : Bool :=
  s.epoch == a.epoch && s.playbackIntentEpoch == some a.epoch &&
    s.playbackHealth == some a.health && s.playbackSettings.isSome

def deviceLoss (reason : String) : PlaybackFault := ⟨.deviceLoss, reason, true⟩

def configuration (reason : String) : PlaybackFault := ⟨.configuration, reason, false⟩

/-- A fault of the attempt, with the recovery that follows it. -/
def failAttempt (a : Attempt) (generation : UInt64) (reason : String) : Host :=
  s.onHealth a.health fun h =>
    (h.recordFault generation (deviceLoss reason)).scheduleRecovery s.now

/-- The health check of the pipeline, and the snapshot that is compared next. -/
def checkHealth (a : Attempt) (pipeline : Option ℕ) : Host :=
  let s := match pipeline with
    | none => s
    | some p => s.onHealth (s.pipelines p).health fun h => (h.watchdog s.now STALL_THRESHOLD).2
  { s with gate := .compare a pipeline (s.healths a.health) }

/-- Why a pipeline has lost its path. -/
def lostPath (pipeline : Option ℕ) (moved : Bool) (result : Except String (Option ReadyPath)) :
    Option String :=
  match pipeline, result with
  | none, _ => none
  | some _, .error reason => some reason
  | some _, .ok _ => if moved then some "Selected Ethernet source address changed" else none

/-- `update_playback_readiness`, and the fault of a pipeline whose path is lost. -/
def updateReadiness (a : Attempt) (pipeline : Option ℕ)
    (result : Except String (Option ReadyPath)) : Host :=
  let next := match result with
    | .ok (some path) => some (path.index, path.source)
    | _ => none
  let changed := next.isSome && s.playbackReady != next
  let woken := { s with playbackReady := next }.onHealth a.health fun h =>
    if changed then h.wakeReady s.now else h
  match lostPath pipeline (changed && s.playbackReady.isSome) result with
  | none => woken
  | some reason => woken.onHealth a.health fun h => h.recordFault h.generation (deviceLoss reason)

/-- The attempt that is due begins. -/
def beginDue (a : Attempt) (snap : PlaybackHealth) : Host :=
  if snap.state = .failed then { s with gate := .idle }
  else
    let s := if snap.active = false ∧ snap.nextRetry = none then
        s.onHealth a.health (·.scheduleRecovery s.now) else s
    if (s.healths a.health).due s.now then
      let s := s.onHealth a.health .beginAttempt
      { s with gate := .attempt a (s.healths a.health).generation }
    else { s with gate := .idle }

def afterRetire : After → Host
  | .stop => { s with gate := .stopSource }
  | .step a snap => { s with gate := .retired a snap }

def retireReason : After → String
  | .stop => "recording stopped"
  | .step .. => "recording stopped: stream lost"

/-- What a retirement says of the recording it ended. -/
def finalizeReport (after : After) : Except String Unit → String
  | .ok () => retireReason after
  | .error reason => retireReason after ++ "; finalize incomplete: " ++ reason

/-- The holder of the gate goes on to its next await point. -/
def advance (input : Input) : Option Host :=
  let idle := { s with gate := .idle }
  match s.gate, input with
  | .stopCheck stopEpoch, .next =>
    some { s with gate := if s.playbackInstance.all (·.1 < stopEpoch) then .retireTake .stop
      else .stopSource }
  | .stopSource, .next => some { idle with
      source := if s.playbackSettings.isNone then none else s.source }
  | .retireTake after, .next =>
    let taken := { s with
      recording := false, recordingPath := none, playbackInstance := none, playback := none }
    some (if s.recording then
        { taken with gate := .retireDetach after s.playback s.recordingPath }
      else (taken.stopPipeline s.playback).afterRetire after)
  | .retireDetach after pipeline path, .finalized result =>
    let finalized := match pipeline with
      | none => .error "Stream error: Recording pipeline unavailable"
      | some _ => result
    some { s.stopPipeline pipeline with gate := .retireReport after path finalized }
  | .retireReport after path finalized, .next =>
    let told := { s with
      recordingReport := some (finalizeReport after finalized)
      recordingFinalizedPath := path
      reported := path.toList ++ s.reported }
    some (told.afterRetire after)
  | .reserve path, .attached result =>
    let playing := s.playbackHealth.any fun h => (s.healths h).state = .playing
    if s.recording || !playing then some idle
    else
      let cleared := { s with recordingReport := none, recordingFinalizedPath := none }
      match s.playback with
      | none => some { cleared with gate := .idle }
      | some p =>
        let reserved := { cleared with
          recording := true, recordingPath := some path, recordingOn := some p }
        match result with
        | .ok () => some { reserved.onPipeline p ({ · with branch := some path }) with
            gate := .idle
            attached := path :: s.attached }
        | .error _ => some { reserved with gate := .rollback }
  | .rollback, .next => some { idle with recording := false, recordingPath := none }
  | .stopRecording, .next =>
    match s.recording, s.playback with
    | true, some p => some { s with gate := .detachRecording p (s.recordingPath.getD "unknown") }
    | _, _ => some idle
  | .detachRecording p path, .finalized result =>
    match result with
    | .error _ => some idle
    | .ok () => some { s.onPipeline p ({ · with branch := none }) with gate := .clearRecording path }
  | .clearRecording path, .next => some { idle with
      recording := false, recordingPath := none, reported := path :: s.reported }
  | .intent, .next =>
    match s.playbackIntentEpoch, s.playbackHealth, s.playbackSettings with
    | some epoch, some health, some settings =>
      some { s with gate := .current ⟨epoch, health, settings, s.playbackTarget⟩ }
    | _, _, _ => some idle
  | .current a, .next =>
    some (if s.isCurrent a then
      { s with gate := if a.target.isSome then .selection a else .installed a } else idle)
  | .selection a, .selection identity =>
    some { s with gate := match identity with
      | none => .installed a
      | some identity => .adapter a identity }
  | .adapter a identity, .next =>
    if s.epoch ≠ a.epoch ∨ s.playbackIntentEpoch ≠ some a.epoch then some idle
    else if s.playbackAdapter.any (· ≠ identity) then
      let next := nextEpoch a.epoch
      let generation := (s.healths a.health).generation
      let lost := s.onHealth a.health
        (·.recordFault generation (deviceLoss "Selected Ethernet adapter changed"))
      some { lost with
        epoch := next
        playbackIntentEpoch := some next
        playbackAdapter := some identity
        gate := .installed { a with epoch := next } }
    else some { s with playbackAdapter := some identity, gate := .installed a }
  | .installed a, .next =>
    some (if a.target.isSome ∧ (s.healths a.health).state ≠ .failed then
        { s with gate := .preflight a s.playback }
      else s.checkHealth a s.playback)
  | .preflight a pipeline, .bound result =>
    some { s with gate := .checked a pipeline (preflightTarget a.target result) }
  | .checked a pipeline result, .next =>
    some (if s.isCurrent a then { s with gate := .ready a pipeline result } else idle)
  | .ready a pipeline result, .next =>
    some ((s.updateReadiness a pipeline result).checkHealth a pipeline)
  | .compare a pipeline snap, .next =>
    some (if pipeline.isSome ∧
        (s.playbackInstance ≠ some (a.epoch, snap.generation) ∨ snap.active = false) then
        { s with gate := .retireTake (.step a snap) }
      else s.beginDue a snap)
  | .retired a snap, .next => some (if s.isCurrent a then s.beginDue a snap else idle)
  | .attempt a generation, .bound result =>
    some (match preflightTarget a.target result with
      | .error reason => { s.failAttempt a generation reason with gate := .idle }
      | .ok path => { s with gate := .build a generation path })
  | .build a generation path, .built result =>
    if s.isCurrent a then
      match result with
      | .error reason => some { s.onHealth a.health
          (·.recordFault generation (configuration reason)) with gate := .idle }
      | .ok () => some { s with
          pipelines := Function.update s.pipelines s.pipelineCount
            ⟨a.health, generation, s.epoch, true, none⟩
          pipelineCount := s.pipelineCount + 1
          gate := .finalPath a generation path s.pipelineCount }
    else some idle
  | .finalPath a generation path p, .bound result =>
    let target := (path.map (·.target)).or a.target
    some { s with gate := .play a generation path p (preflightTarget target result) }
  | .play a generation path p final, .played stale result =>
    if s.isCurrent a = false ∨ path.isSome ∧ stale = true then
      let reason := "Ethernet session changed during playback build"
      some { (s.failAttempt a generation reason).stopPipeline (some p) with gate := .idle }
    else match final with
    | .error reason =>
      some { (s.failAttempt a generation reason).stopPipeline (some p) with gate := .idle }
    | .ok _ =>
      let started := s.onHealth a.health (·.pipelineStarted s.now generation)
      let played := match result with
        | .ok () => started
        | .error reason =>
          started.onHealth a.health (·.recordFault generation (configuration reason))
      some { played with gate := .install a generation path p }
  | .install a generation path p, .fence stale =>
    if s.epoch ≠ a.epoch ∨ s.playbackIntentEpoch ≠ some a.epoch ∨ path.isSome ∧ stale = true then
      let reason := "Ethernet session changed during playback start"
      some { (s.failAttempt a generation reason).stopPipeline (some p) with gate := .idle }
    else
      some { s.stopPipeline s.playback with
        playbackTarget := (path.map (·.target)).or s.playbackTarget
        playback := some p
        playbackInstance := some (a.epoch, generation)
        gate := .idle }
  | _, _ => none

end Host

inductive Call where
  | start (settings : AppSettings)
  | retry (manual : Bool) (settings : Option AppSettings)
  | stop
  | startRecording (path : String)
  | stopRecording
  /-- The supervisor takes the gate for a step. -/
  | step
  | resume (call : Pending) (relay : RelayData)
  | advance (input : Input)
  /-- A pipeline delivers a frame, or reports a fault. -/
  | buffer (pipeline : ℕ)
  | fault (pipeline : ℕ) (fault : PlaybackFault)
  | tick (elapsed : ℕ)

namespace Host

/-- A call that only needs the gate. -/
def enter (s : Host) (stage : Gated) : Option Host :=
  match s.gate with
  | .idle => some { s with gate := stage }
  | _ => none

def step (s : Host) : Call → Option Host
  | .start settings => some { s with
      pending := .start s.epoch settings :: s.pending, startedSince := true }
  | .retry manual settings => some { s with
      pending := .retry s.epoch manual settings :: s.pending }
  | .stop => some { s with
      epoch := nextEpoch s.epoch
      pending := .clear (nextEpoch s.epoch) :: s.pending
      startedSince := false }
  | .startRecording path => s.enter (.reserve path)
  | .stopRecording => s.enter .stopRecording
  | .step => s.enter .intent
  | .resume call relay => s.resume call relay
  | .advance input => s.advance input
  | .buffer pipeline =>
    let p := s.pipelines pipeline
    if pipeline < s.pipelineCount then
      some (s.onHealth p.health (·.observeBuffer s.now p.generation)) else none
  | .fault pipeline fault =>
    let p := s.pipelines pipeline
    if pipeline < s.pipelineCount then
      some (s.onHealth p.health (·.recordFault p.generation fault)) else none
  | .tick elapsed => some { s with now := s.now + elapsed }

def machine : Machine Host Call where
  initial := initial
  step := step

end Host

end Playback

end PocketStream
