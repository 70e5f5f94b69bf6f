import PocketStream.Streaming.RelayHealth

/-! # Playback health

The health record of one playback intent. Pipelines report to it from their
callbacks, each with the generation it was built for. A generation is active
from the start of an attempt to its first fault, and while it is active no retry
is scheduled.
-/

namespace PocketStream

inductive PlaybackState | stopped | starting | playing | recovering | failed
  deriving DecidableEq, Repr

inductive PlaybackFaultKind where
  | busError
  | eos
  | firstFrameTimeout
  | frameStall
  | deviceLoss
  | configuration
  deriving DecidableEq, Repr

structure PlaybackFault where
  kind : PlaybackFaultKind
  reason : String
  retryable : Bool
  deriving DecidableEq

def STALL_THRESHOLD : ℕ := 3000

def RECOVERY_DELAYS : List ℕ := [0, 2000, 5000, 15000, 30000, 60000]

def recoveryDelay (attempt : UInt32) : ℕ :=
  RECOVERY_DELAYS.getD (min (attempt.toNat - 1) (RECOVERY_DELAYS.length - 1)) 0

/-- `PlaybackInner` -/
structure PlaybackHealth where
  state : PlaybackState
  generation : UInt64
  active : Bool
  firstFault : Option PlaybackFault
  fault : Option PlaybackFault
  started : Option ℕ
  lastBuffer : Option ℕ
  healthySince : Option ℕ
  attempt : UInt32
  nextRetry : Option ℕ
  deriving DecidableEq

namespace PlaybackHealth

variable (h : PlaybackHealth) (now : ℕ)

def new : PlaybackHealth where
  state := .starting
  generation := 0
  active := false
  firstFault := none
  fault := none
  started := none
  lastBuffer := none
  healthySince := none
  attempt := 0
  nextRetry := some now

def due : Bool := h.nextRetry.any (· ≤ now)

def beginAttempt : PlaybackHealth :=
  { h with
    generation := nextInstance h.generation
    active := true
    firstFault := none
    started := none
    lastBuffer := none
    healthySince := none
    nextRetry := none }

def pipelineStarted (generation : UInt64) : PlaybackHealth :=
  if h.active ∧ h.generation = generation then { h with started := some now } else h

def observeBuffer (generation : UInt64) : PlaybackHealth :=
  if h.active ∧ h.generation = generation then
    let healthySince := if h.lastBuffer.any (fun last => decide (now - last ≥ 3000)) then none
      else h.healthySince
    { h with
      lastBuffer := some now
      healthySince := healthySince.or (some now)
      state := .playing
      fault := none }
  else h

def recordFault (generation : UInt64) (fault : PlaybackFault) : PlaybackHealth :=
  if h.active ∧ h.generation = generation then
    { h with
      active := false
      firstFault := some fault
      state := if fault.retryable then .recovering else .failed
      fault := some fault
      healthySince := none
      nextRetry := none }
  else h

/-- The fault that `watchdog` finds, if any, and what it leaves. -/
def watchdog (stall : ℕ) : Option PlaybackFault × PlaybackHealth :=
  match h.firstFault with
  | some fault => (some fault, h)
  | none =>
    if !h.active then (none, h)
    else
      let fault : Option PlaybackFault := match h.lastBuffer with
        | some last =>
          if now - last ≥ stall then
            some ⟨.frameStall, "No usable frames for 3 seconds", true⟩ else none
        | none =>
          if h.started.any (fun t => decide (now - t ≥ FIRST_BUFFER_TIMEOUT)) then
            some ⟨.firstFrameTimeout, "No first frame within 15 seconds", true⟩ else none
      match fault with
      | some fault => (some fault, h.recordFault h.generation fault)
      | none =>
        (none, if h.healthySince.any (fun t => decide (now - t ≥ HEALTHY_RESET_WINDOW)) then
          { h with attempt := 0 } else h)

def scheduleRecovery : PlaybackHealth :=
  if h.state ≠ .recovering ∨ h.nextRetry.isSome then h
  else
    let attempt := saturatingSucc h.attempt
    { h with attempt := attempt, nextRetry := some (now + recoveryDelay attempt) }

def wakeReady : PlaybackHealth :=
  if h.state = .recovering ∧ h.nextRetry.isSome then { h with nextRetry := some now } else h

def retry : PlaybackHealth :=
  if h.state = .failed ∨ h.state = .recovering then
    { h with state := .recovering, active := false, nextRetry := some now, firstFault := none }
  else h

def stop : PlaybackHealth :=
  { h with active := false, state := .stopped, nextRetry := none, firstFault := none }

/-- While the generation is active no retry is scheduled. -/
def Settled : Prop := h.active = true → h.nextRetry = none

/-- `h'` follows from `h` by a call of a pipeline or of a user: the generation stays, nothing
becomes active, and no retry is scheduled unless one was. -/
structure Follows (h h' : PlaybackHealth) : Prop where
  generation : h'.generation = h.generation
  active : h.active = false → h'.active = false
  nextRetry : h.nextRetry = none → h'.nextRetry = none

variable {h now} {h' : PlaybackHealth} {generation : UInt64} {fault : PlaybackFault}

@[simp] theorem follows_refl : h.Follows h := ⟨rfl, id, id⟩

theorem Follows.trans {h₁ : PlaybackHealth} (hf : h.Follows h₁) (hf' : h₁.Follows h') :
    h.Follows h' where
  generation := hf'.generation.trans hf.generation
  active ha := hf'.active (hf.active ha)
  nextRetry hr := hf'.nextRetry (hf.nextRetry hr)

theorem Settled.follows (hs : h.Settled) (hf : h.Follows h') : h'.Settled := by
  intro ha
  apply hf.nextRetry
  apply hs
  by_contra hdown
  rw [hf.active (by simpa using hdown)] at ha
  cases ha

theorem follows_pipelineStarted : h.Follows (h.pipelineStarted now generation) := by
  unfold pipelineStarted
  split
  · exact ⟨rfl, id, id⟩
  · exact follows_refl

theorem follows_observeBuffer : h.Follows (h.observeBuffer now generation) := by
  unfold observeBuffer
  split
  · exact ⟨rfl, id, id⟩
  · exact follows_refl

theorem follows_recordFault : h.Follows (h.recordFault generation fault) := by
  unfold recordFault
  split
  · exact ⟨rfl, fun _ => rfl, fun _ => rfl⟩
  · exact follows_refl

theorem follows_watchdog {stall : ℕ} : h.Follows (h.watchdog now stall).2 := by
  unfold watchdog
  cases h.firstFault with
  | some fault => exact follows_refl
  | none =>
    dsimp only
    split
    · exact follows_refl
    · split
      · exact follows_recordFault
      · dsimp only
        split
        · exact ⟨rfl, id, id⟩
        · exact follows_refl

theorem follows_wakeReady : h.Follows (h.wakeReady now) := by
  unfold wakeReady
  split
  · next hsome => exact ⟨rfl, id, fun hnone => by simp [hnone] at hsome⟩
  · exact follows_refl

theorem follows_stop : h.Follows h.stop := ⟨rfl, fun _ => rfl, fun _ => rfl⟩

theorem settled_new : (new now).Settled := nofun

theorem settled_beginAttempt : h.beginAttempt.Settled := fun _ => rfl

theorem settled_retry (hs : h.Settled) : (h.retry now).Settled := by
  unfold retry
  split
  · exact nofun
  · exact hs

/-- After its generation has met a fault the record is not active. -/
theorem recordFault_inactive (hg : h.generation = generation) :
    (h.recordFault generation fault).active = false := by
  unfold recordFault
  split
  · rfl
  · next hnot => simpa [hg] using hnot

theorem scheduleRecovery_active : (h.scheduleRecovery now).active = h.active := by
  unfold scheduleRecovery
  split <;> rfl

theorem scheduleRecovery_generation : (h.scheduleRecovery now).generation = h.generation := by
  unfold scheduleRecovery
  split <;> rfl

theorem settled_of_inactive (ha : h.active = false) : h.Settled := by
  intro hup
  cases ha.symm.trans hup

end PlaybackHealth

end PocketStream
