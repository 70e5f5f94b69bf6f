import PocketStream.Foundation.Ranked
import PocketStream.Network.CaptureSession

/-! # The watchdog ladder

After each activation a checkpoint window proves that the capture delivers, once traffic was
solicited in it. A deaf session is restarted, a quiet one held for a while; when nothing is
left the ladder reports the discovery degraded and polls for a late recovery. A stop makes the
fence stale before it signals the watchdog or takes the handle. Times are milliseconds.
-/

namespace PocketStream

open Foundation

namespace Capture

structure CounterSnapshot where
  framesSeen : ℕ
  localMacDropped : ℕ
  deriving DecidableEq

structure Solicitation where
  generation : ℕ
  instant : ℕ
  baseline : CounterSnapshot
  deriving DecidableEq

/-- `CAPTURE_ACTIVATION_TIMEOUT` -/
def captureActivationTimeout : ℕ := 15000

/-- `CAPTURE_JOIN_TIMEOUT` -/
def captureJoinTimeout : ℕ := 10000

def initialWindow : ℕ := 10000

def poll : ℕ := 2000

def maxWatch : ℕ := 300000

/-- The value a window waits for: of this generation, and not of an earlier attempt. -/
def Solicitation.arms (generation : ℕ) (after : Option ℕ) (value : Solicitation) : Bool :=
  value.generation == generation && after.all (· ≤ value.instant)

/-- The deltas that `watch_window` returns. -/
def Solicitation.deltas (solicitation : Solicitation) (now : CounterSnapshot) : ℕ × ℕ :=
  (now.framesSeen - solicitation.baseline.framesSeen,
    now.localMacDropped - solicitation.baseline.localMacDropped)

inductive DiscoveryEvent where
  | degraded
  | recovered
  deriving DecidableEq

/-- Where the ladder is waiting. -/
inductive Rung where
  | activation (due : ℕ)
  | parkUnconfirmed
  | counters (quietWindows : ℕ)
  | solicitation (quietWindows : ℕ)
  | window (quietWindows : ℕ) (solicitation : Solicitation)
  | linkState
  | takeDeaf (mode : CaptureMode)
  | join (mode : CaptureMode) (due : ℕ)
  | start (mode : CaptureMode)
  | install (mode : CaptureMode)
  | exhausted
  | recovery
  | polling (baseline waited due : ℕ)
  | ended
  deriving DecidableEq

/-- What a wait ends with, and what happens beside the ladder. -/
inductive LadderInput where
  | next
  | timeout
  | cancel
  | activated (activation : Activation)
  | solicited (value : Option Solicitation)
  | sampled (now : CounterSnapshot)
  | link (linkUp : Option Bool)
  | joined
  | restarted (started : Bool)
  | elapse (time : ℕ)
  /-- A stop makes the fence stale. -/
  | fence
  /-- It signals the watchdog. -/
  | signal
  /-- It takes the handle. -/
  | takeHandle
  /-- It drops the watchdog. -/
  | abort
  deriving DecidableEq

structure Ladder where
  rung : Rung
  restartsUsed : ℕ
  windowAfter : Option ℕ
  /-- A handle is in the listener slot. -/
  slot : Bool
  stale : Bool
  shutdown : Bool
  /-- A stop took the handle. -/
  taken : Bool
  clock : ℕ
  /-- The modes of the restarts that were begun. -/
  restarts : List CaptureMode
  /-- The modes of the sessions that were installed. -/
  installed : List CaptureMode
  /-- The deltas of the windows that were evaluated. -/
  windows : List (ℕ × ℕ)
  /-- The link states that were read. -/
  readings : List (Option Bool)
  emitted : List DiscoveryEvent
  deriving DecidableEq

namespace Ladder

def initial : Ladder where
  rung := .activation captureActivationTimeout
  restartsUsed := 0
  windowAfter := none
  slot := true
  stale := false
  shutdown := false
  taken := false
  clock := 0
  restarts := []
  installed := []
  windows := []
  readings := []
  emitted := []

variable (s : Ladder)

/-- The ladder goes on to wait at a rung. -/
def moveTo (rung : Rung) : Ladder := { s with rung := rung }

/-- The ladder acts on an event. -/
def act (event : AttemptEvent) (quietWindows : ℕ) : Ladder :=
  match nextLadderStep event s.restartsUsed with
  | .done | .abort => s.moveTo .ended
  | .rebaseline =>
    if quietWindows + 1 ≥ maxQuietWindows then s.moveTo .linkState
    else s.moveTo (.counters (quietWindows + 1))
  | .restart mode => { s with rung := .takeDeaf mode, restarts := s.restarts ++ [mode] }
  | .exhaust => s.moveTo .exhausted

/-- What the activation channel says. -/
def activated (activation : Activation) : Option Ladder :=
  match activation with
  | .pending => none
  | .confirmed _ =>
    some (if 0 < s.restartsUsed ∧ s.stale = true then s.moveTo .ended else s.moveTo (.counters 0))
  | .failed => some (s.act .startFailed 0)
  | .closed => some (s.act .activationChannelClosed 0)

def evaluate (quietWindows : ℕ) (deltas : ℕ × ℕ) : Ladder :=
  { s with windowAfter := some s.clock, windows := s.windows ++ [deltas] }.act
    (.verdict (captureHealth deltas.1 deltas.2)) quietWindows

def confirmLink (linkUp : Option Bool) : Ladder :=
  let read := { s with readings := s.readings ++ [linkUp] }
  match quietExhaustEvent linkUp with
  | some verdict => read.act (.verdict verdict) 0
  | none => read.moveTo .ended

def installSession (mode : CaptureMode) : Ladder :=
  if s.stale then s.moveTo .ended
  else { s with
    rung := .activation (s.clock + captureActivationTimeout)
    restartsUsed := s.restartsUsed + 1
    windowAfter := some s.clock
    slot := true
    installed := s.installed ++ [mode] }

def pollOnce (baseline waited framesSeen : ℕ) : Ladder :=
  if framesSeen > baseline then { s with rung := .ended, emitted := s.emitted ++ [.recovered] }
  else if waited + poll < maxWatch then
    s.moveTo (.polling baseline (waited + poll) (s.clock + poll))
  else s.moveTo .ended

/-- One wait of the ladder ends. -/
def climb (generation : ℕ) (input : LadderInput) : Option Ladder :=
  match s.rung, input with
  | .activation _, .cancel => if s.shutdown then some (s.act .shutdownSignalled 0) else none
  | .activation _, .activated activation => s.activated activation
  | .activation due, .timeout => if due ≤ s.clock then some (s.moveTo .parkUnconfirmed) else none
  | .parkUnconfirmed, .next => some ({ s with slot := false }.act .activationTimedOut 0)
  | .counters quietWindows, .next =>
    some (if s.slot then s.moveTo (.solicitation quietWindows) else s.moveTo .ended)
  | .solicitation _, .cancel => if s.shutdown then some (s.moveTo .ended) else none
  | .solicitation quietWindows, .solicited value =>
    match value.filter (·.arms generation s.windowAfter) with
    | some solicitation => some (s.moveTo (.window quietWindows solicitation))
    | none => some s
  | .window _ _, .cancel => if s.shutdown then some (s.moveTo .ended) else none
  | .window quietWindows solicitation, .sampled now =>
    if solicitation.instant + initialWindow ≤ s.clock then
      some (s.evaluate quietWindows (solicitation.deltas now)) else none
  | .linkState, .link linkUp => some (s.confirmLink linkUp)
  | .takeDeaf mode, .next =>
    some (if s.slot then { s with
      rung := .join mode (s.clock + captureJoinTimeout), slot := false } else s.moveTo .ended)
  | .join mode _, .joined => some (s.moveTo (.start mode))
  | .join _ due, .timeout => if due ≤ s.clock then some (s.act .joinTimedOut 0) else none
  | .start mode, .restarted started =>
    some (if started then s.moveTo (.install mode) else s.act .startFailed 0)
  | .install mode, .next => some (s.installSession mode)
  | .exhausted, .next => some { s with rung := .recovery, emitted := s.emitted ++ [.degraded] }
  | .recovery, .sampled now =>
    some (if s.slot then s.moveTo (.polling now.framesSeen 0 (s.clock + poll)) else s.moveTo .ended)
  | .polling _ _ _, .cancel => if s.shutdown then some (s.moveTo .ended) else none
  | .polling baseline waited due, .sampled now =>
    if due ≤ s.clock then some (s.pollOnce baseline waited now.framesSeen) else none
  | _, _ => none

def step (generation : ℕ) (s : Ladder) : LadderInput → Option Ladder
  | .elapse time => some { s with clock := s.clock + time }
  | .fence => some { s with stale := true }
  | .signal => if s.stale then some { s with shutdown := true } else none
  | .takeHandle =>
    if s.stale ∧ s.slot then some { s with slot := false, taken := true } else none
  | .abort => if s.shutdown then some (s.moveTo .ended) else none
  | input => s.climb generation input

/-- The watchdog of the discovery session of a generation. -/
def machine (generation : ℕ) : Machine Ladder LadderInput where
  initial := initial
  step := step generation

end Ladder

end Capture

end PocketStream
