import PocketStream.Foundation.Machine

/-! # The native link watcher

Notifications set dirty bits and wake a worker through a channel. The worker collects
a burst, refreshes the bindings, clears the bits and reads the topology. The start of
the watcher clears the bits, publishes the sender of a new channel and registers the
callbacks, and may fail and be tried again. Notifications are numbered as they come.
-/

namespace PocketStream

open Foundation

namespace Watcher

/-- How far `start` has come; a failed one is idle again. -/
inductive Start where
  | idle
  | claimed
  | reset
  | published
  | interfaceRegistered
  | addressRegistered
  | active
  deriving DecidableEq

/-- Where `watch_changes` is: a pass after a notification, or a retry. -/
inductive Loop where
  | waiting
  | sleeping
  | woken
  | bindings
  | cleared
  | topology
  | retrying
  deriving DecidableEq

/-- The callbacks' kinds. -/
inductive Kind where
  | address
  | link
  deriving DecidableEq

def Kind.bits : Kind → UInt8
  | .address => 1
  | .link => 2

end Watcher

/-- The statics of `watcher.rs`, the threads in `wake` and the worker. -/
structure Watcher where
  dirty : UInt8
  /-- The channel whose sender is published. -/
  sender : Option ℕ
  start : Watcher.Start
  /-- The last channel made. Its receiver lives unless `start` is idle. -/
  channel : ℕ
  queue : ℕ
  /-- How many threads have set the first bit and are about to send. -/
  sending : ℕ
  loop : Watcher.Loop
  /-- How many notifications there were. -/
  wakes : ℕ
  /-- How many of them when the pass began to read the bindings. -/
  seen : ℕ
  /-- How many of them came before both reads of some pass. -/
  served : ℕ
  /-- How many of them when `start` succeeded. -/
  base : ℕ
  deriving DecidableEq

namespace Watcher

variable (s : Watcher)

def initial : Watcher where
  dirty := 0
  sender := none
  start := .idle
  channel := 0
  queue := 0
  sending := 0
  loop := .waiting
  wakes := 0
  seen := 0
  served := 0
  base := 0

/-- `INITIALIZED` -/
def initialized : Bool := s.start != .idle

inductive Call where
  /-- `wake` up to `fetch_or`. -/
  | wake (kind : Kind)
  /-- The rest of a `wake` that found no bit set. -/
  | send
  | start
  | reset
  | publish
  | registerInterface (ok : Bool)
  | registerAddress (ok : Bool)
  | spawn
  | recv
  /-- The pause is over, and the channel is drained. -/
  | debounced
  | passBegins
  /-- The bindings are read, and the bits are cleared. -/
  | swap
  | topologyBegins
  | passEnds
  | retry
  | retryEnds
  deriving DecidableEq

/-- The sends and the steps of a pass after a notification. -/
def Call.isProgress : Call → Bool
  | .send | .recv | .debounced | .passBegins | .swap | .topologyBegins | .passEnds => true
  | _ => false

def wake (kind : Kind) : Watcher :=
  { s with
    dirty := s.dirty ||| kind.bits
    wakes := s.wakes + 1
    sending := if s.dirty ≠ 0 then s.sending else s.sending + 1 }

/-- A published sender whose receiver is gone takes nothing. -/
def send : Watcher :=
  { s with
    sending := s.sending - 1
    queue := if s.sender = some s.channel ∧ s.initialized then s.queue + 1 else s.queue }

def step (s : Watcher) : Call → Option Watcher
  | .wake kind => some (s.wake kind)
  | .send => if 0 < s.sending then some s.send else none
  | .start =>
    if s.initialized then some s
    else some { s with start := .claimed, channel := s.channel + 1, queue := 0 }
  | .reset => if s.start = .claimed then some { s with start := .reset, dirty := 0 } else none
  | .publish =>
    if s.start = .reset then some { s with start := .published, sender := some s.channel } else none
  | .registerInterface ok =>
    if s.start = .published then
      some { s with start := if ok then .interfaceRegistered else .idle }
    else none
  | .registerAddress ok =>
    if s.start = .interfaceRegistered then
      some { s with start := if ok then .addressRegistered else .idle }
    else none
  | .spawn =>
    if s.start = .addressRegistered then
      some { s with start := .active, loop := .waiting, base := s.wakes }
    else none
  | .recv =>
    if s.start = .active ∧ s.loop = .waiting ∧ 0 < s.queue then
      some { s with loop := .sleeping, queue := s.queue - 1 }
    else none
  | .debounced => if s.loop = .sleeping then some { s with loop := .woken, queue := 0 } else none
  | .passBegins =>
    if s.loop = .woken then some { s with loop := .bindings, seen := s.wakes } else none
  | .swap => if s.loop = .bindings then some { s with loop := .cleared, dirty := 0 } else none
  | .topologyBegins =>
    if s.loop = .cleared then some { s with loop := .topology, served := s.seen } else none
  | .passEnds => if s.loop = .topology then some { s with loop := .waiting } else none
  | .retry =>
    if s.start = .active ∧ s.loop = .waiting then some { s with loop := .retrying } else none
  | .retryEnds => if s.loop = .retrying then some { s with loop := .waiting } else none

def machine : Machine Watcher Call where
  initial := initial
  step := step

/-- No notification comes while a pass reads the bindings, and `start` succeeds with one wake queued
or about to be sent if a bit is set, and with none otherwise. -/
def Tidy (s : Watcher) : Call → Prop
  | .wake _ => s.loop ≠ .bindings
  | .spawn => s.queue + s.sending = if s.dirty = 0 then 0 else 1
  | _ => True

instance (call : Call) : Decidable (Tidy s call) := by
  cases call <;> unfold Tidy <;> infer_instance

end Watcher

end PocketStream
