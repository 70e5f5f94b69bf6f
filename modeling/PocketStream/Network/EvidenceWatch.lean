import PocketStream.Foundation.Machine
import PocketStream.Network.Presence
import PocketStream.Registry.RegistryInvariant

/-! # The presence control over the registry

A snapshot offers the adapter to the verifier once no hold is pending, and a
tick performs a due expiry and drops evidence that has run out. The watch runs
the control, the registry and the verified merges against one clock, and keeps
the times at which the adapter or its link changed.
-/

namespace PocketStream

open Foundation

/-- `presence::Snapshot`, with the generation its fence holds. -/
structure ControlSnapshot where
  adapter : Option InterfaceInfo
  index : UInt32
  mode : NetworkMode
  revision : UInt64
  fence : UInt64
  deriving DecidableEq

namespace Control

def snapshot (c : Control) (now : ℕ) : ControlSnapshot where
  adapter :=
    if c.gate.active && c.state.selection.up && c.state.readyAt.all (fun t => decide (t ≤ now)) then
      c.state.selection.adapter
    else none
  index := c.state.selection.interfaceIndex.getD 0
  mode := c.state.mode
  revision := c.state.revision
  fence := c.gate.generation

/-- Whether the expiry is due. -/
def due (c : Control) (now : ℕ) : Bool := c.state.expireAt.any fun t => decide (t ≤ now)

/-- The control part of a tick: a due expiry is taken up and the hold is over. -/
def settle (c : Control) (now : ℕ) : Control :=
  if c.due now then { c with state := { c.state with expireAt := none, readyAt := none } } else c

def tick (c : Control) (registry : DeviceRegistry) (now : ℕ) : Bool × Control × DeviceRegistry :=
  let settled := c.settle now
  let registry := registry.setVerificationScope ((settled.snapshot now).adapter.map (·.mac))
  let (dropped, registry) := if c.due now then registry.expireAll else (false, registry)
  let (expired, registry) := registry.expireEvidence now
  (dropped || expired, settled, registry)

end Control

/-- What reaches the control, from the watcher, the settings and the OS. -/
inductive ControlCall where
  | update (selection : AdapterSelection) (mode : NetworkMode)
  | updateNative (selection : AdapterSelection) (mode : NetworkMode) (read : Control.NativeRead)
  | observeLink (seen : AdapterSelection) (revision : UInt64) (read : Control.NativeRead)
  | bootstrap
  | stop

/-- The selection a call hands to `update_locked`, if it gets there. -/
def ControlCall.selection (c : Control) : ControlCall → Option (AdapterSelection × NetworkMode)
  | update selection mode => some (selection, mode)
  | updateNative selection mode read =>
    match selection.selectedMac with
    | none => some (selection, mode)
    | some mac =>
      let (index, isUp) := (read mac).getD (0, false)
      some (selection.observed index isUp, mode)
  | observeLink seen revision read =>
    match seen.selectedMac with
    | none => none
    | some mac =>
      let (index, isUp) := (read mac).getD (0, false)
      if c.state.revision ≠ revision then none
      else some (seen.observed index isUp, c.state.mode)
  | bootstrap | stop => none

def Control.call (c : Control) (now : ℕ) : ControlCall → Control
  | .update selection mode => c.update selection mode now
  | .updateNative selection mode read => c.updateNative selection mode read now
  | .observeLink seen revision read => c.observeLink seen revision read now
  | .bootstrap => c.bootstrap
  | .stop => c.stop

/-- A snapshot the verifier works under, with the time and the epoch it was taken in. -/
structure Issued where
  snapshot : ControlSnapshot
  epoch : ℕ
  time : ℕ
  deriving DecidableEq

namespace DeviceRegistry

/-- The merge of a proof: a pinned endpoint is bound on the way. -/
def proofOp (pin : Option ManualNode) (device : ArpDevice) (adapter wall : String) (stale : Bool)
    (now : ℕ) : Op :=
  match pin with
  | none => .mergeVerified device adapter wall stale now
  | some node => .mergeManualVerified node device adapter wall stale now

def admits (parseRfc3339 : String → Option ℤ) (r : DeviceRegistry) (pin : Option ManualNode)
    (device : ArpDevice) (adapter wall : String) (stale : Bool) : Bool :=
  pin.all (·.ip == device.ip) && r.accepts parseRfc3339 device adapter wall stale

/-- The mutators that bring no proof of their own. -/
def Op.unproven : Op → Bool
  | mergeVerified _ _ _ _ _ | mergeManualVerified _ _ _ _ _ _ | setVerificationScope _ => false
  | _ => true

end DeviceRegistry

/-- The control and the registry at one time. The rest is history: the snapshots taken, how
often the epoch advanced, when the proof of each key was obtained, when the identity of the
adapter changed, which of these changes left a selected adapter, and since when the link is
down. -/
structure Watch where
  clock : ℕ
  control : Control
  registry : DeviceRegistry
  issued : List Issued
  epochs : ℕ
  provedAt : String → ℕ
  changes : List ℕ
  holds : List ℕ
  downSince : Option ℕ

inductive WatchCall where
  | control (call : ControlCall)
  | tick
  | snapshot
  /-- The commit of a proof obtained under a snapshot. -/
  | verified (work : Issued) (pin : Option ManualNode) (device : ArpDevice) (wall : String)
    (proved : ℕ)
  /-- A frame of a capture whose scope is proven. -/
  | captured (device : ArpDevice) (adapter : String) (stale : Bool)
  | registry (op : DeviceRegistry.Op)

namespace Watch

/-- After `start_presence`, which closes the verification scope. -/
def start (mode : NetworkMode) : Watch where
  clock := 0
  control := .start mode
  registry := ({} : DeviceRegistry).setVerificationScope none
  issued := []
  epochs := 0
  provedAt _ := 0
  changes := []
  holds := []
  downSince := none

/-- The history of an update that is not a repetition. -/
def note (s : Watch) (selection : AdapterSelection) (mode : NetworkMode) (now : ℕ) : Watch :=
  let old := s.control.state
  if !old.changed selection mode then s
  else { s with
    epochs := if old.retires selection mode then s.epochs + 1 else s.epochs
    changes := if old.identityChanged selection then now :: s.changes else s.changes
    holds :=
      if old.identityChanged selection && old.selection.selectedMac.isSome then now :: s.holds
      else s.holds
    downSince :=
      if selection.up then none else if old.selection.up then some now else s.downSince }

/-- The records a proof of `device` may stand behind. -/
def prove (s : Watch) (device : ArpDevice) (proved : ℕ) : Watch :=
  { s with provedAt := fun key => if sameMac key device.mac then proved else s.provedAt key }

section Steps

variable (parseRfc3339 : String → Option ℤ)

def merge (s : Watch) (pin : Option ManualNode) (device : ArpDevice) (adapter wall : String)
    (stale : Bool) (proved : ℕ) : Watch :=
  let s' := if s.registry.admits parseRfc3339 pin device adapter wall stale then
    s.prove device proved else s
  { s' with registry :=
      s.registry.apply parseRfc3339 (DeviceRegistry.proofOp pin device adapter wall stale s.clock) }

def stepNow (s : Watch) : WatchCall → Option Watch
  | .control call =>
    let noted := match call.selection s.control with
      | none => s
      | some (selection, mode) => s.note selection mode s.clock
    some { noted with control := s.control.call s.clock call }
  | .tick =>
    let (_, control, registry) := s.control.tick s.registry s.clock
    some { s with control := control, registry := registry }
  | .snapshot => some { s with issued := ⟨s.control.snapshot s.clock, s.epochs, s.clock⟩ :: s.issued }
  | .verified work pin device wall proved =>
    match work.snapshot.adapter with
    | none => none -- the verifier has no adapter to work on
    | some adapter =>
      if work ∈ s.issued ∧ work.time ≤ proved ∧ proved ≤ s.clock then
        some (s.merge parseRfc3339 pin device adapter.mac wall
          (!s.control.gate.valid work.snapshot.fence) proved)
      else none
  | .captured device adapter stale =>
    some (s.merge parseRfc3339 none device adapter device.lastSeen stale s.clock)
  | .registry op =>
    if op.unproven then some { s with registry := s.registry.apply parseRfc3339 op } else none

/-- One call at a time that no clock has passed. -/
def step (s : Watch) (call : ℕ × WatchCall) : Option Watch :=
  if s.clock ≤ call.1 then stepNow parseRfc3339 { s with clock := call.1 } call.2 else none

def machine (mode : NetworkMode) : Machine Watch (ℕ × WatchCall) where
  initial := start mode
  step := step parseRfc3339

end Steps

/-- The times whose evidence is to go: identity changes, and the loss of a link that is
still down. -/
def Owes (s : Watch) (t : ℕ) : Prop := t ∈ s.changes ∨ s.downSince = some t

/-- The pending expiry is the one of an identity change. -/
def OwedToChange (s : Watch) (d : ℕ) : Prop := ∃ t ∈ s.changes, d ≤ t + DOWN_HOLD

/-- The update starts the hold again while an earlier change still waits for its expiry. -/
def Restarts (s : Watch) (selection : AdapterSelection) (now : ℕ) : Prop :=
  let old := s.control.state
  (old.identityChanged selection = true ∧ old.selection.selectedMac.isSome = true ∨
    old.selection.up = true ∧ selection.up = false) ∧
  ∃ d, old.expireAt = some d ∧ d < now + DOWN_HOLD ∧ (s.OwedToChange d ∨ selection.up = false)

/-- The link comes back while an identity change still waits for its expiry. -/
def Cancels (s : Watch) (selection : AdapterSelection) : Prop :=
  let old := s.control.state
  old.identityChanged selection = false ∧ old.selection.up = false ∧ selection.up = true ∧
    ∃ d, old.expireAt = some d ∧ s.OwedToChange d

/-- An adapter takes the place of none while the hold of the last one is pending, or of one
that was never selected. -/
def Skips (s : Watch) (selection : AdapterSelection) (now : ℕ) : Prop :=
  let old := s.control.state
  old.identityChanged selection = true ∧ old.selection.selectedMac = none ∧ selection.up = true ∧
    (old.selection.up = true ∨ old.readyAt = none ∧ ∃ t ∈ s.holds, now < t + DOWN_HOLD)

/-- The updates after which a pending expiry or hold is lost. -/
def Disturbs (s : Watch) (call : ℕ × WatchCall) : Prop :=
  ∃ c selection mode, call.2 = .control c ∧ c.selection s.control = some (selection, mode) ∧
    (s.Restarts selection call.1 ∨ s.Cancels selection ∨ s.Skips selection call.1)

/-- The call disturbs no pending hold, and the epoch has not come round. -/
def Undisturbed (s : Watch) (call : ℕ × WatchCall) : Prop :=
  ¬ s.Disturbs call ∧ s.epochs + 1 < 2 ^ 64

end Watch

end PocketStream
