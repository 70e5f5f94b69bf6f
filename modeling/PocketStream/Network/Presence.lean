import PocketStream.Adoption.Operations
import PocketStream.Address.Mac
import PocketStream.Foundation.Generation

/-! # The presence control

The selected adapter as the presence task knows it. The epoch advances whenever
the adapter, the network mode or the link changes, and a stopped control never
starts again.
-/

namespace PocketStream

open Foundation

structure AdapterSelection where
  selectedMac : Option String
  adapter : Option InterfaceInfo
  interfaceIndex : Option UInt32
  deriving DecidableEq

/-- `up` -/
def AdapterSelection.up (s : AdapterSelection) : Bool :=
  s.interfaceIndex.any (· != 0) && s.adapter.any fun i => i.isUp && (canonicalMac i.mac).isSome

/-- The selection with what the OS reports of its adapter. -/
def AdapterSelection.observed (s : AdapterSelection) (index : UInt32) (isUp : Bool) :
    AdapterSelection where
  selectedMac := s.selectedMac
  adapter := s.adapter.map fun i => { i with isUp := isUp && index != 0 }
  interfaceIndex := if index ≠ 0 then some index else none

/-- Milliseconds a lost link or a new adapter is held for. -/
def DOWN_HOLD : ℕ := 2000

structure PresenceState where
  selection : AdapterSelection
  mode : NetworkMode
  revision : UInt64
  expireAt : Option ℕ
  readyAt : Option ℕ

/-- `State::default` and the epoch, under the flag of the control. -/
structure Control where
  state : PresenceState
  gate : Gate

namespace PresenceState

def identityChanged (s : PresenceState) (selection : AdapterSelection) : Bool :=
  s.selection.selectedMac != selection.selectedMac ||
    s.selection.interfaceIndex != selection.interfaceIndex

/-- Whether an update retires the work of the epoch. -/
def retires (s : PresenceState) (selection : AdapterSelection) (mode : NetworkMode) : Bool :=
  s.identityChanged selection || s.mode != mode || s.selection.up != selection.up

def changed (s : PresenceState) (selection : AdapterSelection) (mode : NetworkMode) : Bool :=
  s.retires selection mode || s.selection.adapter != selection.adapter

/-- The holds of a lost or replaced adapter, and of one that is back. -/
def hold (s : PresenceState) (selection : AdapterSelection) (now : ℕ) : PresenceState :=
  if (s.identityChanged selection && s.selection.selectedMac.isSome) ||
      (s.selection.up && !selection.up) then
    { s with
      expireAt := some (now + DOWN_HOLD)
      readyAt := if selection.up then some (now + DOWN_HOLD) else none }
  else if selection.up && !s.selection.up && !s.identityChanged selection then
    { s with expireAt := none, readyAt := none }
  else s

end PresenceState

namespace Control

/-- `Control::default` -/
def start (mode : NetworkMode) : Control where
  state :=
    { selection := ⟨none, none, none⟩, mode := mode, revision := 0, expireAt := none,
      readyAt := none }
  gate := ⟨0, true⟩

def updateLocked (c : Control) (selection : AdapterSelection) (mode : NetworkMode) (now : ℕ) :
    Bool × Control :=
  if !c.state.changed selection mode then (false, c)
  else (true, {
    state := { c.state.hold selection now with
      selection := selection
      mode := mode
      revision := c.state.revision + 1 }
    gate := if c.state.retires selection mode then c.gate.step .bump else c.gate })

def update (c : Control) (selection : AdapterSelection) (mode : NetworkMode) (now : ℕ) : Control :=
  (c.updateLocked selection mode now).2

/-- What the OS reports of an adapter, or that it is gone. -/
abbrev NativeRead := String → Option (UInt32 × Bool)

def updateNative (c : Control) (selection : AdapterSelection) (mode : NetworkMode)
    (read : NativeRead) (now : ℕ) : Control :=
  match selection.selectedMac with
  | none => c.update selection mode now
  | some mac =>
    let (index, isUp) := (read mac).getD (0, false)
    c.update (selection.observed index isUp) mode now

/-- The selection and revision were read before the OS was asked; an update since then wins. -/
def observeLink (c : Control) (seen : AdapterSelection) (revision : UInt64) (read : NativeRead)
    (now : ℕ) : Control :=
  match seen.selectedMac with
  | none => c
  | some mac =>
    let (index, isUp) := (read mac).getD (0, false)
    if c.state.revision ≠ revision then c
    else c.update (seen.observed index isUp) c.state.mode now

def bootstrap (c : Control) : Control :=
  { c with state := { c.state with revision := c.state.revision + 1 } }

def stop (c : Control) : Control := { c with gate := c.gate.step .close }

end Control

end PocketStream
