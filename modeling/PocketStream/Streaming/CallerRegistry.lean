import Mathlib.Data.BitVec
import PocketStream.Address.Ipv4
import PocketStream.Foundation.FiniteMap

/-! # The caller registry of the SRT listener

Callers are reserved a slot when they connect and hold it from the moment the
library reports them added until it reports them removed. Reservations that
nobody takes up expire, but only when the next caller connects. Times are
milliseconds.
-/

namespace PocketStream

open Foundation

def MAX_SRT_CALLERS : ℕ := 10

def PENDING_CALLER_TTL : ℕ := 10000

inductive IpAddr where
  | v4 (addr : Ipv4Addr)
  | v6 (addr : BitVec 128)
  deriving DecidableEq

structure CallerAddress where
  ip : IpAddr
  port : UInt16
  deriving DecidableEq

inductive AdmissionDecision | accept | rejectStreamId | rejectCapacity
  deriving DecidableEq, Repr

/-- The faults of the registry itself; those of the callback arguments never reach it. -/
inductive CallerRegistryFault where
  | nonzeroUnusedArgument
  | duplicateAddedCaller
  | addedWithoutReservation
  | addedOverCapacity
  | inconsistentCallerState
  | removedWithoutActiveCaller
  | occupancyInvariantExceeded
  deriving DecidableEq, Repr

/-- `RegistryState` beside the Stream ID callers have to present, if any. -/
structure CallerRegistry where
  expectedStreamId : Option (List UInt8)
  pending : FiniteMap CallerAddress ℕ
  active : Finset CallerAddress

namespace CallerRegistry

def new (expectedStreamId : Option String) : CallerRegistry where
  expectedStreamId := (expectedStreamId.filter (· ≠ "")).map (·.toUTF8.toList)
  pending := ∅
  active := ∅

def occupancy (r : CallerRegistry) : ℕ := r.pending.keys.card + r.active.card

def pruneExpired (r : CallerRegistry) (now : ℕ) : CallerRegistry :=
  { r with pending := r.pending.retain fun _ reservedAt => now - reservedAt < PENDING_CALLER_TTL }

/-- The decision once the expired reservations are gone. -/
def answer (r : CallerRegistry) (address : CallerAddress) (streamId : List UInt8) (now : ℕ) :
    Except CallerRegistryFault AdmissionDecision × CallerRegistry :=
  if MAX_SRT_CALLERS < r.occupancy then (.error .occupancyInvariantExceeded, r)
  else if address ∈ r.pending ∧ address ∈ r.active then (.error .inconsistentCallerState, r)
  else if r.expectedStreamId.any (· != streamId) then (.ok .rejectStreamId, r)
  else if address ∈ r.active then (.ok .accept, r)
  else if address ∈ r.pending then
    (.ok .accept, { r with pending := r.pending.insert address now })
  else if MAX_SRT_CALLERS ≤ r.occupancy then (.ok .rejectCapacity, r)
  else (.ok .accept, { r with pending := r.pending.insert address now })

def callerConnecting (r : CallerRegistry) (address : CallerAddress) (streamId : List UInt8)
    (now : ℕ) : Except CallerRegistryFault AdmissionDecision × CallerRegistry :=
  (r.pruneExpired now).answer address streamId now

/-- The count is the one of the callers, as the 32-bit number it is reported in. -/
def activeCount (r : CallerRegistry) : UInt32 := UInt32.ofNat r.active.card

/-- The reservation becomes the caller's slot. -/
def activate (r : CallerRegistry) (address : CallerAddress) : CallerRegistry :=
  { r with pending := r.pending.erase address, active := insert address r.active }

def callerAdded (r : CallerRegistry) (address : CallerAddress) (unused : ℤ) :
    Except CallerRegistryFault UInt32 × CallerRegistry :=
  if unused ≠ 0 then (.error .nonzeroUnusedArgument, r)
  else if MAX_SRT_CALLERS < r.occupancy then (.error .occupancyInvariantExceeded, r)
  else if address ∈ r.pending then
    if address ∈ r.active then (.error .inconsistentCallerState, r)
    else if MAX_SRT_CALLERS < (r.activate address).occupancy then
      (.error .occupancyInvariantExceeded, r.activate address)
    else (.ok (r.activate address).activeCount, r.activate address)
  else if address ∈ r.active then (.error .duplicateAddedCaller, r)
  else if MAX_SRT_CALLERS ≤ r.occupancy then (.error .addedOverCapacity, r)
  else (.error .addedWithoutReservation, r)

def callerRemoved (r : CallerRegistry) (address : CallerAddress) (unused : ℤ) :
    Except CallerRegistryFault UInt32 × CallerRegistry :=
  if unused ≠ 0 then (.error .nonzeroUnusedArgument, r)
  else if address ∉ r.active then (.error .removedWithoutActiveCaller, r)
  else
    let next := { r with active := r.active.erase address }
    (.ok next.activeCount, next)

def clear (r : CallerRegistry) : CallerRegistry := { r with pending := ∅, active := ∅ }

end CallerRegistry

/-- The calls of the signal callbacks. -/
inductive CallerCall where
  | connecting (address : CallerAddress) (streamId : List UInt8) (now : ℕ)
  | added (address : CallerAddress) (unused : ℤ)
  | removed (address : CallerAddress) (unused : ℤ)
  | clear

inductive CallerReply where
  | decided (decision : AdmissionDecision)
  | counted (active : UInt32)
  | faulted (fault : CallerRegistryFault)
  | cleared
  deriving DecidableEq

namespace CallerRegistry

def call (r : CallerRegistry) : CallerCall → CallerReply × CallerRegistry
  | .connecting address streamId now =>
    let (answer, next) := r.callerConnecting address streamId now
    (answer.casesOn .faulted .decided, next)
  | .added address unused =>
    let (answer, next) := r.callerAdded address unused
    (answer.casesOn .faulted .counted, next)
  | .removed address unused =>
    let (answer, next) := r.callerRemoved address unused
    (answer.casesOn .faulted .counted, next)
  | .clear => (.cleared, r.clear)

def run (r : CallerRegistry) (calls : List CallerCall) : CallerRegistry :=
  calls.foldl (fun r c => (r.call c).2) r

end CallerRegistry

end PocketStream
