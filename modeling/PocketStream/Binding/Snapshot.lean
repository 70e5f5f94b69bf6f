import PocketStream.Binding.Reconcile
import PocketStream.Config.Store
import PocketStream.Config.Writers
import PocketStream.Foundation.Routine
import PocketStream.Native.Adapter

/-! # The calls of an address operation

An address operation observes the adapters, writes single addresses and saves
binding rows through one seam. Each call is an effect, and a snapshot is what
one observation says about the selected adapter.
-/

namespace PocketStream

open Foundation

/-- The methods of `AddressIo` with the reads of the settings, the fence and the clock. -/
inductive AddressCall where
  | checkWritesAvailable
  | native
  | descriptors
  | qualify
  | add (adapter : NativeAdapter) (ip mask : String)
  | remove (adapter : NativeAdapter) (ip : String)
  | persistIntent (subnet : String) (row : AdoptedMeta)
  | persistBinding (subnet : String) (row : AdoptedMeta)
  | forgetUnownedBinding (subnet : String) (expected : AdoptedMeta)
  | claim (ip : String)
  | persistPrimary (mac cidr : String)
  | settings
  | fenceStale
  | deadlinePassed

/-- A descriptor tells only whether a qualified adapter is wired and physical. -/
abbrev AddressCall.Reply : AddressCall → Type
  | native => Fallible (List NativeAdapter)
  | descriptors => NativeAdapter → Option Bool
  | settings => AppSettings
  | fenceStale => Bool
  | deadlinePassed => Bool
  | _ => Fallible Unit

def NativeAdapter.overlay (a : NativeAdapter) : InterfaceInfo where
  name := a.aliasName
  mac := a.mac
  ips := a.ips
  isUp := a.isUp

structure OperationSnapshot where
  selected : NativeAdapter
  all : List NativeAdapter
  mem : selected ∈ all

def OperationSnapshot.iface (s : OperationSnapshot) : InterfaceInfo := s.selected.overlay

theorem NativeAdapter.selectNative_mem {all : List NativeAdapter} {mac : String}
    {a : NativeAdapter} (h : selectNative all mac = .ok a) : a ∈ all := by
  unfold selectNative at h
  split at h
  · cases h
  · next b hb =>
    split at h
    · obtain rfl := Except.ok.inj h
      exact (List.mem_filter.mp (hb ▸ List.mem_singleton_self b)).1
    · cases h
  · cases h

/-- The adapter the list selects, with the list. -/
def selectSnapshot (all : List NativeAdapter) (mac : String) : Fallible OperationSnapshot :=
  match h : NativeAdapter.selectNative all mac with
  | .ok selected => .ok ⟨selected, all, NativeAdapter.selectNative_mem h⟩
  | .error e => .error e

/-- `snapshot_from_native` -/
def snapshotFromNative (descriptor : NativeAdapter → Option Bool) (mac : String)
    (all : List NativeAdapter) : Fallible OperationSnapshot := do
  let snapshot ← selectSnapshot all mac
  if descriptor snapshot.selected = some true then return snapshot
  else throw (.network "Selected adapter requires physical Ethernet qualification")

section Conflicts

variable {N : Type} (net : IpNetwork N)

/-- `ipnetwork::Ipv4Network::new` -/
def ipv4Network (address : String) (prefixLen : UInt8) : Option N :=
  net.parse s!"{address}/{prefixLen}"

def nativeConflicts (snapshot : OperationSnapshot) (descriptor : NativeAdapter → Option Bool) :
    List N :=
  (snapshot.all.filter fun a => !(a.identity == snapshot.selected.identity) &&
    (descriptor a).all (!·)).flatMap fun a =>
      a.ips.filterMap fun ip => ipv4Network net ip.address ip.prefixLen

/-- What the reconciliation of a row reads of the snapshot. -/
def OperationSnapshot.binding (snapshot : OperationSnapshot)
    (descriptor : NativeAdapter → Option Bool) : Snapshot N where
  iface := snapshot.iface
  dhcp := snapshot.selected.dhcp
  index := snapshot.selected.index
  conflicts := nativeConflicts net snapshot descriptor

end Conflicts

end PocketStream
