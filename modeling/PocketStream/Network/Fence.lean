import PocketStream.Adoption.CacheProbe
import PocketStream.Binding.Snapshot
import PocketStream.Network.Presence
import PocketStream.Registry.DeviceRegistry

/-! # Fences

Discovery sessions, address work and the presence control each have a gate, and
a fence is a ticket of one of them. A write takes the fences it is guarded by
and does nothing when one of them is stale.
-/

namespace PocketStream

open Foundation

inductive FenceSource | discovery | address | presence
  deriving DecidableEq

/-- The generation of the day, with the gate it is compared with later. -/
structure SweepFence where
  source : FenceSource
  generation : UInt64
  deriving DecidableEq

/-- The maps of `BindingStore`, with liveness in milliseconds. -/
structure BindingMaps where
  adoptedIps : FiniteMap String Ipv4Addr := ∅
  adoptionLiveness : FiniteMap String ℕ := ∅
  adoptedMeta : FiniteMap String AdoptedMeta := ∅

structure NetworkData where
  registry : DeviceRegistry
  bindings : BindingMaps
  store : Store
  cache : List CachedDevice

/-- `record_positive_liveness` -/
def BindingMaps.recordPositiveLiveness (b : BindingMaps) (ip : Ipv4Addr) (now : ℕ)
    (wall : String) : BindingMaps :=
  let subnet := subnetKeyFor ip
  if (b.adoptedIps.lookup subnet).isNone then b
  else { b with
    adoptionLiveness := b.adoptionLiveness.insert subnet now
    adoptedMeta := b.adoptedMeta.insert subnet
      { (b.adoptedMeta.lookup subnet).getD {} with lastDeviceSeen := some wall } }

/-- `publish_adoption` -/
def BindingMaps.publishAdoption (b : BindingMaps) (subnet : String) (ip : Ipv4Addr)
    (row : AdoptedMeta) (now : ℕ) : BindingMaps where
  adoptedIps := b.adoptedIps.insert subnet ip
  adoptionLiveness := b.adoptionLiveness.insert subnet now
  adoptedMeta := b.adoptedMeta.insert subnet row

def BindingMaps.forget (b : BindingMaps) (subnet : String) : BindingMaps :=
  { b with
    adoptedIps := b.adoptedIps.erase subnet
    adoptedMeta := b.adoptedMeta.erase subnet }

def upsertCacheRecord (cache : List CachedDevice) (device : CachedDevice) (stale : Bool) :
    List CachedDevice :=
  if stale then cache
  else if cache.any (·.mac == device.mac) then
    updateFirst (·.mac == device.mac) (fun _ => device) cache
  else cache ++ [device]

/-- The guarded writes, each with the fences it is given. -/
inductive FencedWrite where
  | mergeArp (device : ArpDevice) (fence : SweepFence)
  | mergeVerified (device : ArpDevice) (adapter verifiedAt : String) (now : ℕ)
      (fence : SweepFence)
  | mergeManualVerified (node : ManualNode) (device : ArpDevice) (adapter verifiedAt : String)
      (now : ℕ) (fence : SweepFence)
  | normalizeRoleDuplicates (fence : SweepFence)
  | rememberVerifiedAt (mac wall : String) (proved : ℕ) (fence : SweepFence)
  | mergeScanResult (key : String) (openPorts : List UInt16) (fence : SweepFence)
  | bindManualNode (ip mac : String) (saved : Fallible Unit) (fence : SweepFence)
  | upsertCachedDevice (device : CachedDevice) (fence : SweepFence)
  | noteVerifiedLiveness (ip : Ipv4Addr) (now : ℕ) (wall : String) (fence : SweepFence)
  /-- The commit of an adopted address, published to the binding store once saved. -/
  | commitAdoption (subnet owner : String) (ip : Ipv4Addr) (row : AdoptedMeta) (now : ℕ)
      (saved : Fallible Unit) (session address : SweepFence)
  /-- The end of `prepare_subnet_adoption`, after the snapshot. -/
  | prepareAdoption (subnet owner : String) (index : UInt32) (row : AdoptedMeta)
      (snapshot : OperationSnapshot) (saved : Fallible Unit) (session address : SweepFence)

namespace FencedWrite

def guards : FencedWrite → List SweepFence
  | mergeArp _ fence | mergeVerified _ _ _ _ fence | mergeManualVerified _ _ _ _ _ fence
  | normalizeRoleDuplicates fence | rememberVerifiedAt _ _ _ fence | mergeScanResult _ _ fence
  | bindManualNode _ _ _ fence | upsertCachedDevice _ fence | noteVerifiedLiveness _ _ _ fence =>
    [fence]
  | commitAdoption _ _ _ _ _ _ session address
  | prepareAdoption _ _ _ _ _ _ session address => [session, address]

variable {N : Type} (net : IpNetwork N) (parseRfc3339 : String → Option ℤ)

/-- Whether the snapshot confirms the removal on the adapter of the adoption. -/
def removalConfirmed (subnet owner : String) (index : UInt32) (row : AdoptedMeta)
    (snapshot : OperationSnapshot) (mode : NetworkMode) : Bool :=
  snapshot.selected.isUp && !snapshot.selected.dhcp &&
    adapterMac snapshot.selected.mac == adapterMac owner && snapshot.selected.index == index &&
    row.adapterMac.bind adapterMac == adapterMac owner &&
    decide (bindingAction net subnet row (some snapshot.iface) mode
      (.ok snapshot.selected.dhcp) [] = .observed false)

def apply (stale : SweepFence → Bool) (d : NetworkData) : FencedWrite → NetworkData
  | mergeArp device fence =>
    { d with registry := (d.registry.mergeArpFenced device (stale fence)).2 }
  | mergeVerified device adapter verifiedAt now fence =>
    { d with registry :=
        (d.registry.mergeVerified parseRfc3339 device adapter verifiedAt (stale fence) now).2 }
  | mergeManualVerified node device adapter verifiedAt now fence =>
    { d with registry := (d.registry.mergeManualVerified parseRfc3339 node device adapter
        verifiedAt (stale fence) now).2 }
  | normalizeRoleDuplicates fence =>
    if stale fence then d else { d with registry := d.registry.normalizeRoleDuplicates.2 }
  | rememberVerifiedAt mac wall proved fence =>
    { d with registry := d.registry.rememberVerifiedAt mac wall proved (stale fence) }
  | mergeScanResult key openPorts fence =>
    { d with registry :=
        (d.registry.mergeScanResultFenced key openPorts (some (stale fence))).2 }
  | bindManualNode ip mac saved fence =>
    { d with store :=
        (d.store.changeIf (AppSettings.bindManualNode ip mac (stale fence)) saved).2 }
  | upsertCachedDevice device fence =>
    { d with cache := upsertCacheRecord d.cache device (stale fence) }
  | noteVerifiedLiveness ip now wall fence =>
    if stale fence then d
    else { d with bindings := d.bindings.recordPositiveLiveness ip now wall }
  | commitAdoption subnet owner ip row now saved session address =>
    if stale session || stale address ||
        d.store.memory.selectedAdapterMac.bind adapterMac != adapterMac owner then d
    else
      match d.store.changeIf (AppSettings.setBindingForOperation subnet row false) saved with
      | (.error _, store) => { d with store := store }
      | (.ok _, store) =>
        { d with store := store, bindings := d.bindings.publishAdoption subnet ip row now }
  | prepareAdoption subnet owner index row snapshot saved session address =>
    if stale session || stale address ||
        !removalConfirmed net subnet owner index row snapshot d.store.memory.networkMode then d
    else
      match d.store.change (AppSettings.forgetCompletedRemoval subnet row) saved with
      | (.error _, store) => { d with store := store }
      | (.ok _, store) => { d with store := store, bindings := d.bindings.forget subnet }

/-- A write with a stale fence changes nothing. -/
theorem apply_stale {stale : SweepFence → Bool} {d : NetworkData} {w : FencedWrite}
    {fence : SweepFence} (hmem : fence ∈ w.guards) (h : stale fence = true) :
    w.apply net parseRfc3339 stale d = d := by
  cases w with
  | mergeArp device f =>
    obtain rfl := List.mem_singleton.mp hmem
    simp [apply, h, DeviceRegistry.mergeArpFenced]
  | mergeVerified device adapter verifiedAt now f =>
    obtain rfl := List.mem_singleton.mp hmem
    simp [apply, h, DeviceRegistry.mergeVerified, DeviceRegistry.accepts]
  | mergeManualVerified node device adapter verifiedAt now f =>
    obtain rfl := List.mem_singleton.mp hmem
    simp [apply, h, DeviceRegistry.mergeManualVerified, DeviceRegistry.accepts]
  | normalizeRoleDuplicates f =>
    obtain rfl := List.mem_singleton.mp hmem
    exact if_pos h
  | rememberVerifiedAt mac wall proved f =>
    obtain rfl := List.mem_singleton.mp hmem
    simp [apply, h, DeviceRegistry.rememberVerifiedAt]
  | mergeScanResult key openPorts f =>
    obtain rfl := List.mem_singleton.mp hmem
    simp [apply, h, DeviceRegistry.mergeScanResultFenced]
  | bindManualNode ip mac saved f =>
    obtain rfl := List.mem_singleton.mp hmem
    have hrefused : ∃ e, AppSettings.bindManualNode ip mac true d.store.memory = .error e := by
      unfold AppSettings.bindManualNode
      cases canonicalMac mac <;> exact ⟨_, rfl⟩
    obtain ⟨e, he⟩ := hrefused
    have hstore : (d.store.changeIf (AppSettings.bindManualNode ip mac true) saved).2 = d.store := by
      rcases d.store.changeIf_cases (AppSettings.bindManualNode ip mac true) saved with
        ⟨_, hc⟩ | ⟨_, _, hc, -⟩ | ⟨_, _, hc, -, -⟩
      · rw [hc]
      · rw [he] at hc
        cases hc
      · rw [he] at hc
        cases hc
    simp only [apply, h, hstore]
  | upsertCachedDevice device f =>
    obtain rfl := List.mem_singleton.mp hmem
    simp [apply, h, upsertCacheRecord]
  | noteVerifiedLiveness ip now wall f =>
    obtain rfl := List.mem_singleton.mp hmem
    exact if_pos h
  | commitAdoption subnet owner ip row now saved session address =>
    have hstale : (stale session || stale address) = true := by
      rcases List.mem_pair.mp hmem with rfl | rfl <;> simp [h]
    simp [apply, hstale]
  | prepareAdoption subnet owner index row snapshot saved session address =>
    have hstale : (stale session || stale address) = true := by
      rcases List.mem_pair.mp hmem with rfl | rfl <;> simp [h]
    simp [apply, hstale]

end FencedWrite

end PocketStream
