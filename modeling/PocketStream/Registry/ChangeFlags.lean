import PocketStream.Registry.RoleAmbiguity

/-! # The change flags of the registry

Each mutator sets a flag at the writes it makes, or collects the keys of the records it
writes, so that its caller knows whether to emit the list again.
-/

namespace PocketStream

open Foundation

namespace DeviceRecord

/-- `merge_arp_locked` writes the record of another identity at the address. -/
def retires (key : String) (device : ArpDevice) (r : DeviceRecord) : Bool :=
  r.ip == device.ip && r.mac != key && r.status != .offline

/-- `merge_verified_locked` writes the merged record. -/
def proves (adapter verifiedAt : String) (r : DeviceRecord) : Bool :=
  r.verifiedByMac != canonicalMac adapter || r.lastVerifiedAt != some verifiedAt ||
    r.status != .live

/-- The first loop of `set_alias` pushes the record's key. -/
def reassigns (key aliasName : String) (r : DeviceRecord) : Bool :=
  if r.mac = key then r.aliasName != aliasName
  else isRoleAlias aliasName && r.aliasName == aliasName

/-- And the second. -/
def resolves (ambiguous : List String) (r : DeviceRecord) : Bool :=
  r.status == .offlineAmbiguousRole && !ambiguous.contains r.aliasName

def marks (role : String) (r : DeviceRecord) : Bool :=
  r.aliasName == role && r.status != .offlineAmbiguousRole

def expires (evidence : FiniteMap String ℕ) (now : ℕ) (r : DeviceRecord) : Bool :=
  r.status == .live && (evidence.lookup r.mac).all fun deadline => decide (deadline ≤ now)

end DeviceRecord

namespace Devices

/-- The addresses of the records that are written. -/
def macsOf (writes : DeviceRecord → Bool) (m : Devices) : Finset String :=
  m.keys.biUnion fun key => (((m.lookup key).filter writes).map (·.mac)).toFinset

def mergeArpChanged (m : Devices) (device : ArpDevice) (promoteLegacy : Bool) : Bool :=
  let key := m.mergeKey device
  let retired := m.anyEntry fun _ => DeviceRecord.retires key device
  let devices : Devices := m.mapValues fun _ => retire key device
  let upserted := match devices.lookup key with
    | some existing => (existing.observe device promoteLegacy).1
    | none => true
  upserted || retired

def mergeVerifiedChanged (m : Devices) (device : ArpDevice) (adapter verifiedAt : String) : Bool :=
  let merged := (m.mergeArpLocked device false).2
  m.mergeArpChanged device false ||
    ((recordKeyForMac merged device.mac).bind merged.lookup).any
      (DeviceRecord.proves adapter verifiedAt)

def setAliasChanged (m : Devices) (key aliasName : String) : Finset String :=
  if key ∉ m then ∅
  else
    let assigned : Devices := m.mapValues fun _ => DeviceRegistry.assignAlias key aliasName
    m.macsOf (DeviceRecord.reassigns key aliasName) ∪
      assigned.macsOf (DeviceRecord.resolves (DeviceRegistry.ambiguousRoles assigned))

def normalizeRole (found : Finset String × Devices) (role : String) : Finset String × Devices :=
  let (changed, devices) := found
  if role ∈ DeviceRegistry.ambiguousRoles devices then
    (changed ∪ devices.macsOf (DeviceRecord.marks role),
      devices.mapValues fun _ => DeviceRegistry.markRole role)
  else found

def normalizeChanged (m : Devices) : Finset String := (roleAliases.foldl normalizeRole (∅, m)).1

end Devices

namespace DeviceRegistry

/-- What a mutator returns says that it changed a record; those that return nothing change none. -/
def Op.changed (parseRfc3339 : String → Option ℤ) (r : DeviceRegistry) : Op → Bool
  | .hydrateFromCache cached => (r.hydrateFromCache cached).1.changed
  | .hydrateManualNodes nodes now => (r.hydrateManualNodes nodes now).1
  | .mergeVerified device adapter verifiedAt stale _ =>
    r.accepts parseRfc3339 device adapter verifiedAt stale &&
      r.devices.mergeVerifiedChanged device adapter verifiedAt
  | .mergeManualVerified node device adapter verifiedAt stale now =>
    node.ip == device.ip && r.accepts parseRfc3339 device adapter verifiedAt stale &&
      let expected := node.expectedMac.getD device.mac
      let expectedKey := (recordKeyForMac r.devices expected).getD expected
      let merged := (r.mergeVerifiedLocked device adapter verifiedAt now).2
      r.devices.mergeVerifiedChanged device adapter verifiedAt ||
        if sameMac expected device.mac then (merged.bindPin node device).1
        else (merged.rejectExpected expectedKey).1
  | .mergeArp device => r.verificationScope.isNone && r.devices.mergeArpChanged device true
  | .mergeArpFenced device stale =>
    !stale && r.verificationScope.isNone && r.devices.mergeArpChanged device true
  | .mergeScanResult key openPorts stale => (r.mergeScanResultFenced key openPorts stale).1
  | .setAlias key aliasName => decide (r.devices.setAliasChanged key aliasName ≠ ∅)
  | .normalizeRoleDuplicates => decide (r.devices.normalizeChanged ≠ ∅)
  | .setStatus mac status => (r.setStatus mac status).1
  | .setVerificationScope _ | .rememberVerifiedAt _ _ _ _ => false
  | .expireEvidence now => r.devices.anyEntry fun _ => DeviceRecord.expires r.evidence now
  | .expireAll => r.devices.anyEntry fun _ s => s.status == .live
  | .removeByMac mac => (r.removeByMac mac).1
  | .removeManualEntries => r.devices.keys.card != r.removeManualEntries.2.devices.keys.card
  | .forget mac => (r.forget mac).1

end DeviceRegistry

end PocketStream
