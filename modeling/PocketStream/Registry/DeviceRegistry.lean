import Mathlib.Data.Finset.Sort
import Mathlib.Data.String.Basic
import PocketStream.Config.Settings
import PocketStream.Address.Ipv4

/-! # The device registry

One record per host, keyed by hardware address, with the status the interface
shows. Presence is granted by a proof accepted under the current verification
scope, and lasts until the deadline kept beside the records.
-/

namespace PocketStream

open Foundation

inductive DeviceStatus where
  | live
  | verifying
  | offline
  | cachedOnly
  | offlineNonWiredSubnet
  | offlineHostOwnedIp
  | offlineDifferentDevice
  | offlineAmbiguousRole
  deriving DecidableEq, Repr

structure DeviceRecord where
  verifiedByMac : Option String
  lastVerifiedAt : Option String
  mac : String
  ip : String
  subnet : String
  openPorts : List UInt16
  aliasName : String
  status : DeviceStatus
  firstSeen : String
  lastSeen : String
  deriving DecidableEq

structure ArpDevice where
  mac : String
  ip : String
  subnet : String
  firstSeen : String
  lastSeen : String
  deriving DecidableEq

structure CachedDevice where
  verifiedByMac : Option String
  lastVerifiedAt : Option String
  mac : String
  ip : String
  subnet : String
  openPorts : List UInt16
  aliasName : String
  lastSeen : String
  deriving DecidableEq

structure MergeResult where
  changed : Bool := false
  droppedMacs : List String := []
  deriving DecidableEq

abbrev Devices := FiniteMap String DeviceRecord

/-- The records, the deadline of each live record's evidence in milliseconds, and the
adapter whose proofs count, once one is set. -/
structure DeviceRegistry where
  devices : Devices := ∅
  evidence : FiniteMap String ℕ := ∅
  verificationScope : Option (Option String) := none
  deriving DecidableEq

def FRESHNESS : ℕ := 15000

/-- Whichever key of the same address the map yields first; no two keys share one. -/
def recordKeyForMac (devices : Devices) (mac : String) : Option String :=
  if mac ∈ devices then some mac else devices.findKey fun key => sameMac key mac

def subnetFor (ip : String) : String :=
  match Ipv4Addr.parse ip with
  | some addr => Ipv4Addr.toText { addr with d := 0 } ++ "/24"
  | none => "0.0.0.0/24"

def roleAliases : List String := ["CAM", "PTU"]

def isRoleAlias (aliasName : String) : Bool := roleAliases.contains aliasName

def compareIps (a b : String) : Ordering :=
  match Ipv4Addr.parse a, Ipv4Addr.parse b with
  | some x, some y => compare x.toNat y.toNat
  | _, _ => compare a b

def DeviceRecord.listedBefore (a b : DeviceRecord) : Bool :=
  ((compare a.subnet b.subnet).then ((compareIps a.ip b.ip).then (compare a.mac b.mac))).isLE

/-- The records by subnet, address and key. -/
def DeviceRegistry.snapshot (r : DeviceRegistry) : List DeviceRecord :=
  ((r.devices.keys.sort (· ≤ ·)).filterMap r.devices.lookup).mergeSort DeviceRecord.listedBefore

namespace DeviceRecord

/-- The update of an existing record by an observation. -/
def observe (r : DeviceRecord) (device : ArpDevice) (promoteLegacy : Bool) :
    Bool × DeviceRecord :=
  let moved := r.ip != device.ip
  let promoted := promoteLegacy && (r.status == .cachedOnly ||
    r.status == .offlineNonWiredSubnet || r.status == .offlineHostOwnedIp)
  (moved || r.subnet != device.subnet || r.lastSeen != device.lastSeen || promoted,
    { r with
      ip := device.ip
      verifiedByMac := if moved then none else r.verifiedByMac
      lastVerifiedAt := if moved then none else r.lastVerifiedAt
      subnet := device.subnet
      lastSeen := device.lastSeen
      status := if promoted then .live else r.status })

def observed (key : String) (device : ArpDevice) : DeviceRecord where
  verifiedByMac := none
  lastVerifiedAt := none
  mac := key
  ip := device.ip
  subnet := device.subnet
  openPorts := []
  aliasName := ""
  status := .live
  firstSeen := device.firstSeen
  lastSeen := device.lastSeen

def cached (key : String) (entry : CachedDevice) : DeviceRecord where
  verifiedByMac := entry.verifiedByMac
  lastVerifiedAt := entry.lastVerifiedAt
  mac := key
  ip := entry.ip
  subnet := entry.subnet
  openPorts := entry.openPorts
  aliasName := entry.aliasName
  status := .cachedOnly
  firstSeen := entry.lastSeen
  lastSeen := entry.lastSeen

def pinned (key : String) (node : ManualNode) (now : String) : DeviceRecord where
  verifiedByMac := none
  lastVerifiedAt := none
  mac := key
  ip := node.ip
  subnet := subnetFor node.ip
  openPorts := []
  aliasName := node.aliasName
  status := .offline
  firstSeen := now
  lastSeen := now

end DeviceRecord

namespace Devices

/-- Another identity loses an address to the record of `key`. -/
def retire (key : String) (device : ArpDevice) (r : DeviceRecord) : DeviceRecord :=
  if r.ip = device.ip ∧ r.mac ≠ key then { r with status := .offline } else r

def mergeArpLocked (devices : Devices) (device : ArpDevice) (promoteLegacy : Bool) :
    MergeResult × Devices :=
  let key := (recordKeyForMac devices device.mac).getD device.mac
  let retired := devices.anyEntry fun _ r => retire key device r != r
  let devices : Devices := devices.mapValues fun _ r => retire key device r
  let (changed, record) := match devices.lookup key with
    | some existing => existing.observe device promoteLegacy
    | none => (true, .observed key device)
  (⟨changed || retired, []⟩, devices.insert key record)

def hydrateEntry (devices : Devices) (entry : CachedDevice) : Devices :=
  if entry.mac = "" ∨ (Ipv4Addr.parse entry.ip).isNone then devices
  else
    let key := (recordKeyForMac devices entry.mac).getD entry.mac
    if (devices.lookup key).any (fun r => decide (entry.lastSeen ≤ r.lastSeen)) then devices
    else devices.insert key (.cached key entry)

def hydrateNode (now : String) (found : Bool × Devices) (node : ManualNode) : Bool × Devices :=
  let (changed, devices) := found
  let key := (node.expectedMac.bind (recordKeyForMac devices)).getD (manualNodeKey node)
  match devices.lookup key with
  | some existing =>
    if existing.aliasName ≠ node.aliasName then
      (true, devices.insert key { existing with aliasName := node.aliasName })
    else (changed, devices)
  | none => (true, devices.insert key (.pinned key node now))

end Devices

namespace DeviceRegistry

section Proofs

-- the reader of RFC 3339 timestamps, as points on the time line
variable (parseRfc3339 : String → Option ℤ)

def verificationValid (device : ArpDevice) (adapter verifiedAt : String) : Bool :=
  (canonicalMac adapter).isSome && (canonicalMac device.mac).isSome &&
    (parseRfc3339 verifiedAt).isSome &&
    (Ipv4Addr.parse device.ip).any (fun ip => !prohibitedCameraIp ip) &&
    !sameMac adapter device.mac

/-- Whether a live record of the same address holds a later proof. -/
def hasNewerProof (devices : Devices) (device : ArpDevice) (verifiedAt : String) : Bool :=
  match parseRfc3339 verifiedAt with
  | none => true
  | some incoming => devices.anyEntry fun _ r =>
      r.status == .live && (sameMac r.mac device.mac || r.ip == device.ip) &&
        (r.lastVerifiedAt.bind parseRfc3339).any fun existing => decide (incoming < existing)

def proofAllowed (r : DeviceRegistry) (adapter : String) : Bool :=
  match r.verificationScope with
  | none => true
  | some (some expected) => canonicalMac adapter == some expected
  | some none => false

/-- Every test a proof passes before it changes anything. -/
def accepts (r : DeviceRegistry) (device : ArpDevice) (adapter verifiedAt : String)
    (stale : Bool) : Bool :=
  verificationValid parseRfc3339 device adapter verifiedAt && !stale && r.proofAllowed adapter &&
    !hasNewerProof parseRfc3339 r.devices device verifiedAt

def mergeVerifiedLocked (r : DeviceRegistry) (device : ArpDevice) (adapter verifiedAt : String)
    (now : ℕ) : MergeResult × DeviceRegistry :=
  let (result, devices) := r.devices.mergeArpLocked device false
  match recordKeyForMac devices device.mac with
  | none => (result, { r with devices := devices }) -- the merge leaves a record of the address
  | some key =>
    match devices.lookup key with
    | none => (result, { r with devices := devices })
    | some record =>
      let verified := { record with
        verifiedByMac := canonicalMac adapter
        lastVerifiedAt := some verifiedAt
        status := .live }
      (⟨result.changed || verified != record, []⟩,
        { r with
          devices := devices.insert key verified
          evidence := r.evidence.insert record.mac (now + FRESHNESS) })

def mergeVerified (r : DeviceRegistry) (device : ArpDevice) (adapter verifiedAt : String)
    (stale : Bool) (now : ℕ) : MergeResult × DeviceRegistry :=
  if r.accepts parseRfc3339 device adapter verifiedAt stale then
    r.mergeVerifiedLocked device adapter verifiedAt now
  else ({}, r)

/-- The pin of a manual node gives its alias to the verified record and goes. -/
def bindPin (r : DeviceRegistry) (node : ManualNode) (device : ArpDevice) :
    Bool × DeviceRegistry :=
  let pin := r.devices.lookup ("manual:" ++ node.ip)
  let devices : Devices := r.devices.erase ("manual:" ++ node.ip)
  let chosen := ((pin.map (·.aliasName)).filter (· != "")).getD node.aliasName
  match recordKeyForMac devices device.mac with
  | none => (pin.isSome, { r with devices := devices }) -- the verified record is there
  | some key =>
    match devices.lookup key with
    | none => (pin.isSome, { r with devices := devices })
    | some record =>
      if chosen ≠ "" ∧ record.aliasName ≠ chosen then
        (true, { r with devices := devices.insert key { record with aliasName := chosen } })
      else (pin.isSome, { r with devices := devices })

/-- The expected identity is not the one that answered. -/
def rejectExpected (r : DeviceRegistry) (expectedKey : String) : Bool × DeviceRegistry :=
  match r.devices.lookup expectedKey with
  | none => (false, r)
  | some old => (old.status != .offlineDifferentDevice, { r with
      devices := r.devices.insert expectedKey { old with status := .offlineDifferentDevice } })

def mergeManualVerified (r : DeviceRegistry) (node : ManualNode) (device : ArpDevice)
    (adapter verifiedAt : String) (stale : Bool) (now : ℕ) : MergeResult × DeviceRegistry :=
  if node.ip ≠ device.ip ∨ !r.accepts parseRfc3339 device adapter verifiedAt stale then ({}, r)
  else
    let expected := node.expectedMac.getD device.mac
    let expectedKey := (recordKeyForMac r.devices expected).getD expected
    let (result, merged) := r.mergeVerifiedLocked device adapter verifiedAt now
    let (changed, next) :=
      if sameMac expected device.mac then merged.bindPin node device
      else merged.rejectExpected expectedKey
    (⟨result.changed || changed, []⟩, next)

end Proofs

def hydrateFromCache (r : DeviceRegistry) (cached : List CachedDevice) :
    MergeResult × DeviceRegistry :=
  if r.devices ≠ ∅ then ({}, r)
  else
    let devices := cached.foldl Devices.hydrateEntry r.devices
    (⟨decide (devices ≠ ∅), []⟩, { r with devices := devices })

def hydrateManualNodes (r : DeviceRegistry) (nodes : List ManualNode) (now : String) :
    Bool × DeviceRegistry :=
  let (changed, devices) := nodes.foldl (Devices.hydrateNode now) (false, r.devices)
  (changed, { r with devices := devices })

def mergeArp (r : DeviceRegistry) (device : ArpDevice) : MergeResult × DeviceRegistry :=
  if r.verificationScope.isSome then ({}, r)
  else
    let (result, devices) := r.devices.mergeArpLocked device true
    (result, { r with devices := devices })

def mergeArpFenced (r : DeviceRegistry) (device : ArpDevice) (stale : Bool) :
    MergeResult × DeviceRegistry :=
  if stale then ({}, r) else r.mergeArp device

def mergeScanResultFenced (r : DeviceRegistry) (key : String) (openPorts : List UInt16)
    (stale : Option Bool) : Bool × DeviceRegistry :=
  if stale = some true then (false, r)
  else
    match r.devices.lookup key with
    | none => (false, r)
    | some record =>
      if record.openPorts ≠ openPorts then
        (true, { r with devices := r.devices.insert key { record with openPorts := openPorts } })
      else (false, r)

/-- A role goes to the selected key and leaves its previous holder. -/
def assignAlias (key aliasName : String) (r : DeviceRecord) : DeviceRecord :=
  if r.mac = key then { r with aliasName := aliasName }
  else if isRoleAlias aliasName ∧ r.aliasName = aliasName then { r with aliasName := "" }
  else r

/-- The roles that more than one record holds. -/
def ambiguousRoles (devices : Devices) : List String :=
  roleAliases.filter fun role =>
    1 < (devices.keys.filter fun key => (devices.lookup key).any (·.aliasName == role)).card

def resolveRole (ambiguous : List String) (r : DeviceRecord) : DeviceRecord :=
  if r.status = .offlineAmbiguousRole ∧ r.aliasName ∉ ambiguous then { r with status := .offline }
  else r

/-- The addresses of the records two maps hold differently. -/
def changedMacs (devices devices' : Devices) : Finset String :=
  (devices.keys.filter fun key => devices.lookup key != devices'.lookup key).biUnion fun key =>
    ((devices.lookup key).map (·.mac)).toFinset

def setAlias (r : DeviceRegistry) (key aliasName : String) : Finset String × DeviceRegistry :=
  if key ∉ r.devices then (∅, r)
  else
    let assigned : Devices := r.devices.mapValues fun _ => assignAlias key aliasName
    let resolved : Devices := assigned.mapValues fun _ => resolveRole (ambiguousRoles assigned)
    (changedMacs r.devices resolved, { r with devices := resolved })

def markRole (role : String) (r : DeviceRecord) : DeviceRecord :=
  if r.aliasName = role then { r with status := .offlineAmbiguousRole } else r

def normalizeRoleDuplicates (r : DeviceRegistry) : Finset String × DeviceRegistry :=
  let devices := roleAliases.foldl (fun (devices : Devices) role =>
    if role ∈ ambiguousRoles devices then devices.mapValues fun _ => markRole role else devices)
    r.devices
  (changedMacs r.devices devices, { r with devices := devices })

def setStatus (r : DeviceRegistry) (mac : String) (status : DeviceStatus) : Bool × DeviceRegistry :=
  if status = .live then (false, r)
  else
    match r.devices.lookup mac with
    | none => (false, r)
    | some record =>
      if record.status ≠ status then
        (true, { r with devices := r.devices.insert mac { record with status := status } })
      else (false, r)

def setVerificationScope (r : DeviceRegistry) (adapter : Option String) : DeviceRegistry :=
  { r with verificationScope := some (adapter.bind canonicalMac) }

def rememberVerifiedAt (r : DeviceRegistry) (mac wall : String) (proved : ℕ) (stale : Bool) :
    DeviceRegistry :=
  if stale then r
  else
    let key := (recordKeyForMac r.devices mac).filter fun key =>
      ((r.devices.lookup key).bind (·.lastVerifiedAt)) == some wall
    match key with
    | none => r
    | some key => { r with evidence := r.evidence.insert key (proved + FRESHNESS) }

/-- A live record without evidence that outlasts `now` goes offline. -/
def expireRecord (evidence : FiniteMap String ℕ) (now : ℕ) (r : DeviceRecord) : DeviceRecord :=
  if r.status = .live ∧ (evidence.lookup r.mac).all (fun deadline => decide (deadline ≤ now)) then
    { r with status := .offline }
  else r

def expireEvidence (r : DeviceRegistry) (now : ℕ) : Bool × DeviceRegistry :=
  let devices : Devices := r.devices.mapValues fun _ => expireRecord r.evidence now
  (decide (devices ≠ r.devices), { r with
    devices := devices
    evidence := r.evidence.retain fun key deadline => decide (key ∈ devices ∧ now < deadline) })

def demote (r : DeviceRecord) : DeviceRecord :=
  if r.status = .live then { r with status := .offline } else r

def expireAll (r : DeviceRegistry) : Bool × DeviceRegistry :=
  let devices : Devices := r.devices.mapValues fun _ => demote
  (decide (devices ≠ r.devices), { r with devices := devices, evidence := ∅ })

def removeByMac (r : DeviceRegistry) (mac : String) : Bool × DeviceRegistry :=
  (decide (mac ∈ r.devices), { r with devices := r.devices.erase mac })

def forget (r : DeviceRegistry) (mac : String) : Bool × DeviceRegistry := r.removeByMac mac

def removeManualEntries (r : DeviceRegistry) : Bool × DeviceRegistry :=
  let devices : Devices := r.devices.retain fun key _ => !"manual:".toList.isPrefixOf key.toList
  (decide (devices ≠ r.devices), { r with devices := devices })

end DeviceRegistry

end PocketStream
