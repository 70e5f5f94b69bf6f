import PocketStream.Binding.Reconcile
import PocketStream.Config.Bindings
import PocketStream.Config.Writers
import PocketStream.Network.EvidenceWatch

/-! # Readiness of a camera path

A path to a camera needs the adapter the presence control offers, an address of
that adapter for the camera's subnet, and a live record of the expected identity
proved through the adapter. Everything is read again for every path.
-/

namespace PocketStream

open Foundation

structure CameraTarget where
  key : String
  expectedMac : Option String
  ip : String
  deriving DecidableEq

structure ReadyPath where
  target : CameraTarget
  source : Ipv4Addr
  index : UInt32
  fence : UInt64
  deriving DecidableEq

/-- An adapter with what its enumeration says of the medium. -/
structure WiredInterface extends InterfaceInfo where
  isEthernet : Bool
  isWifi : Bool
  isVpn : Bool
  isVirtual : Bool
  deriving DecidableEq

/-- What `probe_scope` reads: the offered adapter with the addresses it holds now, without
the pending ones. -/
structure AdapterScope where
  adapter : WiredInterface
  index : UInt32
  fence : UInt64
  deriving DecidableEq

/-- `Ipv4Network::new(addr, prefix)` and whether it contains the target. -/
def networkContains (addr : Ipv4Addr) (prefixLen : UInt8) (target : Ipv4Addr) : Bool :=
  decide (prefixLen ≤ 32) && IpNetwork.cidr.contains (addr, prefixLen) target

def IpInfo.sourceFor (target : Ipv4Addr) (info : IpInfo) : Option Ipv4Addr :=
  (Ipv4Addr.parse info.address).filter fun addr => networkContains addr info.prefixLen target

/-- The adopted addresses come in the order of their map. -/
def selectWiredSource (target : Ipv4Addr) (adopted : List (String × Ipv4Addr))
    (ips : List IpInfo) : Option Ipv4Addr :=
  ((adopted.find? fun row =>
      (IpNetwork.cidr.parse row.1).any fun net => IpNetwork.cidr.contains net target).map (·.2)).or
    (ips.findSome? (IpInfo.sourceFor target))

def notReady (reason : String) : AppError := .network ("Ethernet not ready: " ++ reason)

def WiredInterface.ready (a : WiredInterface) : Bool :=
  a.isUp && a.isEthernet && !a.isWifi && !a.isVirtual && !a.isVpn

/-- The evidence a path asks of the selected record. -/
def DeviceRecord.evidences (row : DeviceRecord) (target : CameraTarget)
    (expected adapterMac : String) : Bool :=
  eqIgnoreAsciiCase row.mac expected && row.ip == target.ip && row.status == .live &&
    row.lastVerifiedAt.isSome && row.verifiedByMac.bind canonicalMac == some adapterMac

def checkBoundReady (target : CameraTarget) (adapter : Option WiredInterface) (index : UInt32)
    (records : List DeviceRecord) : Fallible Ipv4Addr := do
  let ip ← parseCameraIp target.ip
  match adapter.filter WiredInterface.ready with
  | none => .error (notReady "selected adapter unavailable")
  | some adapter =>
    if index = 0 then .error (notReady "selected adapter has no interface index")
    else
      match (selectWiredSource ip [] adapter.ips).filter
          fun source => source != ip && !prohibitedCameraIp source with
      | none => .error (notReady "no applied address on the selected adapter for this subnet")
      | some source =>
        match target.expectedMac.bind canonicalMac with
        | none => .error (notReady "expected device identity has not been verified")
        | some expected =>
          match (canonicalMac adapter.mac).filter (· != expected) with
          | none => .error (notReady "invalid or self adapter identity")
          | some adapterMac =>
            match records.find? fun r => eqIgnoreAsciiCase r.mac target.key with
            | none => .error (notReady "selected record is unavailable")
            | some row =>
              if row.evidences target expected adapterMac then .ok source
              else .error (notReady "expected MAC lacks fresh evidence at this endpoint")

def checkReady (target : CameraTarget) (adapter : Option WiredInterface) (index : UInt32)
    (records : List DeviceRecord) (egress : Option UInt32) : Fallible Ipv4Addr :=
  if egress ≠ some index then
    .error (notReady "OS route does not select the selected Ethernet adapter")
  else checkBoundReady target adapter index records

def isManualKey (key : String) : Bool := "manual:".toList.isPrefixOf key.toList

namespace CameraTarget

/-- The hardware address saved for a manual key. -/
def savedMac (nodes : List ManualNode) (key : String) : Option String :=
  (nodes.find? fun n => manualNodeKey n == key || "manual:" ++ n.ip == key).bind (·.expectedMac)

/-- A manual key follows the address saved for its node. -/
def resolve (nodes : List ManualNode) (target : CameraTarget) : Fallible CameraTarget :=
  if isManualKey target.key then
    match savedMac nodes target.key with
    | none => .ok target
    | some expected =>
      if target.expectedMac.any fun mac => !eqIgnoreAsciiCase mac expected then
        .error (.network "Manual expected identity changed")
      else .ok { target with key := expected, expectedMac := some expected }
  else .ok target

end CameraTarget

/-- What the OS answers: the interface of its route to an address, and whether a source
belongs to an interface. -/
structure NativeRoutes where
  egressIndex : Ipv4Addr → Option UInt32
  sourceMatchesInterface : UInt32 → Ipv4Addr → Bool

/-- `CameraReadiness`, with the manual nodes of the configuration. -/
structure CameraReadiness where
  presence : Control
  registry : DeviceRegistry
  manualNodes : List ManualNode

namespace CameraReadiness

/-- A bound transport needs no route of the OS. -/
def check (records : List DeviceRecord) (scope : AdapterScope) (routes : NativeRoutes)
    (target : CameraTarget) (ip : Ipv4Addr) (bound : Bool) : Fallible Ipv4Addr :=
  if bound then checkBoundReady target (some scope.adapter) scope.index records
  else checkReady target (some scope.adapter) scope.index records (routes.egressIndex ip)

/-- The path for a target against one snapshot; the gate is read last. -/
def path (nodes : List ManualNode) (records : List DeviceRecord) (scope : Option AdapterScope)
    (routes : NativeRoutes) (gate : Gate) (target : CameraTarget) (bound : Bool) :
    Fallible ReadyPath := do
  let target ← target.resolve nodes
  match scope with
  | none => .error (.network "Selected Ethernet adapter unavailable")
  | some scope =>
    let ip ← parseCameraIp target.ip
    let source ← check records scope routes target ip bound
    if !routes.sourceMatchesInterface scope.index source then
      .error (.network "Ethernet source address is absent or ambiguous")
    else if !gate.valid scope.fence then .error (.network "Ethernet adapter changed")
    else .ok { target := target, source := source, index := scope.index, fence := scope.fence }

/-- The tick comes first, so the records are expired when they are read. -/
def cameraPathNow (s : CameraReadiness) (now : ℕ) (scope : Option AdapterScope)
    (routes : NativeRoutes) (gate : Gate) (target : CameraTarget) (bound : Bool) :
    Fallible ReadyPath × CameraReadiness :=
  let (_, presence, registry) := s.presence.tick s.registry now
  (path s.manualNodes registry.snapshot scope routes gate target bound,
    { s with presence := presence, registry := registry })

end CameraReadiness

end PocketStream
