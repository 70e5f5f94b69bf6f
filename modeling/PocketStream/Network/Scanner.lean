import Mathlib.Data.List.Sort
import PocketStream.Binding.NetworkLaws
import PocketStream.Foundation.Machine
import PocketStream.Foundation.Window
import PocketStream.Network.Readiness

/-! # Scans of a subnet

A scan pulls the addresses of its network one after another and probes the eligible
ones, at most so many at a time: whenever a probe ends, in whatever order and way, the
next eligible address is probed.
-/

namespace PocketStream

open Foundation

namespace Scanner

def PROBE_PORTS : List UInt16 := [22, 80, 443, 554, 8080, 8554, 8899]

def MAX_SCAN_ADDRESSES : ℕ := 4096

def MAX_INFLIGHT_HOSTS : ℕ := 256

structure ScanResult where
  key : Option String
  source : Option String
  interfaceIndex : UInt32
  ip : String
  reachable : Bool
  openPorts : List UInt16
  deriving DecidableEq

/-- The adapter of a scan; its two fences are read as stale or not. -/
structure ScanScope where
  index : UInt32
  ips : List IpInfo
  identities : FiniteMap Ipv4Addr String

def checkScanSize (prefixLen : UInt8) : Fallible Unit :=
  let addresses := 1 <<< (32 - prefixLen.toNat)
  if MAX_SCAN_ADDRESSES < addresses then
    .error (.network (s!"Subnet /{prefixLen} has {addresses} addresses — too large to scan " ++
      s!"(limit {MAX_SCAN_ADDRESSES} ≈ /20). Narrow the range; /16 and wider are rejected to " ++
      "avoid a multi-minute scan."))
  else .ok ()

/-- A network of the `ipnetwork` crate. -/
abbrev Network := Ipv4Addr × UInt8

def isScannable (host : Ipv4Addr) (network : Network) : Bool :=
  if 30 < network.2 then true
  else host != IpNetwork.cidr.network network && host != IpNetwork.cidr.broadcast network

/-- `Ipv4Network::iter`: from the network address to the broadcast address. -/
def addresses (network : Network) : List Ipv4Addr :=
  (List.range (2 ^ (32 - network.2.toNat))).map fun i =>
    .ofNat ((IpNetwork.cidr.network network).toNat + i)

/-- What a probe is spawned with. -/
structure HostProbe where
  host : Ipv4Addr
  source : Ipv4Addr
  key : Option String
  deriving DecidableEq

/-- How the task of a probe ends: it panics, or its ports are joined in some order, each open or
not. -/
inductive Outcome where
  | panicked
  | joined (order : List UInt16) (isOpen : UInt16 → Bool)

/-- What a scan works on. `agrees` is the platform's check of a source and an index on the way to a
host. -/
structure Job where
  network : Network
  scope : ScanScope
  localIps : List Ipv4Addr
  agrees : UInt32 → Ipv4Addr → Ipv4Addr → Bool

namespace Job

variable (job : Job)

/-- The filters of the host iterator. -/
def probe? (host : Ipv4Addr) : Option HostProbe :=
  if !isScannable host job.network then none
  else if prohibitedCameraIp host || job.localIps.contains host then none
  else
    match selectWiredSource host [] job.scope.ips with
    | none => none
    | some source =>
      if !job.agrees job.scope.index host source then none
      else some ⟨host, source, job.scope.identities.lookup host⟩

/-- `hosts.next()`, with what is left of the iterator. -/
def nextHost : List Ipv4Addr → Option (HostProbe × List Ipv4Addr)
  | [] => none
  | host :: rest =>
    match job.probe? host with
    | some probe => some (probe, rest)
    | none => nextHost rest

end Job

/-- The result of `probe_host_at`, its ports in the order in which they were joined. -/
def probeHostAt (index : UInt32) (probe : HostProbe) (order : List UInt16)
    (isOpen : UInt16 → Bool) : ScanResult :=
  let openPorts := (order.filter isOpen).mergeSort (· ≤ ·)
  { key := probe.key
    source := some probe.source.toText
    interfaceIndex := index
    ip := probe.host.toText
    reachable := !openPorts.isEmpty
    openPorts := openPorts }

/-- The order of `Option<IpAddr>`. -/
def sortsBefore (a b : ScanResult) : Bool :=
  match Ipv4Addr.parse a.ip, Ipv4Addr.parse b.ip with
  | none, _ => true
  | some _, none => false
  | some x, some y => decide (x.toNat ≤ y.toNat)

/-- The locals of `scan_hosts`. Every spawned probe and every joined one is kept. -/
structure ScanHosts where
  hosts : List Ipv4Addr
  joinSet : List HostProbe
  results : List ScanResult
  spawned : List HostProbe
  joined : List (HostProbe × Outcome)
  returned : Option (List ScanResult)
  /-- A fence became stale, and `scan` dropped the rest. -/
  dropped : Bool

namespace ScanHosts

variable (job : Job) (s : ScanHosts)

def spawnNext : ScanHosts :=
  match job.nextHost s.hosts with
  | none => { s with hosts := [] }
  | some (probe, rest) =>
    { s with hosts := rest, joinSet := s.joinSet ++ [probe], spawned := s.spawned ++ [probe] }

/-- The loop over `hosts.by_ref().take(n)`. -/
def spawnSome : ℕ → ScanHosts → ScanHosts
  | 0, s => s
  | n + 1, s => spawnSome n (s.spawnNext job)

/-- What a joined task pushes. -/
def pushed (probe : HostProbe) : Outcome → List ScanResult
  | .panicked => []
  | .joined order isOpen =>
    let result := probeHostAt job.scope.index probe order isOpen
    if result.reachable then [result] else []

def joinNext (i : ℕ) (outcome : Outcome) : Option ScanHosts :=
  s.joinSet[i]?.map fun probe =>
    { s with
      joinSet := s.joinSet.eraseIdx i
      results := s.results ++ pushed job probe outcome
      joined := s.joined ++ [(probe, outcome)] }.spawnNext job

end ScanHosts

inductive Call where
  | join (i : ℕ) (outcome : Outcome)
  /-- No task is left. -/
  | finish
  /-- One of the fences of the scope is found stale. -/
  | cancelled

/-- The order in which ports are joined is one of theirs. -/
def Outcome.possible : Outcome → Bool
  | .panicked => true
  | .joined order _ => decide (order.Perm PROBE_PORTS)

def step (job : Job) (s : ScanHosts) (call : Call) : Option ScanHosts :=
  if s.returned.isSome then none
  else
    match call with
    | .join i outcome => if outcome.possible then s.joinNext job i outcome else none
    | .finish =>
      if s.joinSet.isEmpty then
        some { s with returned := some (s.results.mergeSort sortsBefore) }
      else none
    | .cancelled => some { s with returned := some [], dropped := true }

/-- `scan` up to the first wait, with whether a fence of the scope is stale. -/
def start (job : Job) (stale : Bool) : ScanHosts :=
  let idle : ScanHosts := ⟨addresses job.network, [], [], [], [], none, false⟩
  if stale then { idle with returned := some [], dropped := true }
  else ScanHosts.spawnSome job MAX_INFLIGHT_HOSTS idle

def machine (job : Job) (stale : Bool) : Machine ScanHosts Call where
  initial := start job stale
  step := step job

/-- `scan`; `reason` is the text of the crate's error for a subnet it does not read. -/
def scan (reason : String → String) (subnet : String) (scope : ScanScope)
    (localIps : List Ipv4Addr) (agrees : UInt32 → Ipv4Addr → Ipv4Addr → Bool) (stale : Bool) :
    Fallible (Machine ScanHosts Call) := do
  let network ←
    match IpNetwork.cidr.parse subnet with
    | some network => .ok network
    | none => .error (.network ("Invalid subnet: " ++ reason subnet))
  checkScanSize network.2
  .ok (machine ⟨network, scope, localIps, agrees⟩ stale)

end Scanner

end PocketStream
