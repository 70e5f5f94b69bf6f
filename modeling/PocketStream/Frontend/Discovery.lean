import Mathlib.Data.Finset.Basic
import PocketStream.Config.Settings
import PocketStream.Foundation.Machine
import PocketStream.Registry.DeviceRegistry

/-! # Discovery and port scans of the window

Every routable device is scanned once a session. A scan is a chain of attempts with
a pause between them. The address stays marked while its chain is under way, and the
chains under way, the phase of the spinner and its grace period are kept together.
-/

namespace PocketStream

open Foundation

def MAX_SCAN_RETRIES : ℕ := 2

def RETRY_DELAY_MS : ℕ := 4000

def INITIAL_DISCOVERY_GRACE_MS : ℕ := 60000

inductive DiscoveryPhase where
  | discovering
  | scanning
  | idle
  deriving DecidableEq

namespace Discovery

structure ScanResult where
  reachable : Bool
  openPorts : List UInt16
  deriving DecidableEq

/-- What an attempt waits for: the reply of its scan, or the pause before the next one. -/
inductive Wait where
  | reply
  | retry (due : ℕ)
  deriving DecidableEq

/-- A chain under way, and how often the marks had been cleared when it started. -/
structure Chain where
  id : ℕ
  mac : String
  ip : String
  attempt : ℕ
  epoch : ℕ
  wait : Wait
  deriving DecidableEq

/-- The chain of the given number waits for something else. -/
def Chain.awaits (c : Chain) (id attempt : ℕ) (wait : Wait) : Chain :=
  if c.id = id then { c with attempt := attempt, wait := wait } else c

/-- The end of a chain: whether it found a port, and whether its address may be scanned again. -/
structure Ending where
  id : ℕ
  ip : String
  found : Bool
  eligible : Bool
  deriving DecidableEq

end Discovery

/-- The module state of `devices.ts` and what it reads of its surroundings. -/
structure Discovery where
  now : ℕ
  networkMode : Option NetworkMode
  interfaceConnected : Bool
  devices : List DeviceRecord
  hasRouteToSubnet : String → Bool
  scannedIps : Finset String
  scanReadyKeys : List (String × String)
  pendingScans : ℤ
  discoveryPhase : DiscoveryPhase
  initialFlowComplete : Bool
  /-- Zero as long as the first flow has not begun. -/
  initialFlowStartedAt : ℕ
  /-- When the timer is due. -/
  graceTimer : Option ℕ
  chains : List Discovery.Chain
  clears : ℕ
  next : ℕ
  endings : List Discovery.Ending

namespace Discovery

variable (s : Discovery)

def initial : Discovery where
  now := 1
  networkMode := none
  interfaceConnected := false
  devices := []
  hasRouteToSubnet _ := false
  scannedIps := ∅
  scanReadyKeys := []
  pendingScans := 0
  discoveryPhase := .idle
  initialFlowComplete := false
  initialFlowStartedAt := 0
  graceTimer := none
  chains := []
  clears := 0
  next := 0
  endings := []

def isManual : Bool := s.networkMode == some .staticManual

/-! ### The phase -/

def setDiscoveryPhase (phase : DiscoveryPhase) : Discovery :=
  let phase := if s.isManual then .idle else phase
  let phase := if phase = .discovering ∧ s.initialFlowComplete then .idle else phase
  { s with
    initialFlowStartedAt :=
      if phase ≠ .idle ∧ !s.initialFlowComplete ∧ s.initialFlowStartedAt = 0 then s.now
      else s.initialFlowStartedAt
    discoveryPhase := phase
    -- only scanning that ends completes the first flow
    initialFlowComplete :=
      s.initialFlowComplete || (phase == .idle && s.discoveryPhase == .scanning) }

def initialGraceRemaining : ℤ :=
  if s.isManual || s.initialFlowComplete || s.initialFlowStartedAt == 0 then 0
  else s.initialFlowStartedAt + INITIAL_DISCOVERY_GRACE_MS - s.now

def clearGraceTimer : Discovery := { s with graceTimer := none }

def armGraceTimer (delay : ℕ) : Discovery :=
  { s.clearGraceTimer with graceTimer := some (s.now + delay) }

def graceTimerFires : Discovery :=
  let s := { s with graceTimer := none }
  if 0 < s.pendingScans then s
  else if s.discoveryPhase = .discovering then
    { s with initialFlowComplete := true }.setDiscoveryPhase .idle
  else s

def hideDiscoveryStatus : Discovery := s.clearGraceTimer.setDiscoveryPhase .idle

/-! ### A chain -/

def removeChain (id : ℕ) : Discovery := { s with chains := s.chains.filter (·.id ≠ id) }

/-- The chain is over; what it leaves behind is noted. -/
def endChain (chain : Chain) (found : Bool) : Discovery :=
  { s.removeChain chain.id with
    endings := ⟨chain.id, chain.ip, found, chain.ip ∉ s.scannedIps⟩ :: s.endings }

/-- A chain that leaves early in Manual mode. -/
def leaveManual (chain : Chain) (found : Bool) : Discovery :=
  { s with pendingScans := s.pendingScans - 1 }.endChain chain found

/-- The phase once no chain is under way: the first flow holds it for the rest of its grace. -/
def scansDone : Discovery :=
  if s.pendingScans ≤ 0 then
    let grace := s.initialGraceRemaining
    if 0 < grace then (s.setDiscoveryPhase .discovering).armGraceTimer grace.toNat
    else s.setDiscoveryPhase .idle
  else s

/-- The last part of a chain. -/
def finish (chain : Chain) (found : Bool) : Discovery :=
  { s with pendingScans := s.pendingScans - 1 }.scansDone.endChain chain found

/-- The last attempt has found no port: the mark is released. -/
def giveUp (chain : Chain) : Discovery :=
  { s with scannedIps := s.scannedIps.erase chain.ip }.finish chain false

/-- The chain waits in the given way, in the given attempt. -/
def await (chain : Chain) (attempt : ℕ) (wait : Wait) : Discovery :=
  { s with chains := s.chains.map (·.awaits chain.id attempt wait) }

def retryLater (chain : Chain) : Discovery :=
  s.await chain chain.attempt (.retry (s.now + RETRY_DELAY_MS))

/-- `scanDevicePorts` for a device that is not scanned yet, up to the request. -/
def scanDevicePorts (mac ip : String) : Discovery :=
  if s.isManual then s
  else if ip ∈ s.scannedIps then s
  else
    { s with
      scannedIps := insert ip s.scannedIps
      pendingScans := s.pendingScans + 1
      chains := ⟨s.next, mac, ip, 0, s.clears, .reply⟩ :: s.chains
      next := s.next + 1 }

/-- `scanDevicePorts` for the next attempt of a chain. -/
def nextAttempt (chain : Chain) : Discovery :=
  if s.isManual then s.leaveManual chain false
  else
    { s with scannedIps := insert chain.ip s.scannedIps }.await chain (chain.attempt + 1) .reply

def foundPort (results : List ScanResult) : Bool :=
  results.any fun r => r.reachable && !r.openPorts.isEmpty

/-- The reply of a scan: its results, or none of them because it failed. -/
def scanReply (chain : Chain) : Option (List ScanResult) → Discovery
  | some results =>
    if s.isManual then s.leaveManual chain (foundPort results)
    else if foundPort results then s.finish chain true
    else if chain.attempt < MAX_SCAN_RETRIES then s.retryLater chain
    else s.giveUp chain
  | none =>
    if chain.attempt < MAX_SCAN_RETRIES ∧ !s.isManual then s.retryLater chain
    else s.giveUp chain

/-! ### Admission -/

/-- Live, routed and not scanned yet. -/
def toScan : List DeviceRecord :=
  s.devices.filter fun r =>
    r.status == .live && r.ip ∉ s.scannedIps && s.hasRouteToSubnet r.subnet

def scanAllRoutableDevices : Discovery :=
  if s.isManual || !s.interfaceConnected then s
  else
    match s.toScan with
    | [] => s
    | toScan => toScan.foldl (fun s r => s.scanDevicePorts r.mac r.ip)
        (s.setDiscoveryPhase .scanning)

def resetDiscoveryStatus : Discovery :=
  let s := { s with scannedIps := ∅, clears := s.clears + 1 }.clearGraceTimer
  ({ s with initialFlowComplete := false, initialFlowStartedAt := 0 }.setDiscoveryPhase
    .discovering).scanAllRoutableDevices

/-- The subscriber of the device list. -/
def onDevices (snapshot : List DeviceRecord) : Discovery :=
  let s := { s with devices := snapshot }
  let ready := snapshot.filter fun r => r.status == .live && s.hasRouteToSubnet r.subnet
  let newPeer := ready.any fun r => (r.mac, r.ip) ∉ s.scanReadyKeys && r.ip ∉ s.scannedIps
  let s := { s with scanReadyKeys := ready.map fun r => (r.mac, r.ip) }
  if newPeer then s.scanAllRoutableDevices else s

/-- An ARP event of a device that is not this host; `known` when the list has it. -/
def arpDeviceDiscovered (known : Bool) : Discovery :=
  if !s.interfaceConnected || known then s
  else
    let s := if s.discoveryPhase = .idle then s.setDiscoveryPhase .discovering else s
    s.scanAllRoutableDevices

/-- A dead capture channel ends the grace period. -/
def discoveryDegraded : Discovery :=
  if s.graceTimer.isSome then
    let s := s.clearGraceTimer
    if s.pendingScans ≤ 0 then { s with initialFlowComplete := true }.setDiscoveryPhase .idle else s
  else s

/-- `loadExistingArpState` once the bindings are read. -/
def existingArpState : Discovery :=
  if s.devices.isEmpty then s.setDiscoveryPhase .discovering else s.scanAllRoutableDevices

inductive Call where
  | elapse (ms : ℕ)
  | networkMode (mode : Option NetworkMode)
  | interfaceConnected (connected : Bool)
  /-- `setDiscoveryPhase` where the listeners are set up or the state is loaded. -/
  | setDiscoveryPhase (discovering : Bool)
  | hideDiscoveryStatus
  | resetDiscoveryStatus
  | onDevices (snapshot : List DeviceRecord)
  /-- The routes change, as when a subnet is adopted or removed. -/
  | routes (hasRouteToSubnet : String → Bool)
  | subnetAdopted
  | arpDeviceDiscovered (known : Bool)
  | discoveryDegraded
  | existingArpState
  | scanReply (id : ℕ) (reply : Option (List ScanResult))
  | retryTimer (id : ℕ)
  | graceTimer

/-- The chain of a number that waits for a reply. -/
def replying (id : ℕ) : Option Chain := s.chains.find? fun c => c.id = id && c.wait = .reply

/-- The chain of a number whose pause is over. -/
def retrying (id : ℕ) : Option Chain :=
  s.chains.find? fun c => c.id = id &&
    match c.wait with
    | .reply => false
    | .retry due => due ≤ s.now

def step (s : Discovery) : Call → Option Discovery
  | .elapse ms => some { s with now := s.now + ms }
  | .networkMode mode => some { s with networkMode := mode }
  | .interfaceConnected connected => some { s with interfaceConnected := connected }
  | .setDiscoveryPhase discovering =>
    some (s.setDiscoveryPhase (if discovering then .discovering else .idle))
  | .hideDiscoveryStatus => some s.hideDiscoveryStatus
  | .resetDiscoveryStatus => some s.resetDiscoveryStatus
  | .onDevices snapshot => some (s.onDevices snapshot)
  | .routes hasRouteToSubnet => some { s with hasRouteToSubnet := hasRouteToSubnet }
  | .subnetAdopted => some s.scanAllRoutableDevices
  | .arpDeviceDiscovered known => some (s.arpDeviceDiscovered known)
  | .discoveryDegraded => some s.discoveryDegraded
  | .existingArpState => some s.existingArpState
  | .scanReply id reply => (s.replying id).map fun chain => s.scanReply chain reply
  | .retryTimer id => (s.retrying id).map fun chain => s.nextAttempt chain
  | .graceTimer =>
    match s.graceTimer with
    | none => none
    | some due => if due ≤ s.now then some s.graceTimerFires else none

def machine : Machine Discovery Call where
  initial := initial
  step := step

/-- The chain that a call ends, and whether it found a port, if it leaves in Manual mode. -/
def leaves : Call → Option (Chain × Bool)
  | .scanReply id (some results) =>
    if s.isManual then (s.replying id).map fun chain => (chain, foundPort results) else none
  | .retryTimer id => if s.isManual then (s.retrying id).map fun chain => (chain, false) else none
  | _ => none

/-- The chain that a call ends with its mark released. -/
def releases : Call → Option Chain
  | .scanReply id reply =>
    (s.replying id).filter fun chain =>
      match reply with
      | some results =>
        !s.isManual && !foundPort results && decide (MAX_SCAN_RETRIES ≤ chain.attempt)
      | none => s.isManual || decide (MAX_SCAN_RETRIES ≤ chain.attempt)
  | _ => none

/-- A chain that leaves early found a port or has no mark to release, and is not the last one of
the phase; and a mark is not released under a later chain. -/
structure Tidy (s : Discovery) (call : Call) : Prop where
  leaves : ∀ x ∈ s.leaves call, (x.2 = true ∨ x.1.ip ∉ s.scannedIps) ∧
    ¬(s.discoveryPhase = .scanning ∧ s.pendingScans = 1)
  releases : ∀ chain ∈ s.releases call, ∀ c ∈ s.chains,
    c.id ≠ chain.id → c.ip = chain.ip → c.epoch ≠ s.clears

instance (call : Call) : Decidable (Tidy s call) :=
  decidable_of_iff
    ((∀ x ∈ s.leaves call, (x.2 = true ∨ x.1.ip ∉ s.scannedIps) ∧
        ¬(s.discoveryPhase = .scanning ∧ s.pendingScans = 1)) ∧
      ∀ chain ∈ s.releases call, ∀ c ∈ s.chains,
        c.id ≠ chain.id → c.ip = chain.ip → c.epoch ≠ s.clears)
    ⟨fun h => ⟨h.1, h.2⟩, fun h => ⟨h.leaves, h.releases⟩⟩

end Discovery

end PocketStream
