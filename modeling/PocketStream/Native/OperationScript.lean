import PocketStream.Foundation.Routine
import PocketStream.Native.Operations
import PocketStream.Native.PowerShell

/-! # The native operation script

The script behind the native operations. It reads the state of the selected
adapter, carries out the one operation it was given, resolves the adapter anew
before each write, and reads the state again for the postcondition.
-/

namespace PocketStream

open Foundation Routine

/-- What the script reads; `address` and `prefix` are null for the kinds without them. -/
structure OperationInput where
  version : ℕ
  kind : Kind
  identity : Option NativeIdentity
  address : Option String
  prefixLen : Option UInt8
  automatic : Bool

/-- `Operation::payload` -/
def Operation.input (op : Operation) : OperationInput :=
  ⟨1, op.kind, op.identity, op.address.map Ipv4Addr.toText, op.prefixLen, op.automatic⟩

def Kind.wire : Kind → String
  | inventory => "inventory"
  | observe => "observe"
  | addAddress => "add_address"
  | removeAddress => "remove_address"
  | staticAddress => "static_address"
  | dhcp => "dhcp"
  | restart => "restart"
  | renew => "renew"

structure AdapterRow where
  name : String
  interfaceGuid : String
  ifIndex : UInt32
  description : String
  macAddress : String
  mediaType : String
  physicalMediaType : String
  ndisPhysicalMedium : ℕ
  status : String
  isVirtual : Bool

structure AddressRow where
  interfaceIndex : UInt32
  ipAddress : String
  prefixLength : UInt8
  prefixOrigin : String

structure RouteRow where
  interfaceIndex : UInt32
  destination : String
  nextHop : String
  protocol : String

structure InterfaceRow where
  interfaceIndex : UInt32
  dhcp : String

structure DnsRow where
  interfaceIndex : UInt32
  serverAddresses : List String

/-- `Read-State` -/
structure NicState where
  nic : AdapterRow
  addresses : List AddressRow
  routes : List RouteRow
  dhcp : Bool
  dns : List String
  dnsManual : String

/-- The data of a report: the adapters with their addresses, or the state of one. -/
inductive ScriptData where
  | inventory (rows : List (AdapterRow × List AddressRow))
  | state (state : ObservedState)

/-- What the operation script takes from its host, besides its texts. -/
structure ScriptHost extends PowerShell where
  /-- `\p{L}` or `\p{N}` -/
  isWordChar : Char → Bool
  isSpace : Char → Bool
  /-- The bytes of `[Net.IPAddress]::Parse`. -/
  parseBytes : String → Option (List UInt8)

namespace ScriptHost

variable (host : ScriptHost)

def isSelected (id : NativeIdentity) (nic : AdapterRow) : Bool :=
  host.same (host.guidText nic.interfaceGuid) id.guid &&
    host.same (host.macText nic.macAddress) id.mac

/-- `Resolve-Selected` -/
def resolve (id : NativeIdentity) (all : List AdapterRow) : Except String AdapterRow :=
  match all.filter (host.isSelected id) with
  | [nic] =>
    if nic.ifIndex ≠ id.index then .error "Identity changed"
    else if nic.isVirtual ∨ ¬ host.same nic.mediaType "802.3" ∨
        nic.ndisPhysicalMedium ∈ [1, 8, 9, 10, 12, 13, 20] then .error "Unsupported adapter"
    else if all.countP (fun a => a.ifIndex == nic.ifIndex || host.exactly a.name nic.name) ≠ 1 then
      .error "Ambiguous adapter"
    else .ok nic
  | _ => .error "Identity changed"

def addressBytes (address : String) : Except String (List UInt8) :=
  match host.parseBytes address with
  | some b => .ok b
  | none => .error "An invalid IP address was specified"

/-- `Check-Host` -/
def checkHost (address : String) (prefixLen : ℕ) : Except String Unit := do
  match ← host.addressBytes address with
  | [b0, b1, b2, b3] =>
    if prefixLen < 1 ∨ 32 < prefixLen ∨ b0 = 0 ∨ b0 = 127 ∨ 224 ≤ b0 then .error "Invalid host"
    else if prefixLen ≤ 30 then
      let n := b0.toNat * 16777216 + b1.toNat * 65536 + b2.toNat * 256 + b3.toNat
      let size := 2 ^ (32 - prefixLen)
      if n % size = 0 ∨ n % size = size - 1 then .error "Network or broadcast host" else .ok ()
    else .ok ()
  | _ => .error "Invalid host"

/-- The octet of the mask that covers a byte. -/
def maskOctet (prefixLen i : ℕ) : ℕ := 256 - 2 ^ (8 - min 8 (prefixLen - 8 * i))

/-- `Compatible` -/
def compatible (gateway address : String) (prefixLen : ℕ) : Except String Bool := do
  if host.same gateway address then return false
  let a ← host.addressBytes address
  let g ← host.addressBytes gateway
  return (List.range 4).all fun i =>
    (a.getD i 0).toNat &&& maskOctet prefixLen i == (g.getD i 0).toNat &&& maskOctet prefixLen i

def maskText (prefixLen : ℕ) : String :=
  ".".intercalate ((List.range 4).map fun i => toString (maskOctet prefixLen i))

def isHexChar (ch : Char) : Bool := ch.isDigit || ('a' ≤ ch.toLower && ch.toLower ≤ 'f')

/-- A text without the line end that `$` matches before. -/
def line (text : String) : List Char :=
  if text.toList.getLast? = some '\n' then text.toList.dropLast else text.toList

/-- The names that ipconfig takes without their wildcards. -/
def plainName (name : String) : Bool :=
  1 ≤ (line name).length && (line name).length ≤ 128 &&
    (line name).all fun ch => host.isWordChar ch || " _().-".toList.contains ch

def guidShaped (guid : String) : Bool :=
  (line guid).length == 36 && (line guid).all fun ch => isHexChar ch || ch == '-'

def macShaped (mac : String) : Bool :=
  (line mac).length == 17 && (line mac).zipIdx.all fun (ch, i) =>
    if i % 3 = 2 then ch == ':' else isHexChar ch

end ScriptHost

/-! ### The calls of the script -/

inductive ScriptCall where
  | version
  | importModule (name : String)
  | readInput
  | parseInput
  | isAdministrator
  | adapters
  | addresses
  | routes
  | interfaces
  | dnsServers
  | nameServer (guid : String)
  | newAddress (index : UInt32) (address : String) (prefixLen : UInt8)
  | removeAddress (row : AddressRow)
  | removeRoute (row : RouteRow)
  | enableDhcp (index : UInt32)
  | resetDns (index : UInt32)
  | restartAdapter (nic : AdapterRow)
  | netsh (arguments : List String)
  | ipconfig (action name : String)

/-- The input is read as its size; an exit code may be missing. -/
@[reducible] def ScriptCall.Reply : ScriptCall → Type
  | version => ℕ × ℕ
  | readInput => ℕ
  | parseInput => Except CmdletError OperationInput
  | isAdministrator => Bool
  | adapters => Except CmdletError (List AdapterRow)
  | addresses => Except CmdletError (List AddressRow)
  | routes => Except CmdletError (List RouteRow)
  | interfaces => Except CmdletError (List InterfaceRow)
  | dnsServers => Except CmdletError (List DnsRow)
  | nameServer _ => Except CmdletError String
  | netsh _ | ipconfig _ _ => Except CmdletError (Option Int32)
  | _ => Except CmdletError Unit

/-- The calls that change an adapter. -/
def ScriptCall.writes : ScriptCall → Bool
  | newAddress _ _ _ | removeAddress _ | removeRoute _ | enableDhcp _ | resetDns _
  | restartAdapter _ | netsh _ | ipconfig _ _ => true
  | _ => false

/-- The variables of the script that its last report prints. -/
structure ScriptRun where
  stage : String := "trusted_modules"
  mutated : Bool := false
  steps : List ReportStep := []
  nativeExit : Option Int32 := none

abbrev OperationProgram := Routine ScriptCall ScriptCall.Reply ScriptRun String

namespace OperationScript

variable (host : ScriptHost) (data : OperationInput) (id : NativeIdentity)

def stage (name : String) : OperationProgram Unit := change fun t => { t with stage := name }

def mutate : OperationProgram Unit := change fun t => { t with mutated := true }

/-- `Step` -/
def step (name : String) : OperationProgram Unit :=
  change fun t =>
    { t with steps := t.steps ++ [⟨name, true, t.nativeExit⟩], nativeExit := none }

def resolveSelected : OperationProgram AdapterRow := do
  let all ← attempt .adapters CmdletError.stop
  require (host.resolve id all)

/-- What is read of one adapter: all rows are queried and filtered after. -/
def buildState (nic : AdapterRow) (addresses : List AddressRow) (routes : List RouteRow)
    (interfaces : List InterfaceRow) (dns : List DnsRow) : Except String (String → NicState) :=
  match interfaces.filter (·.interfaceIndex == nic.ifIndex),
    dns.filter (·.interfaceIndex == nic.ifIndex) with
  | [mode], [servers] => .ok fun manual =>
    { nic
      addresses := addresses.filter (·.interfaceIndex == nic.ifIndex)
      routes := routes.filter fun r =>
        r.interfaceIndex == nic.ifIndex && host.same r.destination "0.0.0.0/0"
      dhcp := host.same mode.dhcp "Enabled"
      dns := servers.serverAddresses
      dnsManual := manual }
  | _, _ => .error "Ambiguous state"

def readState : OperationProgram NicState := do
  let nic ← resolveSelected host id
  let addresses ← attempt .addresses CmdletError.stop
  let routes ← attempt .routes CmdletError.stop
  let interfaces ← attempt .interfaces CmdletError.stop
  let dns ← attempt .dnsServers CmdletError.stop
  let state ← require (buildState host nic addresses routes interfaces dns)
  let manual ← attempt (.nameServer id.guid) CmdletError.stop
  return state manual

/-- The end of `Native`: the exit code is kept, and must be zero. -/
def finish (code : Option Int32) : OperationProgram Unit := do
  change fun t => { t with nativeExit := code }
  refuseIf (code ≠ some 0) "Required native step failed"

def address : String := data.address.getD ""

def prefixLen : UInt8 := data.prefixLen.getD 0

/-! ### The kinds -/

def addAddress : OperationProgram Unit := do
  let all ← attempt .addresses CmdletError.stop
  refuseIf (all.any fun a => host.same a.ipAddress (address data)) "Address already exists"
  let nic ← resolveSelected host id
  mutate
  attempt (.newAddress nic.ifIndex (address data) (prefixLen data)) CmdletError.stop
  step "add_address"

/-- The removal of the one row that has the address, if any has. -/
def removeRow : List AddressRow → OperationProgram Unit
  | [row] => do
    refuseIf (row.prefixLength ≠ prefixLen data) "Address prefix changed"
    let _ ← resolveSelected host id
    mutate
    attempt (.removeAddress row) CmdletError.stop
  | [] => pure ()
  | _ => throw "Address prefix changed"

def removeAddress (before : NicState) : OperationProgram Unit := do
  removeRow host data id (before.addresses.filter fun a => host.same a.ipAddress (address data))
  step "remove_address"

/-- The gateway to keep, or none. -/
def keptGateway (before : NicState) : Except String (Option String) :=
  match host.distinct ((before.routes.filter fun r => !host.same r.nextHop "0.0.0.0").map
    (·.nextHop)) with
  | [] => .ok none
  | [gateway] => do
    if ← host.compatible gateway (address data) (prefixLen data).toNat then return some gateway
    else throw "Incompatible gateway preservation"
  | _ => .error "Ambiguous gateway"

def netshArguments (nic : AdapterRow) (gateway : Option String) : List String :=
  ["interface", "ipv4", "set", "address", "name=" ++ toString nic.ifIndex.toNat, "source=static",
    "address=" ++ address data, "mask=" ++ ScriptHost.maskText (prefixLen data).toNat,
    "gateway=" ++ gateway.getD "none", "store=persistent"]

def restoreSecondary (row : AddressRow) : OperationProgram Unit :=
  if host.same row.ipAddress (address data) then pure ()
  else do
    let nic ← resolveSelected host id
    let all ← attempt .addresses CmdletError.stop
    if all.any fun a => a.interfaceIndex == nic.ifIndex && host.same a.ipAddress row.ipAddress then
      pure ()
    else attempt (.newAddress nic.ifIndex row.ipAddress row.prefixLength) CmdletError.stop

/-- The gateway that was kept. -/
def staticAddress (before : NicState) : OperationProgram (Option String) := do
  let all ← attempt .adapters CmdletError.stop
  refuseIf (all.any fun a => host.same a.name (toString id.index.toNat))
    "Ambiguous netsh index alias"
  each (fun row => require (host.checkHost row.ipAddress row.prefixLength.toNat)) before.addresses
  let gateway ← require (keptGateway host data before)
  let nic ← resolveSelected host id
  stage "static_primary"
  mutate
  let code ← attempt (.netsh (netshArguments data nic gateway)) CmdletError.stop
  finish code
  step "static_primary"
  stage "restore_secondaries"
  each (restoreSecondary host data id) before.addresses
  step "restore_secondaries"
  return gateway

def removeManual (row : AddressRow) : OperationProgram Unit :=
  if host.same row.prefixOrigin "Manual" then do
    let _ ← resolveSelected host id
    mutate
    attempt (.removeAddress row) CmdletError.stop
  else pure ()

def removeRoute (row : RouteRow) : OperationProgram Unit := do
  let _ ← resolveSelected host id
  mutate
  attempt (.removeRoute row) CmdletError.stop

def runIpconfig (action : String) : OperationProgram Unit := do
  let nic ← resolveSelected host id
  let code ← attempt (.ipconfig action nic.name) CmdletError.stop
  finish code

def enableDhcp (before : NicState) : OperationProgram Unit := do
  stage "remove_manual_addresses"
  each (removeManual host id) before.addresses
  step "remove_manual_addresses"
  stage "remove_default_routes"
  each (removeRoute host id) before.routes
  step "remove_default_routes"
  stage "enable_dhcp"
  let nic ← resolveSelected host id
  mutate
  attempt (.enableDhcp nic.ifIndex) CmdletError.stop
  step "enable_dhcp"
  stage "reset_dns"
  let nic ← resolveSelected host id
  attempt (.resetDns nic.ifIndex) CmdletError.stop
  step "reset_dns"
  stage "renew_lease"
  runIpconfig host id "/renew"
  step "renew_lease"

def renewAction (action : String) : OperationProgram Unit := do
  stage (if action = "/release" then "release_lease" else "renew_lease")
  let nic ← resolveSelected host id
  mutate
  let code ← attempt (.ipconfig action nic.name) CmdletError.stop
  finish code
  step action

def renew (before : NicState) : OperationProgram Unit := do
  refuseIf (¬ before.dhcp) "Adapter is static"
  renewAction host id "/release"
  renewAction host id "/renew"

def restart : OperationProgram Unit := do
  let nic ← resolveSelected host id
  mutate
  attempt (.restartAdapter nic) CmdletError.stop
  step "restart_adapter"

/-- The gateway that a static address has kept. -/
def perform (before : NicState) : OperationProgram (Option String) :=
  match data.kind with
  | .addAddress => do addAddress host data id; return none
  | .removeAddress => do removeAddress host data id before; return none
  | .staticAddress => staticAddress host data id before
  | .dhcp => do enableDhcp host id before; return none
  | .renew => do renew host id before; return none
  | .restart => do restart host id; return none
  | _ => pure none

/-! ### The postcondition -/

def dhcpRestored (after : NicState) : Except String Unit :=
  if !after.dhcp then .error "DHCP postcondition failed"
  else if after.addresses.any fun a => host.same a.prefixOrigin "Manual" then
    .error "Manual address survived DHCP"
  else if after.routes.any fun r => host.same r.protocol "NetMgmt" then
    .error "Static default route survived DHCP"
  else if !after.dnsManual.toList.all host.isSpace then .error "Static DNS survived reset"
  else .ok ()

def addressApplied (after : NicState) : Except String Unit :=
  if after.addresses.countP (fun a =>
      host.same a.ipAddress (address data) && a.prefixLength == prefixLen data) ≠ 1 ∨
      after.dhcp then
    .error "Address postcondition failed"
  else .ok ()

def othersPreserved (before after : NicState) (gateway : Option String) : Except String Unit :=
  if before.addresses.any fun row => !host.same row.ipAddress (address data) &&
      after.addresses.countP (fun a => host.same a.ipAddress row.ipAddress &&
        a.prefixLength == row.prefixLength) != 1 then .error "Secondary not preserved"
  else if !host.exactly (",".intercalate before.dns) (",".intercalate after.dns) then
    .error "DNS not preserved"
  else
    match gateway, host.distinct (after.routes.map (·.nextHop)) with
    | none, [] => .ok ()
    | some gateway, [g] => if host.same g gateway then .ok () else .error "Gateway not preserved"
    | _, _ => .error "Gateway not preserved"

/-- What is checked of a kind; the DNS reset is a step of its own. -/
def postcondition (before after : NicState) (gateway : Option String) : OperationProgram Unit :=
  match data.kind with
  | .addAddress => require (addressApplied host data after)
  | .staticAddress => do
    require (addressApplied host data after)
    require (othersPreserved host data before after gateway)
  | .removeAddress =>
    refuseIf (after.addresses.any fun a => host.same a.ipAddress (address data))
      "Removal postcondition failed"
  | .dhcp => do
    require (dhcpRestored host after)
    step "verify_dns_reset"
  | .renew => refuseIf (¬ after.dhcp) "DHCP postcondition failed"
  | _ => pure ()

def observed (after : NicState) : ObservedState where
  dhcp := after.dhcp
  addresses := after.addresses.map fun a => ⟨a.ipAddress, a.prefixLength⟩
  gateways := after.routes.map (·.nextHop)
  dns := after.dns
  dnsManual := after.dnsManual

/-! ### The script -/

def trustedModules : List String :=
  ["Microsoft.PowerShell.Utility", "Microsoft.PowerShell.Management", "CimCmdlets", "NetAdapter",
    "NetTCPIP", "DnsClient"]

def admitInput : OperationProgram OperationInput := do
  let version ← ask .version
  refuseIf (version ≠ (5, 1)) "PowerShell 5.1 required"
  each (fun name => attempt (.importModule name) CmdletError.stop) trustedModules
  stage "payload"
  let size ← ask .readInput
  refuseIf (16384 < size) "Oversized input"
  let data ← attempt .parseInput CmdletError.stop
  refuseIf (data.version ≠ 1) "Invalid schema"
  return data

def inventory : OperationProgram ScriptData := do
  stage "inventory"
  let all ← attempt .addresses CmdletError.stop
  let nics ← attempt .adapters CmdletError.stop
  step "inventory"
  return .inventory ((nics.filter fun nic => host.isIn nic.status ["Up", "Disconnected"]).map
    fun nic => (nic, all.filter (·.interfaceIndex == nic.ifIndex)))

def wellFormed (identity : Option NativeIdentity) : Except String NativeIdentity :=
  match identity with
  | some id =>
    if ScriptHost.guidShaped id.guid ∧ ScriptHost.macShaped id.mac ∧ id.index ≠ 0 then .ok id
    else .error "Invalid identity"
  | none => .error "Invalid identity"

/-- The checks between the first reading of the state and the operation. -/
def preflightChecks (before : NicState) : Except String Unit := do
  if data.kind ∈ [.addAddress, .removeAddress, .staticAddress] then
    host.checkHost (address data) (prefixLen data).toNat
  if data.kind = .addAddress ∧
      (before.dhcp = true ∨ data.automatic = true ∧ prefixLen data ≠ 24) then
    throw "Invalid address purpose"
  if data.kind ∈ [.renew, .dhcp] ∧ host.plainName before.nic.name = false then
    throw "Unsupported ipconfig adapter name"

def operate : OperationProgram ScriptData := do
  let id ← require (wellFormed data.identity)
  stage "access"
  let administrator ← ask .isAdministrator
  refuseIf (data.kind ≠ .observe ∧ administrator = false) "Administrator access required"
  stage "preflight"
  let before ← readState host id
  require (preflightChecks host data before)
  stage data.kind.wire
  let gateway ← perform host data id before
  stage "postcondition"
  let after ← readState host id
  postcondition host data before after gateway
  step "postcondition"
  return .state (observed after)

def body : OperationProgram ScriptData := do
  let data ← admitInput
  if data.kind = .inventory then inventory host else operate host data

/-- The exit code and what is printed; a native step that failed is named by its stage. -/
def script : OperationProgram (UInt32 × Report ScriptData) := do
  let result ← caught (body host)
  let t ← record
  match result with
  | .ok data => return (0, ⟨1, true, t.stage, t.mutated, t.steps, some data⟩)
  | .error _ =>
    let failed := if t.nativeExit.isSome then [⟨t.stage, false, t.nativeExit⟩] else []
    return (71, ⟨1, false, t.stage, t.mutated, t.steps ++ failed, none⟩)

end OperationScript

end PocketStream
