import PocketStream.Foundation.Routine
import PocketStream.Native.PowerShell
import PocketStream.Native.Transaction
import PocketStream.Streaming.FirewallLease

/-! # The firewall policy script

The script that owns the Windows rules of the relay. It reads its input, refuses
rules it does not own, prepares a rule disabled before it enables it, reads back
every write, and disables the rule it touched when anything fails.
-/

namespace PocketStream

open Foundation Routine

structure RoleDefinition where
  role : FirewallRule
  name : String
  displayName : String
  protocol : String
  port : UInt16

/-- `ROLES` -/
def firewallRoles : List RoleDefinition :=
  [{ role := .rtsp, name := "PocketStream.RTSP.Inbound.v2"
     displayName := "PocketStream RTSP Server", protocol := "TCP", port := 8554 },
   { role := .srt, name := "PocketStream.SRT.Inbound.v2"
     displayName := "PocketStream SRT Server", protocol := "UDP", port := 8890 }]

/-- `GROUP` -/
def firewallGroup : String := "PocketStream.Desktop.Managed.v2"

/-- `firewall::Operation` -/
inductive PolicyOperation where
  | startup
  | install
  | uninstall
  | ensure (role : FirewallRule) (port : UInt16) (interface : Option NativeIdentity)
  | disable (role : FirewallRule)

namespace PolicyOperation

def mode : PolicyOperation → FirewallMode
  | startup => .startup
  | install => .install
  | uninstall => .uninstall
  | ensure _ _ _ => .ensure
  | disable _ => .disable

/-- `role` and `interface`, null where the operation has none. -/
def role : PolicyOperation → Option FirewallRule
  | ensure role _ _ | disable role => some role
  | _ => none

def interface : PolicyOperation → Option NativeIdentity
  | ensure _ _ interface => interface
  | _ => none

end PolicyOperation

/-- What the script reads. -/
structure PolicyInput where
  version : ℕ
  operation : PolicyOperation
  program : String
  group : String
  roles : List RoleDefinition

def PolicyInput.mode (data : PolicyInput) : FirewallMode := data.operation.mode

/-- `Operation::payload`, for the image that runs. -/
def PolicyOperation.payload (program : String) (operation : PolicyOperation) :
    Except String PolicyInput :=
  match operation with
  | .ensure _ 0 _ => .error "Invalid listener port"
  | _ => .ok ⟨2, operation, program, firewallGroup, firewallRoles⟩

/-! ### Rules and their filters -/

/-- The properties of a rule that its filters do not hold. -/
structure RuleObject where
  name : String
  group : String
  displayName : String
  enabled : Bool
  direction : String
  action : String
  profile : String
  edgeTraversalPolicy : String
  platform : List String
  looseSourceMapping : String
  localOnlyMapping : String
  remoteDynamicKeywordAddresses : List String

structure ApplicationFilter where
  program : String
  package : String

structure PortFilter where
  protocol : String
  localPort : List String
  remotePort : List String
  dynamicTarget : String

structure AddressFilter where
  localAddress : List String
  remoteAddress : List String

structure SecurityFilter where
  authentication : String
  encryption : String
  localUser : String
  remoteUser : String
  remoteMachine : String
  overrideBlockRules : String

inductive FilterKind
  | application | port | address | interface | interfaceType | service | security

/-- An interface filter holds its aliases, an interface type and a service filter one value. -/
@[reducible] def FilterKind.Object : FilterKind → Type
  | application => ApplicationFilter
  | port => PortFilter
  | address => AddressFilter
  | interface => List String
  | interfaceType => String
  | service => String
  | security => SecurityFilter

/-- What `Shape` returns. -/
structure RuleShape where
  name : String
  group : String
  display : String
  enabled : Bool
  direction : String
  action : String
  profile : String
  program : String
  package : String
  protocol : String
  localPort : List String
  remotePort : List String
  localAddress : List String
  remoteAddress : List String
  interface : List String
  interfaceType : String
  service : String
  edge : String
  authentication : String
  encryption : String
  localUser : String
  remoteUser : String
  remoteMachine : String
  overrideBlock : String
  platform : List String
  looseSource : String
  localOnly : String
  dynamicTarget : String
  dynamicAddresses : List String

/-- The shape of a rule with exactly one filter of each kind. -/
def RuleShape.build (rule : RuleObject) (app : List ApplicationFilter) (port : List PortFilter)
    (addr : List AddressFilter) (iface : List (List String)) (type svc : List String)
    (sec : List SecurityFilter) : Except String RuleShape :=
  match app, port, addr, iface, type, svc, sec with
  | [app], [port], [addr], [iface], [type], [svc], [sec] =>
    .ok {
      name := rule.name, group := rule.group, display := rule.displayName, enabled := rule.enabled
      direction := rule.direction, action := rule.action, profile := rule.profile
      program := app.program, package := app.package, protocol := port.protocol
      localPort := port.localPort, remotePort := port.remotePort
      localAddress := addr.localAddress, remoteAddress := addr.remoteAddress
      interface := iface, interfaceType := type, service := svc, edge := rule.edgeTraversalPolicy
      authentication := sec.authentication, encryption := sec.encryption
      localUser := sec.localUser, remoteUser := sec.remoteUser
      remoteMachine := sec.remoteMachine, overrideBlock := sec.overrideBlockRules
      platform := rule.platform, looseSource := rule.looseSourceMapping
      localOnly := rule.localOnlyMapping, dynamicTarget := port.dynamicTarget
      dynamicAddresses := rule.remoteDynamicKeywordAddresses }
  | _, _, _, _, _, _, _ => .error "Ambiguous filters"

structure NetAdapter where
  interfaceGuid : String
  macAddress : String
  ifIndex : UInt32
  name : String
  status : String

/-! ### Comparisons -/

/-- What the script takes from its host, besides its texts: the query for an exact name lists all
rules of that name. -/
structure PolicyHost extends PowerShell where
  isDigit : Char → Bool
  rooted : String → Bool
  recordBytes : RuleShape → ℕ
  reportBytes : FirewallReport RuleShape → ℕ
  listed : String → String → Bool
  listed_same : ∀ n m, eqKey m = eqKey n → listed n m = true

namespace PolicyHost

variable (host : PolicyHost)

def isAny : List String → Bool
  | [value] => host.isIn value ["Any", "*"]
  | _ => false

def sameProgram (data : PolicyInput) (value : String) : Bool :=
  host.ordinalKey value == host.ordinalKey data.program

def protocols (role : RoleDefinition) : List String :=
  [role.protocol, if host.same role.protocol "TCP" then "6" else "17"]

def unscoped (s : RuleShape) : Bool :=
  host.isAny s.remotePort && host.isAny s.localAddress && host.isAny s.remoteAddress &&
    host.isAny [s.service] && host.isIn s.package ["Any", "*", ""] &&
    host.same s.interfaceType "Any" && host.same s.edge "Block" &&
    host.same s.authentication "NotRequired" && host.same s.encryption "NotRequired" &&
    host.isAny [s.localUser] && host.isAny [s.remoteUser] && host.isAny [s.remoteMachine] &&
    host.same s.overrideBlock "False" && host.same s.looseSource "False" &&
    host.same s.localOnly "False" && host.same s.dynamicTarget "Any" &&
    s.platform.all (fun p => p.isEmpty || host.same p "Any") &&
    s.dynamicAddresses.all (·.isEmpty)

def owned (data : PolicyInput) (s : RuleShape) : Bool :=
  host.exactly s.group data.group && host.sameProgram data s.program &&
    host.same s.action "Allow" && host.same s.direction "Inbound"

def hasPort (s : RuleShape) (port : UInt16) : Bool :=
  match s.localPort with
  | [p] => host.same p (toString port.toNat)
  | _ => false

def hasInterface (s : RuleShape) (aliasName : String) : Bool :=
  match s.interface with
  | [i] => host.exactly i aliasName
  | _ => false

def verified (data : PolicyInput) (s : RuleShape) (role : RoleDefinition) (port : UInt16)
    (aliasName : String) (enabled : Bool) : Bool :=
  host.owned data s && host.same s.name role.name && host.exactly s.display role.displayName &&
    host.same s.profile "Any" && host.isIn s.protocol (host.protocols role) &&
    host.hasPort s port && host.unscoped s && host.hasInterface s aliasName && s.enabled == enabled

/-- Whether the one local port is a number from 1 to 65535; a match that is no number for the
conversion is an error. -/
def validPort (s : RuleShape) : Except String Bool :=
  match s.localPort with
  | [p] =>
    let digits := if p.toList.getLast? = some '\n' then p.toList.dropLast else p.toList
    if digits.all host.isDigit ∧ 1 ≤ digits.length ∧ digits.length ≤ 5 then
      match (String.ofList digits).toNat? with
      | some n => .ok (1 ≤ n && n ≤ 65535)
      | none => .error "Cannot convert value"
    else .ok false
  | _ => .ok false

/-- What a legacy rule must be for its migration, apart from its port. -/
def migratable (role : RoleDefinition) (s : RuleShape) : Bool :=
  host.same s.action "Allow" && host.same s.direction "Inbound" && host.same s.profile "Any" &&
    host.isIn s.protocol (host.protocols role) && host.unscoped s && host.isAny s.interface

def isIdentity (id : NativeIdentity) (a : NetAdapter) : Bool :=
  host.same (host.guidText a.interfaceGuid) id.guid &&
    host.same (host.macText a.macAddress) id.mac && a.ifIndex == id.index

/-- The alias of the one adapter of the identity, when it is up and its alias names it alone. -/
def chosenAlias (id : NativeIdentity) (all : List NetAdapter) : Except String String :=
  match all.filter (host.isIdentity id) with
  | [a] =>
    if !host.same a.status "Up" then .error "Bind identity unavailable"
    else if a.name.toList.any (['*', '?', '[', ']'].contains ·) ∨
        all.countP (fun b => host.exactly b.name a.name) ≠ 1 then
      .error "Ambiguous interface alias"
    else .ok a.name
  | _ => .error "Bind identity unavailable"

end PolicyHost

/-! ### The calls of the script -/

/-- The provider's zero-match result of a query by exact name. -/
def CmdletError.zeroMatch (e : CmdletError) : Bool :=
  e.objectNotFound && e.id == "CmdletizationQuery_NotFound_InstanceID,Get-NetFirewallRule"

/-- The parameters that `Prepare` writes. -/
structure RuleParameters where
  displayName : String
  direction : String := "Inbound"
  action : String := "Allow"
  enabled : Bool := false
  profile : String := "Any"
  program : String
  protocol : String
  localPort : UInt16
  remotePort : String := "Any"
  localAddress : String := "Any"
  remoteAddress : String := "Any"
  interfaceAlias : String
  interfaceType : String := "Any"
  service : String := "Any"
  package : String := "Any"
  edgeTraversalPolicy : String := "Block"
  authentication : String := "NotRequired"
  encryption : String := "NotRequired"
  localUser : String := "Any"
  remoteUser : String := "Any"
  remoteMachine : String := "Any"
  overrideBlockRules : Bool := false
  looseSourceMapping : Bool := false
  localOnlyMapping : Bool := false
  dynamicTarget : String := "Any"

/-- `setRule` has no group and renames by `NewDisplayName`. -/
inductive PolicyCall where
  | importModule (name : String)
  | readInput
  | isAdministrator
  | namedRules (name : String)
  | persistentRules
  | activeRules
  | filters (kind : FilterKind) (name : String)
  | activeFilters (rule : RuleObject)
  | netAdapters
  | setEnabled (rule : RuleObject) (enabled : Bool)
  | setRule (rule : RuleObject) (params : RuleParameters)
  | newRule (name group : String) (params : RuleParameters)
  | removeRule (rule : RuleObject)

@[reducible] def PolicyCall.Reply : PolicyCall → Type
  | readInput => Except CmdletError PolicyInput
  | isAdministrator => Bool
  | namedRules _ | persistentRules | activeRules => Except CmdletError (List RuleObject)
  | filters kind _ => Except CmdletError (List kind.Object)
  | activeFilters _ => Except CmdletError (List ApplicationFilter)
  | netAdapters => Except CmdletError (List NetAdapter)
  | _ => Except CmdletError Unit

/-- The variables of the script that outlive a failure. -/
structure PolicyRun where
  data : Option PolicyInput := none
  stage : String := "trusted_modules"
  mutated : Bool := false
  records : List RuleShape := []
  recordBytes : ℕ := 0
  outcome : FirewallOutcome := .inactive
  touched : Option RoleDefinition := none

abbrev PolicyScript := Routine PolicyCall PolicyCall.Reply PolicyRun String

namespace FirewallPolicy

variable (host : PolicyHost) (data : PolicyInput)

def stage (name : String) : PolicyScript Unit := change fun t => { t with stage := name }

/-- An empty policy is a query that found nothing, not a query that failed. -/
def exactRules (name : String) : Except CmdletError (List RuleObject) →
    Except String (List RuleObject)
  | .ok rules => .ok (rules.filter fun r => host.same r.name name)
  | .error e => if e.zeroMatch then .ok [] else .error e.id

def exact (name : String) : PolicyScript (List RuleObject) :=
  attempt (.namedRules name) (exactRules host name)

def filters (kind : FilterKind) (rule : RuleObject) : PolicyScript (List kind.Object) :=
  attempt (.filters kind rule.name) CmdletError.stop

def shape (rule : RuleObject) : PolicyScript RuleShape := do
  let app ← filters .application rule
  let port ← filters .port rule
  let addr ← filters .address rule
  let iface ← filters .interface rule
  let type ← filters .interfaceType rule
  let svc ← filters .service rule
  let sec ← filters .security rule
  require (RuleShape.build rule app port addr iface type svc sec)

def requireOwned (message : String) (rule : RuleObject) : PolicyScript Unit := do
  let s ← shape rule
  refuseIf (¬ host.owned data s) message

/-- A cached disabled row is no evidence: the rule is read again on either path. -/
def disableVerified (rule : RuleObject) : PolicyScript Unit := do
  if rule.enabled then
    change fun t => { t with mutated := true }
    attempt (.setEnabled rule false) CmdletError.stop
  let again ← exact host rule.name
  refuseIf (again.map (·.enabled) ≠ [false]) "Disable readback failed"

def selectedAlias : PolicyScript String :=
  match data.operation.interface with
  | none => pure "Any"
  | some id => do
    let all ← attempt .netAdapters CmdletError.stop
    require (host.chosenAlias id all)

/-- The rule reads back as the one rule of its name, in the shape that was written. -/
def readback (role : RoleDefinition) (port : UInt16) (aliasName : String) (enabled : Bool)
    (message : String) : PolicyScript Unit := do
  match ← exact host role.name with
  | [rule] =>
    let s ← shape rule
    refuseIf (¬ host.verified data s role port aliasName enabled) message
  | _ => throw message

/-- The part of `Prepare` before its writes: the rule found is owned, and disabled first. -/
def retireFound (role : RoleDefinition) (port : UInt16) (aliasName : String) :
    List RuleObject → PolicyScript RuleAction
  | [] => pure .created
  | rule :: _ => do
    let s ← shape rule
    refuseIf (¬ host.owned data s) "Rule ownership conflict"
    disableVerified host rule
    return if host.verified data s role port aliasName false then .unchanged else .updated

def parameters (role : RoleDefinition) (port : UInt16) (aliasName : String) : RuleParameters where
  displayName := role.displayName
  program := data.program
  protocol := role.protocol
  localPort := port
  interfaceAlias := aliasName

def writeRule (role : RoleDefinition) (port : UInt16) (aliasName : String) :
    List RuleObject → PolicyScript Unit
  | [] =>
    attempt (.newRule role.name data.group (parameters data role port aliasName)) CmdletError.stop
  | rule :: _ => attempt (.setRule rule (parameters data role port aliasName)) CmdletError.stop

def prepare (role : RoleDefinition) (port : UInt16) (aliasName : String) :
    PolicyScript RuleAction := do
  let rules ← exact host role.name
  refuseIf (1 < rules.length) "Rule name collision"
  let action ← retireFound host data role port aliasName rules
  change fun t => { t with touched := some role, mutated := true }
  writeRule data role port aliasName rules
  readback host data role port aliasName false "Shape readback failed"
  return action

/-- One rule of the store against one role: a candidate for the migration, or none. -/
def legacyCandidate (rule : RuleObject) (role : RoleDefinition) :
    PolicyScript (Option RuleObject) := do
  if !host.exactly rule.displayName role.displayName || host.same rule.name role.name ||
      host.same rule.action "Block" then return none
  let s ← shape rule
  if !host.isAny [s.program] && !host.sameProgram data s.program then return none
  let validPort ← require (host.validPort s)
  refuseIf (¬ (validPort ∧ host.migratable role s)) "Legacy migration conflict"
  let t ← record
  refuseIf (60 ≤ t.records.length) "Too many migration records"
  let bytes := host.recordBytes s
  refuseIf (4096 < bytes ∨ 16000 < t.recordBytes + bytes)
    "Migration diagnostics exceed the bounded result"
  change fun t => { t with records := t.records ++ [s], recordBytes := t.recordBytes + bytes }
  return some rule

def legacy : PolicyScript (List RuleObject) := do
  let rules ← attempt .persistentRules CmdletError.stop
  gather (fun p => legacyCandidate host data p.1 p.2)
    (rules.flatMap fun rule => data.roles.map fun role => (rule, role))

/-! ### The modes -/

def trustedModules : List String :=
  ["Microsoft.PowerShell.Utility", "Microsoft.PowerShell.Management", "CimCmdlets", "NetAdapter",
    "NetSecurity"]

/-- The length of a .NET string. -/
def utf16Length (text : String) : ℕ :=
  (text.toList.map fun ch => if ch.toNat < 0x10000 then 1 else 2).sum

def accessRequired : FirewallOutcome :=
  .unavailable "Administrator access is required for Windows rule automation"

def admitInput : PolicyScript PolicyInput := do
  each (fun name => attempt (.importModule name) CmdletError.stop) trustedModules
  stage "input"
  let data ← attempt .readInput CmdletError.stop
  change fun t => { t with data := some data }
  refuseIf (data.version ≠ 2 ∨ data.roles.length ≠ 2 ∨ ¬ host.rooted data.program ∨
    32700 < utf16Length data.program) "Invalid policy input"
  stage "access"
  let administrator ← ask .isAdministrator
  if administrator then return data
  else
    change fun t => { t with outcome := accessRequired }
    throw "Native access unavailable"

def reconcileRole (role : RoleDefinition) : PolicyScript Unit := do
  let rules ← exact host role.name
  refuseIf (1 < rules.length) "Rule collision"
  each (fun rule => do
    requireOwned host data "Rule ownership conflict" rule
    disableVerified host rule) rules

/-- Whether a role failed; the other roles are reconciled nevertheless. -/
def reconcile : List RoleDefinition → PolicyScript Bool
  | [] => pure false
  | role :: rest => do
    let result ← caught (reconcileRole host data role)
    let failed ← reconcile rest
    return !result.toBool || failed

def startup : PolicyScript Unit :=
  if data.mode = .startup then do
    let failed ← reconcile host data data.roles
    refuseIf failed "Startup ownership reconciliation incomplete"
  else pure ()

def observedBlock (block : RuleObject) : PolicyScript (Option String) := do
  let apps ← attempt (.activeFilters block) CmdletError.stop
  return if apps.any fun app => host.sameProgram data app.program then some block.name else none

def blockRules : PolicyScript (List String) := do
  let active ← attempt .activeRules CmdletError.stop
  gather (observedBlock host data)
    (active.filter fun r => host.same r.action "Block" && host.same r.direction "Inbound")

def enableRule (role : RoleDefinition) (port : UInt16) (aliasName : String) (action : RuleAction) :
    PolicyScript Unit := do
  stage "enable"
  let current ← selectedAlias host data
  refuseIf (¬ host.exactly current aliasName) "Bind changed before enable"
  match ← exact host role.name with
  | [] => throw "The input object cannot be bound"
  | rule :: _ =>
    attempt (.setEnabled rule true) CmdletError.stop
    stage "enabled_readback"
    readback host data role port aliasName true "Enabled readback failed"
    let blocks ← blockRules host data
    refuseIf (32 < blocks.length) "Too many observed block rules"
    change fun t => { t with outcome := .applied role.name action true blocks }

def prepareRole (role : RoleDefinition) : PolicyScript Unit := do
  stage "shape"
  match data.operation with
  | .ensure _ port _ =>
    refuseIf (port = 0) "Invalid port"
    let aliasName ← selectedAlias host data
    let action ← prepare host data role port aliasName
    enableRule host data role port aliasName action
  | _ =>
    let _ ← prepare host data role role.port "Any"

def retireRule (role : RoleDefinition) (rule : RuleObject) : PolicyScript Unit := do
  stage "disable"
  disableVerified host rule
  if data.mode = .uninstall then
    stage "remove"
    attempt (.removeRule rule) CmdletError.stop
    let left ← exact host role.name
    refuseIf (left.length ≠ 0) "Remove readback failed"

def applyRole (role : RoleDefinition) : PolicyScript Unit := do
  stage "ownership"
  let rules ← exact host role.name
  refuseIf (1 < rules.length) "Rule collision"
  each (requireOwned host data "Rule ownership conflict") rules
  if data.mode ∈ [.startup, .disable, .uninstall] then each (retireRule host data role) rules
  else prepareRole host data role

/-- The roles of the operation; the startup has reconciled its own before. -/
def rolesOf : PolicyScript (List RoleDefinition) :=
  match data.operation with
  | .ensure wanted _ _ | .disable wanted => do
    let roles := data.roles.filter fun r => r.role == wanted
    refuseIf (roles.length ≠ 1) "Unknown rule role"
    return roles
  | .startup => pure []
  | _ => pure data.roles

/-- Retiring one listener does not depend on unrelated candidates. -/
def candidates : PolicyScript (List RuleObject) :=
  if data.mode = .disable then pure [] else legacy host data

/-- The legacy rules, disabled in a maintenance; elsewhere none of them may be enabled. -/
def settleLegacy : PolicyScript (List RuleObject) := do
  let found ← candidates host data
  if data.mode ∈ [.install, .uninstall] then
    stage "legacy_disable"
    each (disableVerified host) found
  else
    refuseIf (found.any (·.enabled)) "Enabled legacy allow requires elevated installer migration"
  return found

def removeLegacy (rule : RuleObject) : PolicyScript Unit := do
  attempt (.removeRule rule) CmdletError.stop
  let left ← attempt .persistentRules CmdletError.stop
  refuseIf (left.any fun r => host.same r.name rule.name) "Legacy removal readback failed"

def retireLegacy (found : List RuleObject) : PolicyScript Unit :=
  if data.mode ∈ [.install, .uninstall] then do
    stage "legacy_remove"
    each (removeLegacy host) found
  else pure ()

def body : PolicyScript (FirewallReport RuleShape) := do
  let data ← admitInput host
  stage "inventory"
  startup host data
  let found ← settleLegacy host data
  let roles ← rolesOf data
  each (applyRole host data) roles
  retireLegacy host data found
  let t ← record
  let report : FirewallReport RuleShape := ⟨2, true, "verified", t.mutated, t.outcome, t.records⟩
  refuseIf (30000 < host.reportBytes report) "Policy result exceeds the bounded result"
  return report

def cleanupRole (role : RoleDefinition) : PolicyScript Unit := do
  let rules ← exact host role.name
  refuseIf (1 < rules.length) "Cleanup rule collision"
  each (fun rule => do
    requireOwned host data "Cleanup ownership conflict" rule
    disableVerified host rule) rules

/-- Whether the effects of a failed run stay uncertain. -/
def cleanup (t : PolicyRun) : PolicyScript Bool :=
  match t.touched, t.data with
  | some role, some data => do
    match ← caught (cleanupRole host data role) with
    | .ok () => return if data.mode = .ensure then false else t.mutated
    | .error _ => return true
  | _, _ => pure t.mutated

def failure (outcome : FirewallOutcome) (stage : String) (uncertain : Bool) : FirewallOutcome :=
  match outcome with
  | .unavailable reason => .unavailable reason
  | _ => .failed stage ("Windows rule policy failed; inspect installer diagnostics or restart " ++
      "with administrator access") uncertain

/-- The exit code and what is printed. -/
def script : PolicyScript (UInt32 × FirewallReport RuleShape) := do
  match ← caught (body host) with
  | .ok report => return (0, report)
  | .error _ =>
    let failed ← record
    let uncertain ← cleanup host failed
    let t ← record
    return (71, ⟨2, false, t.stage, t.mutated, failure t.outcome t.stage uncertain, t.records⟩)

end FirewallPolicy

end PocketStream
