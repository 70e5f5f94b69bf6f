import PocketStream.Adoption.Operations
import PocketStream.Address.Radix
import PocketStream.Foundation.FiniteMap

/-! # Reconciliation of saved bindings

The decision for one saved row against a snapshot of its adapter, the OS call it
leads to, and the row as the observation after the call leaves it. The call
sites differ in how they read that observation.
-/

namespace PocketStream

open Foundation

/-- `impl Display for AppError` -/
def AppError.toText : AppError → String
  | network m => "Network error: " ++ m
  | addressNotReady m => "Network error: " ++ m
  | discoveryUnavailable m => "Device discovery unavailable: " ++ m
  | stream m => "Stream error: " ++ m
  | config m => "Config error: " ++ m
  | validation m => "Validation error: " ++ m
  | srtPassphraseUnavailable m => "SRT passphrase unavailable: " ++ m
  | camera m => "Camera error: " ++ m

/-- `adapter_mac`: colons and lower case, for the text of a unicast address. -/
def adapterMac (mac : String) : Option String := do
  let bytes ← parseMacBytes mac
  if bytes ≠ List.replicate 6 0 ∧ (bytes.headD 0).toNat % 2 = 0 then
    return String.ofList (mac.toList.map fun ch => if ch = '-' then ':' else ch.toLower)
  else none

/-- The operations of `ipnetwork::Ipv4Network`. -/
structure IpNetwork (N : Type) where
  parse : String → Option N
  prefixLen : N → UInt8
  contains : N → Ipv4Addr → Bool
  network : N → Ipv4Addr
  broadcast : N → Ipv4Addr

/-- A network as one of its addresses with the prefix length. -/
def IpNetwork.cidr : IpNetwork (Ipv4Addr × UInt8) where
  parse s := do
    let (address, prefixLen) ← rsplitOnce '/' s.toList
    let n := (← Ipv4Addr.parseChars address, ← fromStrRadix 10 prefixLen)
    if n.2 ≤ 32 then return n else none
  prefixLen n := n.2
  contains n ip := ip.toNat / 2 ^ (32 - n.2.toNat) == n.1.toNat / 2 ^ (32 - n.2.toNat)
  network n := .ofNat (n.1.toNat / 2 ^ (32 - n.2.toNat) * 2 ^ (32 - n.2.toNat))
  broadcast n := .ofNat ((n.1.toNat / 2 ^ (32 - n.2.toNat) + 1) * 2 ^ (32 - n.2.toNat) - 1)

inductive BindingAction where
  | unavailable (reason : String)
  | hold (reason : String) (applied : Bool)
  | observed (applied : Bool)
  | add (ip : Ipv4Addr) (prefixLen : UInt8)
  | remove (ip : Ipv4Addr)
  deriving DecidableEq

/-- What `operation_snapshot` reads of the selected adapter, and the networks of the
other local adapters. -/
structure Snapshot (N : Type) where
  iface : InterfaceInfo
  dhcp : Bool
  index : UInt32
  conflicts : List N

section Decision

variable {N : Type} (net : IpNetwork N)

/-- The saved address and prefix, when they name a host of the subnet. -/
def savedAddress (subnet : String) (row : AdoptedMeta) : Option (Ipv4Addr × UInt8) := do
  let network ← net.parse subnet
  let ip ← (← row.address) |> Ipv4Addr.parse
  let prefixLen ← row.prefixLen
  if prefixLen = net.prefixLen network ∧ net.contains network ip ∧ ip ≠ net.network network ∧
      ip ≠ net.broadcast network ∧ !ip.isLoopback ∧ !ip.isMulticast ∧ !ip.isUnspecified then
    return (ip, prefixLen)
  else none

/-- Whether the row's owner, if it has one, is the adapter. -/
def ownerMatches (row : AdoptedMeta) (iface : InterfaceInfo) : Bool :=
  row.adapterMac.all fun mac => adapterMac mac == adapterMac iface.mac

def bindingAction (subnet : String) (row : AdoptedMeta) (iface : Option InterfaceInfo)
    (mode : NetworkMode) (dhcp : Except String Bool) (conflicts : List N) : BindingAction :=
  match iface.filter fun i => i.isUp || (row.desired == .removed && dhcp.toBool) with
  | none => .unavailable "selected adapter unavailable"
  | some iface =>
    if !ownerMatches row iface then .hold "adapter mismatch" false
    else
      match savedAddress net subnet row with
      | none => .hold "invalid saved address/prefix or subnet" false
      | some (ip, prefixLen) =>
        let observed := iface.ips.find? (·.address == ip.toText)
        if observed.any (·.prefixLen != prefixLen) then
          .hold "address exists with a different prefix" false
        else
          match dhcp with
          | .error error => .hold s!"DHCP state unavailable: {error}" observed.isSome
          | .ok isDhcp =>
            if row.desired = .removed then
              if observed.isSome then .remove ip else .observed false
            else if isDhcp then .hold "adapter is DHCP" false
            else if mode = .dhcp then .hold "saved mode is DHCP; adapter is static" false
            else if observed.isSome then .observed true
            else if conflicts.any (net.contains · ip) then
              .hold "subnet conflicts with another local adapter" false
            else .add ip prefixLen

end Decision

/-- The writes of `AdoptOps` in some monad. -/
structure BindingOps (m : Type → Type) where
  add : String → Ipv4Addr → String → m (Fallible Unit)
  remove : String → Ipv4Addr → m (Fallible Unit)

/-- Whether the observation lists exactly the row's address and prefix. -/
def listsBinding (row : AdoptedMeta) (ips : List IpInfo) : Bool :=
  ips.any fun i => some i.address == row.address && some i.prefixLen == row.prefixLen

/-- The row after a write, as the observation of its effect leaves it. -/
def settle (row : AdoptedMeta) (result : Fallible Unit) (observed : Fallible (List IpInfo)) :
    AdoptedMeta :=
  let applied := match observed with
    | .ok ips => listsBinding row ips
    | .error _ => row.applied
  let lastError := match result, observed with
    | .error e, _ => some e.toText
    | .ok (), .error e => some e.toText
    | .ok (), .ok _ =>
      if applied ≠ (row.desired == .present) then
        some "OS did not apply the requested binding state"
      else none
  { row with applied := applied, lastError := lastError }

/-- A binding confirmed in place belongs to the adapter it was observed on. -/
def confirmOwner (iface : Option InterfaceInfo) (row : AdoptedMeta) : AdoptedMeta :=
  if row.applied ∧ row.desired = .present ∧ row.lastError.isNone then
    { row with adapterMac := iface.bind fun i => adapterMac i.mac }
  else row

def applyBinding {m : Type → Type} [Monad m] (ops : BindingOps m) (row : AdoptedMeta)
    (action : BindingAction) (iface : Option InterfaceInfo)
    (observe : m (Fallible (List IpInfo))) : m AdoptedMeta := do
  match action, iface with
  | .unavailable reason, _ =>
    -- an outage is no new removal failure once absence was confirmed
    if row.removalComplete then return row
    return confirmOwner iface { row with lastError := some reason }
  | .hold reason applied, _ =>
    return confirmOwner iface { row with applied := applied, lastError := some reason }
  | .observed applied, _ =>
    return confirmOwner iface { row with applied := applied, lastError := none }
  | .add ip prefixLen, some adapter =>
    let row := { row with applied := false, lastError := none }
    let result ← ops.add adapter.name ip (prefixToMask prefixLen)
    return confirmOwner iface (settle row result (← observe))
  | .remove ip, some adapter =>
    let row := { row with applied := true, lastError := none }
    let result ← ops.remove adapter.name ip
    return confirmOwner iface (settle row result (← observe))
  -- write actions come with an adapter
  | .add _ _, none => return row
  | .remove _, none => return row

/-- `publish_binding`: the row as reported once its save was tried. -/
def publishBinding (row : AdoptedMeta) (saved : Fallible Unit) : AdoptedMeta :=
  match saved with
  | .ok () => row
  | .error e =>
    let observed := row.lastError.getD "OS state observed"
    { row with lastError := some (observed ++ "; status save failed: " ++ e.toText) }

/-- Who reconciles a row: the pass over all saved rows, or a removal the user asked for. -/
inductive CallSite where
  | reconcileBindings
  | removeSavedOperation
  deriving DecidableEq

/-- How the call site reads the addresses observed after a write. -/
def CallSite.read (site : CallSite) (row : AdoptedMeta) (ips : List IpInfo) :
    Fallible (List IpInfo) :=
  match site with
  | reconcileBindings => .ok ips
  | removeSavedOperation =>
    if ips.any fun i => some i.address == row.address && some i.prefixLen != row.prefixLen then
      .error (.network "Address now has a different prefix; removal is unconfirmed")
    else .ok ips

/-- The writes issued and the last observation made. -/
structure Trace where
  writes : List AdoptCall := []
  observed : Option (List IpInfo) := none

/-- How the OS answers: the result of a write, the addresses observed after it, and the
result of saving the row. -/
structure Answers where
  write : Fallible Unit
  observed : Fallible (List IpInfo)
  saved : Fallible Unit

def Answers.ops (a : Answers) : BindingOps (StateM Trace) where
  add iface ip mask := fun t => (a.write, { t with writes := t.writes ++ [.add iface ip mask] })
  remove iface ip := fun t => (a.write, { t with writes := t.writes ++ [.remove iface ip] })

def Answers.observe (a : Answers) (read : List IpInfo → Fallible (List IpInfo)) :
    StateM Trace (Fallible (List IpInfo)) := fun t =>
  match a.observed with
  | .ok ips => (read ips, { t with observed := some ips })
  | .error e => (.error e, t)

section Reconcile

variable {N : Type} (net : IpNetwork N)

/-- The action for a row, held back while the exported address disagrees with it. -/
def rowAction (subnet : String) (row : AdoptedMeta) (snapshot : Fallible (Snapshot N))
    (mode : NetworkMode) (exported : Option String) : BindingAction :=
  if row.desired = .present ∧ exported ≠ row.address then
    .hold "saved routing address and metadata disagree" false
  else
    match snapshot with
    | .ok s => bindingAction net subnet row (some s.iface) mode (.ok s.dhcp) s.conflicts
    | .error e => .unavailable e.toText

def reconcileBindingRow (site : CallSite) (subnet : String) (row : AdoptedMeta)
    (snapshot : Fallible (Snapshot N)) (mode : NetworkMode) (exported : Option String)
    (a : Answers) : AdoptedMeta × Trace :=
  let action := rowAction net subnet row snapshot mode exported
  let iface := snapshot.toOption.map (·.iface)
  let (next, trace) := applyBinding a.ops row action iface (a.observe (site.read row)) |>.run {}
  (publishBinding next a.saved, { trace with
    observed := trace.observed.or (iface.map (·.ips)) })

/-- `reconcile_bindings_traced`: every saved row against one snapshot. -/
def reconcileBindings (settings : AppSettings) (writesAvailable : Fallible Unit)
    (snapshot : Fallible (Snapshot N)) (answers : String → Answers) :
    FiniteMap String (AdoptedMeta × Trace) :=
  match writesAvailable with
  | .error _ => ∅
  | .ok () => settings.adoptedMeta.mapValues fun subnet row =>
      reconcileBindingRow net .reconcileBindings subnet row snapshot settings.networkMode
        (settings.adoptedSubnets.lookup subnet) (answers subnet)

/-- `prepare_subnet_adoption`, up to the row whose tombstone it forgets. -/
def prepareSubnetAdoption (settings : AppSettings) (subnet owner : String) (index : UInt32)
    (stale : Bool) (snapshot : Fallible (Snapshot N)) (staleAfter : Bool) :
    Fallible (Option AdoptedMeta) :=
  match settings.adoptedMeta.lookup subnet with
  | none => .ok none
  | some row =>
    if !row.removalComplete || stale then
      .error (.network "Saved binding is still pending or present")
    else
      match snapshot with
      | .error e => .error e
      | .ok s =>
        if staleAfter ∨ !s.iface.isUp ∨ s.dhcp ∨ adapterMac s.iface.mac ≠ adapterMac owner ∨
            s.index ≠ index ∨ row.adapterMac.bind adapterMac ≠ adapterMac owner ∨
            bindingAction net subnet row (some s.iface) settings.networkMode (.ok s.dhcp) [] ≠
              .observed false then
          .error (.network "Removal absence or selected adapter is unconfirmed")
        else .ok (some row)

end Reconcile

end PocketStream
