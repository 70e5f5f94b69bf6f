import Mathlib.Data.String.Basic
import PocketStream.Binding.Snapshot

/-! # Manual address operations

Adding an address, removing one, and removing a saved one, as the user asks for
it. A removal is saved as an intent before the OS call and observed after it.
-/

namespace PocketStream

open Foundation Routine

inductive AddressOutcome | success | pending | failed | busy
  deriving DecidableEq, Repr

inductive AddressRequest where
  | add (name ip mask : String)
  | removeSaved (subnet : String) (hint : Option String)
  | removeManual (name ip : String)
  | removePrimary (name ip : String)

/-- The record of a run; `verified` is the result of the observation after a saved row's
write. -/
structure Transaction where
  mac : Option String
  mode : NetworkMode
  address : String
  prefixLen : Option UInt8 := none
  subnet : Option String := none
  row : Option AdoptedMeta := none
  observed : Option OperationSnapshot := none
  observationError : Option String := none
  intentSaved : Bool := false
  outcome : AddressOutcome := .failed
  reason : Option String := none
  verified : Option (Fallible OperationSnapshot) := none

def Transaction.start (mac : Option String) (mode : NetworkMode) (address : String)
    (prefixLen : Option UInt8) : Transaction := { mac, mode, address, prefixLen }

abbrev AddressOp (α : Type) := Routine AddressCall AddressCall.Reply Transaction AppError α

def pendingBindingRemoval (row : AdoptedMeta) : AdoptedMeta :=
  { row with desired := .removed, lastError := some "Removal awaiting Windows confirmation" }

/-! ### Observations -/

def readNative : AddressOp (List NativeAdapter) := attempt .native id

def qualify : AddressOp Unit := attempt .qualify id

def descriptors : AddressOp (NativeAdapter → Option Bool) := ask AddressCall.descriptors

def getSettings : AddressOp AppSettings := ask AddressCall.settings

def fenceStale : AddressOp Bool := ask AddressCall.fenceStale

def deadlinePassed : AddressOp Bool := ask AddressCall.deadlinePassed

def addAddress (adapter : NativeAdapter) (ip mask : String) : AddressOp (Fallible Unit) :=
  ask (AddressCall.add adapter ip mask)

def removeAddress (adapter : NativeAdapter) (ip : String) : AddressOp (Fallible Unit) :=
  ask (AddressCall.remove adapter ip)

def persistBinding (subnet : String) (row : AdoptedMeta) : AddressOp (Fallible Unit) :=
  ask (AddressCall.persistBinding subnet row)

def claimAddress (ip : String) : AddressOp (Fallible Unit) := ask (AddressCall.claim ip)

def persistPrimary (mac cidr : String) : AddressOp (Fallible Unit) := ask (AddressCall.persistPrimary mac cidr)

def checkWritesAvailable : AddressOp (Fallible Unit) := ask AddressCall.checkWritesAvailable

def currentSnapshot (mac : String) (all : List NativeAdapter) : AddressOp OperationSnapshot := do
  let descriptor ← descriptors
  require (snapshotFromNative descriptor mac all)

/-- A cold descriptor is qualified once, and the adapters are read again. -/
def requalify (mac : String) (before : OperationSnapshot) : AddressOp OperationSnapshot := do
  qualify
  let all ← readNative
  let again ← require (selectSnapshot all mac)
  refuseIf (!(again.selected.identity == before.selected.identity))
    (.network "Adapter changed during qualification; retry")
  currentSnapshot mac all

/-- `operation_snapshot` -/
def operationSnapshotOf (mac : String) : AddressOp OperationSnapshot := do
  let all ← readNative
  let before ← require (selectSnapshot all mac)
  let descriptor ← descriptors
  if (descriptor before.selected).isSome then currentSnapshot mac all
  else requalify mac before

/-- `BindingStore::operation_snapshot` -/
def operationSnapshot : AddressOp OperationSnapshot := do
  let settings ← getSettings
  match settings.selectedAdapterMac with
  | none => throw (.network "Select an Ethernet adapter")
  | some mac => operationSnapshotOf mac

def observeOperation (before : OperationSnapshot) : AddressOp OperationSnapshot := do
  let all ← readNative
  let after ← currentSnapshot before.selected.mac all
  refuseIf (!(before.selected.identity == after.selected.identity))
    (.network "Selected adapter changed during operation")
  return after

def validateOperationContext : AddressOp Unit := do
  let tx ← record
  let now ← getSettings
  let stale ← fenceStale
  refuseIf (now.selectedAdapterMac.bind adapterMac ≠ tx.mac.bind adapterMac ∨
      now.networkMode ≠ tx.mode ∨ stale)
    (.network "Network selection or mode changed; retry the operation")

def requestedState (snapshot : OperationSnapshot) (ip : String) (prefixLen : Option UInt8)
    (add : Bool) : Bool :=
  if add then snapshot.selected.ips.any fun a => a.address == ip && some a.prefixLen == prefixLen
  else snapshot.selected.ips.all fun a => a.address != ip

/-- One round of a verification; `retry` is what follows an observation that does not yet
show the requested state. -/
def verificationRound (before : OperationSnapshot) (add : Bool)
    (retry : OperationSnapshot → AddressOp OperationSnapshot) : AddressOp OperationSnapshot := do
  if ← deadlinePassed then
    throw (.network "Address verification timed out; current state is unknown")
  else
    let after ← observeOperation before
    validateOperationContext
    let tx ← record
    if requestedState after tx.address tx.prefixLen add then return after else retry after

/-- `observe_address_state`. A round waits at least 50 ms of the two seconds, so the round
with none left ends the loop. -/
def observeAddressState (before : OperationSnapshot) (add : Bool) : ℕ → AddressOp OperationSnapshot
  | 0 => verificationRound before add fun after => return after
  | rounds + 1 => verificationRound before add fun after => do
    if ← deadlinePassed then return after else observeAddressState before add rounds

def verificationRounds : ℕ := 2000 / 50 - 1

/-! ### Targets -/

section Operation

variable {N : Type} (net : IpNetwork N)

def validateHost (ip : Ipv4Addr) (prefixLen : UInt8) : Fallible Unit :=
  if prefixLen = 0 ∨ 32 < prefixLen ∨ ip.a = 0 ∨ ip.isLoopback ∨ ip.isMulticast ∨ 240 ≤ ip.a then
    .error (.network "Invalid host IPv4 address or prefix")
  else
    match ipv4Network net ip.toText prefixLen with
    | none => .error (.network "Invalid address prefix")
    | some network =>
      if prefixLen ≤ 30 ∧ (net.network network = ip ∨ net.broadcast network = ip) then
        .error (.network "Host address is a network or broadcast address")
      else .ok ()

/-- What a request asks for: the mask of an addition, the alias it expects, and whether it
names a saved row. -/
structure Plan where
  mask : Option String
  aliasName : Option String
  saved : Bool

def Plan.add (plan : Plan) : Bool := plan.mask.isSome

/-- The one saved row that `p` picks becomes the run's row. -/
def adoptRow (settings : AppSettings) (p : AdoptedMeta → Bool) : AddressOp Unit := do
  let picked := fun subnet => (settings.adoptedMeta.lookup subnet).any p
  refuseIf (1 < (settings.adoptedMeta.keys.filter fun subnet => picked subnet).card)
    (.network "Saved address ownership is ambiguous; no OS change made")
  match settings.adoptedMeta.findKey picked with
  | some subnet => change fun tx =>
      { tx with subnet := some subnet, row := settings.adoptedMeta.lookup subnet }
  | none => return ()

def planRemoval (settings : AppSettings) (name ip : String) : AddressOp Plan := do
  refuseIf (Ipv4Addr.parse ip).isNone (.network "Invalid IPv4 address")
  change fun tx => { tx with address := ip }
  adoptRow settings fun r => r.address == some ip
  return ⟨none, some name, false⟩

def planOperation (settings : AppSettings) : AddressRequest → AddressOp Plan
  | .add name ip mask => do
    match Ipv4Addr.parse ip with
    | none => throw (.network "Invalid IPv4 address")
    | some parsed =>
      let prefixLen ← require (maskToPrefix mask)
      change fun tx => { tx with prefixLen := some prefixLen }
      require (validateHost net parsed prefixLen)
      change fun tx => { tx with address := ip }
      let tx ← record
      adoptRow settings fun r => r.address == some ip &&
        (r.adapterMac.isNone || r.adapterMac.bind adapterMac == tx.mac.bind adapterMac)
      return ⟨some mask, some name, false⟩
  | .removeManual name ip => planRemoval settings name ip
  | .removePrimary name ip => planRemoval settings name ip
  | .removeSaved subnet hint =>
    match settings.adoptedMeta.lookup subnet with
    | none => throw (.network "Unknown saved binding")
    | some row => do
      change fun tx => { tx with row := some row }
      match row.address with
      | none => throw (.network "Saved address is unknown")
      | some address =>
        change fun tx => { tx with address := address, subnet := some subnet }
        return ⟨none, hint, true⟩

/-! ### Saved rows -/

def ensureAbsent (snapshot : OperationSnapshot) : AddressOp Unit := do
  let tx ← record
  refuseIf (snapshot.all.any fun a => a.ips.any fun ip => ip.address == tx.address)
    (.network "Saved adapter ownership is unknown and this address is still assigned in Windows; no change made")

def forgetUnownedAddress (subnet : String) (row : AdoptedMeta) : AddressOp Unit := do
  let before ← operationSnapshot
  validateOperationContext
  ensureAbsent before
  let after ← observeOperation before
  validateOperationContext
  ensureAbsent after
  change fun tx => { tx with prefixLen := row.prefixLen }
  attempt (.forgetUnownedBinding subnet row) id
  change fun tx => { tx with row := none, observed := some after, outcome := .success }

/-- `AddressOps` over the snapshot's adapter -/
def addressOps (selected : NativeAdapter) : BindingOps AddressOp where
  add name ip mask :=
    if selected.aliasName = name then addAddress selected ip.toText mask
    else return .error (.network "Address writer has no validated adapter")
  remove name ip :=
    if selected.aliasName ≠ name then return .error (.network "Adapter alias changed")
    else removeAddress selected ip.toText

/-- The addresses observed after a saved row's write. -/
def verifyRemoval (before : OperationSnapshot) : AddressOp (Fallible (List IpInfo)) := do
  let result ← caught (observeAddressState before false verificationRounds)
  change fun tx => { tx with verified := some result }
  let tx ← record
  match result with
  | .error e => return .error (.network e.toText)
  | .ok after =>
    if after.selected.ips.any fun i => i.address == tx.address && some i.prefixLen != tx.prefixLen
    then
      return .error (.network "Address now has a different prefix; removal is unconfirmed")
    else return .ok after.selected.ips

/-- `publish_binding` -/
def publishRow (subnet : String) (row : AdoptedMeta) : AddressOp AdoptedMeta := do
  let saved ← persistBinding subnet row
  return publishBinding row saved

/-- `reconcile_binding_row` against the snapshot before the removal -/
def reconcileSavedRow (before : OperationSnapshot) (subnet : String) (row : AdoptedMeta) :
    AddressOp AdoptedMeta := do
  let tx ← record
  let descriptor ← descriptors
  let settings ← getSettings
  let action := rowAction net subnet row (.ok (before.binding net descriptor)) tx.mode
    (settings.adoptedSubnets.lookup subnet)
  let row ← applyBinding (addressOps before.selected) row action (some before.iface)
    (verifyRemoval before)
  publishRow subnet row

/-- The observation a removal ends with. -/
def reportObservation (before : OperationSnapshot) (tx : Transaction) : Transaction :=
  match tx.verified.getD (.ok before) with
  | .ok after => { tx with observed := some after }
  | .error e => { tx with observationError := some e.toText }

def rowOutcome (row : AdoptedMeta) (observationError : Option String) : AddressOutcome :=
  if row.lastError.isNone ∧ !row.applied then .success
  else if observationError.isSome ∨ row.applied then .pending
  else .failed

/-- The report of a reconciled row. -/
def reportRow (before : OperationSnapshot) (row : AdoptedMeta) (tx : Transaction) : Transaction :=
  let tx := reportObservation before tx
  { tx with
    row := some row
    reason := row.lastError
    outcome := rowOutcome row tx.observationError }

/-- With no write needed, still take a fresh final observation. -/
def finalSnapshot (before : OperationSnapshot) : AddressOp OperationSnapshot := do
  let tx ← record
  if requestedState before tx.address tx.prefixLen false then
    observeAddressState before false verificationRounds
  else return before

def removeSavedOperation (before : OperationSnapshot) (subnet : String) (row : AdoptedMeta) :
    AddressOp Unit := do
  let before ← finalSnapshot before
  let row ← reconcileSavedRow net before subnet row
  change (reportRow before row)

/-- The durable intent of a removal. -/
def saveIntent (subnet : String) (row : AdoptedMeta) : AddressOp Unit := do
  attempt (.persistIntent subnet row) id
  change fun tx => { tx with intentSaved := true, subnet := some subnet, row := some row }

/-! ### The command -/

/-- The outcome of an observed command. -/
def settleCommand (command : Fallible Unit) (established : Bool) (tx : Transaction) : Transaction :=
  match command with
  | .error e => { tx with reason := some e.toText, outcome := .failed }
  | .ok () =>
    if established then { tx with outcome := .success }
    else { tx with
      outcome := .pending
      reason := some "Windows has not confirmed the requested address state" }

/-- The report of an address in place whose claim was not saved. -/
def claimFailed (command : Fallible Unit) (error : AppError) (tx : Transaction) : Transaction :=
  let reason := match command with
    | .error e => e.toText ++ "; " ++ error.toText
    | .ok () => error.toText
  { tx with
    reason := some reason
    row := tx.row.map fun row => { row with applied := true, lastError := some reason }
    outcome := .failed }

def issueCommand (plan : Plan) (before : OperationSnapshot) (existing : Option IpInfo) :
    AddressOp (Fallible Unit) := do
  let tx ← record
  match plan.mask, existing with
  | some mask, none => addAddress before.selected tx.address mask
  | none, some _ => removeAddress before.selected tx.address
  | _, _ => return .ok ()

/-- The observation after a command, and what is reported of both. -/
def finishCommand (plan : Plan) (before : OperationSnapshot) (command : Fallible Unit) :
    AddressOp Unit := do
  let observed ← caught (observeAddressState before plan.add verificationRounds)
  let tx ← record
  match observed with
  | .error e => change fun tx => { tx with
      observationError := some e.toText
      outcome := .pending
      reason := some (match command with
        | .error c => c.toText
        | .ok () => e.toText) }
  | .ok after =>
    let established := requestedState after tx.address tx.prefixLen plan.add
    change fun tx => { tx with observed := some after }
    if plan.add ∧ established then
      match ← claimAddress tx.address with
      | .error e => change (claimFailed command e)
      | .ok () => change fun tx => settleCommand command established { tx with row := none }
    else change (settleCommand command established)

def runCommand (plan : Plan) (before : OperationSnapshot) (existing : Option IpInfo) :
    AddressOp Unit := do
  let command ← issueCommand plan before existing
  finishCommand plan before command

/-- The key of the subnet the address lies in. -/
def subnetKey (address : String) (prefixLen : UInt8) : Option String :=
  (ipv4Network net address prefixLen).map fun network =>
    s!"{(net.network network).toText}/{prefixLen}"

/-- An unmanaged removal is tracked under its subnet, unless a row already has that key. -/
def removeUnmanaged (settings : AppSettings) (plan : Plan) (before : OperationSnapshot)
    (existing : Option IpInfo) : AddressOp Unit := do
  let tx ← record
  match plan.add, tx.prefixLen with
  | false, some prefixLen =>
    match subnetKey net tx.address prefixLen with
    | none => throw (.network "invalid prefix")
    | some key =>
      if (settings.adoptedMeta.lookup key).isSome then runCommand plan before existing
      else do
        let row := pendingBindingRemoval
          { adapterMac := tx.mac, address := some tx.address, prefixLen := some prefixLen,
            applied := existing.isSome }
        saveIntent key row
        removeSavedOperation net before key row
  | _, _ => runCommand plan before existing

/-- Whether a temporary address of the adapter is still to be cleaned up. -/
def temporaryPending (settings : AppSettings) (before : OperationSnapshot) (tx : Transaction) :
    Bool :=
  settings.pendingAddresses.any fun p => p.address == tx.address &&
    some p.prefixLen == tx.prefixLen && adapterMac p.adapterMac == adapterMac before.selected.mac

/-- The run from its first snapshot on. -/
def proceed (settings : AppSettings) (plan : Plan) : AddressOp Unit := do
  let before ← operationSnapshot
  validateOperationContext
  let tx ← record
  refuseIf ((plan.add ∧ !before.selected.isUp) ∨
      plan.aliasName.any (· ≠ before.selected.aliasName))
    (.network "Selected Ethernet adapter unavailable or changed")
  refuseIf (plan.add ∧ (before.selected.dhcp ∨ tx.mode = .dhcp))
    (.network "Adapter is DHCP; switch to a static mode before adding an address")
  let existing := before.selected.ips.find? (·.address == tx.address)
  change fun tx => { tx with prefixLen := tx.prefixLen.or (existing.map (·.prefixLen)) }
  let tx ← record
  refuseIf (existing.any fun i => tx.prefixLen ≠ some i.prefixLen)
    (.network "Address exists with a different prefix; no OS change made")
  refuseIf (plan.add ∧ before.all.any fun a => !(a.identity == before.selected.identity) &&
      a.ips.any (·.address == tx.address))
    (.network "Address is already assigned to another local adapter")
  if !plan.add ∧ temporaryPending settings before tx then do
    change fun tx => { tx with outcome := .pending }
    throw (.network
      "Waiting for current network operation; temporary ownership cleanup remains pending")
  else
    match plan.add, tx.subnet, tx.row with
    | false, some subnet, some row => removeSavedOperation net before subnet row
    | _, _, _ => removeUnmanaged net settings plan before existing

/-- A removal of a saved row: its intent, unless nobody owns the row. -/
def removeOwned (settings : AppSettings) (plan : Plan) (subnet : String) (row : AdoptedMeta) :
    AddressOp Unit := do
  let tx ← record
  refuseIf (Ipv4Addr.parse tx.address).isNone (.network "Saved address is invalid")
  if plan.saved ∧ row.adapterMac.isNone then forgetUnownedAddress subnet row
  else do
    refuseIf ((row.adapterMac.bind adapterMac).isNone ∨ row.prefixLen.all (32 < ·))
      (.network "Saved address ownership or prefix is unknown; no OS change made")
    refuseIf (tx.prefixLen.any fun p => row.prefixLen ≠ some p)
      (.network "Previous primary prefix changed; no removal made")
    change fun tx => { tx with prefixLen := row.prefixLen }
    saveIntent subnet (pendingBindingRemoval row)
    proceed net settings plan

def runAddressOperation (request : AddressRequest) : AddressOp Unit := do
  let settings ← getSettings
  let plan ← planOperation net settings request
  let tx ← record
  match plan.add, tx.subnet, tx.row with
  | false, some subnet, some row => removeOwned net settings plan subnet row
  | _, _, _ => proceed net settings plan

/-! ### The operation after its admission -/

def AddressRequest.removing : AddressRequest → Bool
  | .add _ _ _ => false
  | _ => true

def AddressRequest.primaryRemoval : AddressRequest → Bool
  | .removePrimary _ _ => true
  | _ => false

/-- A failed run keeps its intent, with the reason. -/
def reportFailure (error : AppError) : AddressOp Unit := do
  let reason := error.toText
  change fun tx => { tx with
    observationError := if tx.observed.isNone then some reason else tx.observationError }
  let tx ← record
  match tx.intentSaved, tx.subnet, tx.row with
  | true, some subnet, some row =>
    let row ← publishRow subnet { row with lastError := some reason }
    change fun tx => { tx with row := some row, outcome := .pending, reason := some reason }
  | true, _, _ => change fun tx => { tx with outcome := .pending, reason := some reason }
  | false, _, _ => change fun tx => { tx with reason := some reason }

def reportResult : Except AppError Unit → AddressOp Unit
  | .error e => reportFailure e
  | .ok () => return ()

/-- A removed primary address is no longer the saved one. -/
def forgetPrimary (request : AddressRequest) : AddressOp Unit := do
  let tx ← record
  let now ← getSettings
  let saved := now.primaryAddresses.lookup (tx.mac.getD "")
  let isPrimary := saved.any fun cidr => (cidr.toList.splitOn '/').head? == some tx.address.toList
  if tx.outcome = .success ∧ request.removing ∧ (request.primaryRemoval ∨ isPrimary) then
    match ← persistPrimary (tx.mac.getD "") "" with
    | .error e => change fun tx => { tx with outcome := .failed, reason := some e.toText }
    | .ok () => return ()
  else return ()

def addressOperation (request : AddressRequest) : AddressOp Unit := do
  match ← checkWritesAvailable with
  | .error e => change fun tx => { tx with outcome := .busy, reason := some e.toText }
  | .ok () =>
    let result ← caught (do
      validateOperationContext
      runAddressOperation net request)
    reportResult result
    forgetPrimary request

end Operation

end PocketStream
