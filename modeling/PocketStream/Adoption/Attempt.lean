import PocketStream.Adoption.SubnetAccounting
import PocketStream.Binding.Reconcile
import PocketStream.Config.Bindings
import PocketStream.Foundation.Deadline

/-! # An adoption attempt

The attempt runs the adoption of a subnet under a deadline, saves the adopted
address as a binding, and hands it over from the pending list to the adopted
addresses. What is not handed over is reconciled. The task may be dropped at any
of its awaits; the save and the removal of the breadcrumb have none between them.
-/

namespace PocketStream

open Foundation Program

inductive AdoptionAttemptOutcome where
  | adopted
  | noOp
  | failed
  /-- A stop raced the attempt. -/
  | shutdownRace
  deriving DecidableEq

namespace Attempt

/-- The arguments of the attempt and what it reads of its context. -/
structure Params where
  iface : String
  adapterMac : String
  interfaceIndex : UInt32
  deviceIp : Ipv4Addr
  deviceSubnet : String
  currentIps : List Ipv4Addr
  hostIps : List Ipv4Addr
  adoptionId : UInt64
  prepared : Option PreparedScratch
  /-- The rounds a readiness wait can make before its own deadline. -/
  polls : ℕ
  now : String

/-- The effects of the adoption under the deadline and outside of it, and those of the attempt
itself. -/
inductive Effect where
  | adopt (e : Subnet.Effect)
  | op (e : Subnet.Effect)
  | stale
  | networkMode
  | prepare
  | forgetCompletedRemoval (row : AdoptedMeta)
  | retireLive
  | commit (ip : Ipv4Addr) (row : AdoptedMeta)
  | publishAdoption (ip : Ipv4Addr) (row : AdoptedMeta)

abbrev Effect.Reply : Effect → Type
  | adopt e => Option e.Reply
  | op e => e.Reply
  | stale => Bool
  | networkMode => NetworkMode
  | prepare => Fallible (Option AdoptedMeta)
  | forgetCompletedRemoval _ => Fallible Unit
  | retireLive => Unit
  | commit _ _ => Fallible Unit
  | publishAdoption _ _ => Unit

abbrev Run (α : Type) := Program Effect Effect.Reply α

def issue (e : Effect) : Run e.Reply := perform e

def shutdown : Run Bool := issue (.op .shutdown)

/-- One entry of a reconciliation: an entry whose removal fails is kept. -/
def reconcileEntry (entry : PendingIp) : Run Unit := do
  match ← issue (.op (.call (.remove entry.iface entry.ip))) with
  | .ok () => issue (.op (.pendingRemove entry))
  | .error _ => return ()

def reconcileTargets : List PendingIp → Run Unit
  | [] => return ()
  | entry :: rest => do
    reconcileEntry entry
    reconcileTargets rest

/-- `reconcile_pending` for one adoption id. -/
def reconcilePending (id : UInt64) : Run Unit := do
  let pending ← issue (.op .pendingList)
  reconcileTargets (pending.filter (·.adoptionId == id))

/-- `prepare_subnet_adoption`: whether the adoption may go on. -/
def prepareSubnet : Run Bool := do
  match ← issue .prepare with
  | .error _ => return false
  | .ok none => return true
  | .ok (some row) =>
    match ← issue (.forgetCompletedRemoval row) with
    | .error _ => return false
    | .ok () =>
      issue .retireLive
      return true

/-- The row of the adopted address. -/
def adoptedRow (p : Params) (ip : Ipv4Addr) : AdoptedMeta where
  adoptedAt := some p.now
  lastDeviceSeen := some p.now
  adapterMac := adapterMac p.adapterMac
  prefixLen := some 24
  address := some ip.toText
  applied := true

/-- The attempt once an address is adopted. -/
def conclude (p : Params) (ip : Ipv4Addr) : Run AdoptionAttemptOutcome := do
  let stopped ← shutdown
  let stale ← issue .stale
  if stopped || stale then
    reconcilePending p.adoptionId
    return .shutdownRace
  let row := adoptedRow p ip
  match ← issue (.commit ip row) with
  | .error _ =>
    reconcilePending p.adoptionId
    return .failed
  | .ok () =>
    issue (.publishAdoption ip row)
    return .adopted

/-- `adopt_subnet_with_scratch` under `ADOPT_MAX_TOTAL`. -/
def adoptBounded (p : Params) : Run (Option (Fallible (Option Ipv4Addr))) :=
  (Subnet.adoptSubnetWithScratch p.iface p.deviceIp p.currentIps p.hostIps p.adoptionId p.prepared
    p.polls).deadline Effect.adopt fun _ r => r

/-- What follows each way the adoption can end. -/
def finish (p : Params) : Option (Fallible (Option Ipv4Addr)) → Run AdoptionAttemptOutcome
  | some (.ok (some ip)) => conclude p ip
  | some (.ok none) => do
    if ← shutdown then return .shutdownRace else return .noOp
  | some (.error _) => do
    reconcilePending p.adoptionId
    return .failed
  -- the adoption was dropped at the deadline
  | none => do
    reconcilePending p.adoptionId
    return .failed

def attemptAdoption (p : Params) : Run AdoptionAttemptOutcome := do
  if ← issue .stale then return .noOp
  if (← issue .networkMode) ≠ .staticAuto then return .noOp
  if prohibitedCameraIp p.deviceIp then return .noOp
  if ← prepareSubnet then
    finish p (← adoptBounded p)
  else return .noOp

/-! ### The world -/

/-- The adoption's own state, the settings, the adopted addresses and rows in memory, whether a
fence is stale, and the addresses that a removal of the attempt took off the adapter. -/
structure State where
  adoption : Subnet.State
  settings : AppSettings
  adoptedIps : FiniteMap String Ipv4Addr
  adoptedMeta : FiniteMap String AdoptedMeta
  stale : Bool
  removed : List Ipv4Addr

/-- How an effect ends: an operation on the adapter, a save, the deadline with what it cuts off,
and what the preparation observes. -/
structure Outcome (N : Type) where
  op : Subnet.Outcome := {}
  saved : Fallible Unit := .ok ()
  elapsed : Bool := false
  tookEffect : Bool := false
  snapshot : Fallible (Snapshot N) := .error (.network "Select an Ethernet adapter")
  staleAfter : Bool := false

inductive Interference where
  /-- A stop is signalled, and other adoptions change their own entries. -/
  | adoption (change : Bool × List PendingIp)
  | stale
  /-- Settings other than the saved rows change. -/
  | settings (next : AppSettings)
  | liveness (rows : FiniteMap String AdoptedMeta)

/-- A saved row names the address. -/
def named (s : AppSettings) (ip : Ipv4Addr) : Bool :=
  s.adoptedMeta.anyEntry fun _ m => m.address == some ip.toText

/-- A saved row of the adapter names the address. -/
def covered (p : Params) (s : AppSettings) (ip : Ipv4Addr) : Bool :=
  s.adoptedMeta.anyEntry fun _ m =>
    m.address == some ip.toText && m.adapterMac == canonicalMac p.adapterMac

/-- The operation on the adapter that an effect asks for. -/
def callOf : Subnet.Effect → Option AdoptCall
  | .call c => some c
  | .timed c => some c
  | _ => none

/-- `PendingAdoptOps` reserves an address before it adds it, which no saved row may name. -/
def admitted (s : AppSettings) (e : Subnet.Effect) (o : Subnet.Outcome) : Subnet.Outcome :=
  match callOf e with
  | some (.add _ ip _) =>
    if named s ip then { o with
      error := some (.network "Temporary address ownership unavailable or already reserved")
      tookEffect := false }
    else o
  | _ => o

/-- `PendingAdoptOps` leaves an address on the adapter that a saved row of the adapter names. -/
def takenOff (p : Params) (s : AppSettings) (e : Subnet.Effect) (o : Subnet.Outcome) :
    List Ipv4Addr :=
  match callOf e with
  | some (.remove _ ip) => if !covered p s ip && o.applies then [ip] else []
  | _ => []

def State.act (p : Params) (w : State) (e : Subnet.Effect) (o : Subnet.Outcome) :
    e.Reply × State :=
  let (r, adoption) := Subnet.handle w.adoption e (admitted w.settings e o)
  (r, { w with adoption, removed := takenOff p w.settings e o ++ w.removed })

/-- `commit_pending_address`: the commit, and the breadcrumb given up after it. -/
def commitPendingAddress (pending : List PendingIp) (entry : PendingIp)
    (commit : Fallible Unit × AppSettings) : Fallible Unit × AppSettings × List PendingIp :=
  match commit with
  | (.error e, settings) => (.error e, settings, pending)
  | (.ok (), settings) => (.ok (), settings, pending.filter (· != entry))

/-- The commit of the attempt: nothing may have changed since it began. -/
def State.commit (p : Params) (w : State) (row : AdoptedMeta) (saved : Fallible Unit) :
    Fallible Unit × AppSettings :=
  if w.stale ∨ w.settings.selectedAdapterMac.bind adapterMac ≠ adapterMac p.adapterMac then
    (.error (.network "Adapter or address work changed before commit"), w.settings)
  else Id.run (changeSettingsIfWith w.settings
    (AppSettings.setBindingForOperation p.deviceSubnet row false) fun _ => pure saved)

section World

variable {N : Type} (net : IpNetwork N) (p : Params)

def handle (w : State) : (e : Effect) → Outcome N → e.Reply × State
  | .adopt e, o =>
    if o.elapsed then (none, if o.tookEffect then (w.act p e o.op).2 else w)
    else (w.act p e o.op).map some id
  | .op e, o => w.act p e o.op
  | .stale, _ => (w.stale, w)
  | .networkMode, _ => (w.settings.networkMode, w)
  | .prepare, o =>
    (match o.op.report with
      | .error e => .error e
      | .ok () => prepareSubnetAdoption net w.settings p.deviceSubnet p.adapterMac p.interfaceIndex
        w.stale o.snapshot o.staleAfter, w)
  | .forgetCompletedRemoval row, o =>
    match w.settings.forgetCompletedRemoval p.deviceSubnet row, o.saved with
    | .ok ((), settings), .ok () =>
      (.ok (), { w with settings, adoptedMeta := w.adoptedMeta.erase p.deviceSubnet })
    | .ok _, .error e => (.error e, w)
    | .error e, _ => (.error e, w)
  | .retireLive, _ => ((), { w with adoptedIps := w.adoptedIps.erase p.deviceSubnet })
  | .commit ip row, o =>
    let (r, settings, pending) := commitPendingAddress w.adoption.pending
      ⟨p.iface, ip, p.adoptionId⟩ (w.commit p row o.saved)
    (r, { w with settings, adoption := { w.adoption with pending } })
  | .publishAdoption ip row, _ =>
    ((), { w with
      adoptedIps := w.adoptedIps.insert p.deviceSubnet ip
      adoptedMeta := w.adoptedMeta.insert p.deviceSubnet row })

def interfere (w : State) : Interference → State
  | .adoption change => { w with adoption := Subnet.interfere p.adoptionId w.adoption change }
  | .stale => { w with stale := true }
  | .settings next =>
    { w with settings := { next with adoptedMeta := w.settings.adoptedMeta } }
  | .liveness rows =>
    match w.settings.updateAdoptionLiveness rows with
    | .ok ((), settings) => { w with settings }
    | .error _ => w

def world : World Effect Effect.Reply State (Outcome N) Interference where
  handle := handle net p
  interfere := interfere p

/-- An attempt starts with nothing bound but a prepared scratch that has its breadcrumb. The
probe that bound it was refused every address that a saved row names. -/
def State.start (p : Params) (pending : List PendingIp) (stopped stale : Bool)
    (settings : AppSettings) (adoptedIps : FiniteMap String Ipv4Addr)
    (adoptedMeta : FiniteMap String AdoptedMeta) : State where
  adoption :=
    let adoption := Subnet.State.start p.iface p.adoptionId p.prepared pending stopped
    { adoption with bound := adoption.bound.filter fun b => !named settings b.2 }
  settings := settings
  adoptedIps := adoptedIps
  adoptedMeta := adoptedMeta
  stale := stale
  removed := []

end World

end Attempt

end PocketStream
