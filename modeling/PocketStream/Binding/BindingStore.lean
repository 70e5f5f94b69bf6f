import PocketStream.Adoption.Attempt
import PocketStream.Binding.ManualAddress

/-! # The binding store

The owner of the saved bindings keeps the exported addresses and their rows in
memory beside the settings. Its writers hold the address lock, and change the
three stores one after another; the export, the liveness stamps and their flush
run between any two of these changes.
-/

namespace PocketStream

open Foundation Program

namespace BindingStore

/-- The accesses of the writers to the stores, and what they learn from the adapter. -/
inductive Effect where
  | settings
  /-- The checks and observations that read none of the stores. -/
  | proceed
  | apply (site : CallSite) (subnet : String) (row : AdoptedMeta)
  | persistBinding (subnet : String) (row : AdoptedMeta)
  | persistIntent (subnet : String) (row : AdoptedMeta)
  | forgetUnowned (subnet : String) (row : AdoptedMeta)
  | prepare (p : Attempt.Params)
  | forgetCompletedRemoval (subnet : String) (row : AdoptedMeta)
  /-- The adoption of an address, between its preparation and its commit. -/
  | adopted
  | commit (subnet : String) (row : AdoptedMeta)
  | publishRow (subnet : String) (row : AdoptedMeta)
  | insertLive (subnet : String) (ip : Ipv4Addr)
  | retireLive (subnet : String)
  | recordRow (subnet : String) (row : AdoptedMeta)
  | retireRow (subnet : String)

abbrev Effect.Reply : Effect → Type
  | settings => AppSettings
  | apply _ _ _ => AdoptedMeta
  | prepare _ => Fallible (Option AdoptedMeta)
  | adopted => Option Ipv4Addr
  | proceed | persistBinding _ _ | persistIntent _ _ | forgetUnowned _ _
  | forgetCompletedRemoval _ _ | commit _ _ => Fallible Unit
  | publishRow _ _ | insertLive _ _ | retireLive _ | recordRow _ _ | retireRow _ => Unit

abbrev Run (α : Type) := Program Effect Effect.Reply α

def issue (e : Effect) : Run e.Reply := perform e

/-! ### The writers -/

/-- `publish_binding` -/
def publishBinding (subnet : String) (row : AdoptedMeta) : Run Unit := do
  let saved ← issue (.persistBinding subnet row)
  issue (.publishRow subnet (PocketStream.publishBinding row saved))

def reconcileBindingRow (site : CallSite) (subnet : String) (row : AdoptedMeta) : Run Unit := do
  let row ← issue (.apply site subnet row)
  publishBinding subnet row

def reconcileRows : List (String × AdoptedMeta) → Run Unit
  | [] => return ()
  | (subnet, row) :: rest => do
    reconcileBindingRow .reconcileBindings subnet row
    reconcileRows rest

/-- `reconcile_bindings_traced`; `order` is the order of the saved rows in their hash map. -/
def reconcileBindings (order : List String) : Run Unit := do
  match ← issue .proceed with
  | .error _ => return ()
  | .ok () =>
    let settings ← issue .settings
    reconcileRows (order.filterMap fun subnet =>
      (settings.adoptedMeta.lookup subnet).map fun row => (subnet, row))

/-- A removal whose intent is saved, up to its last status. -/
def removeTracked (subnet : String) (row : AdoptedMeta) : Run Unit := do
  match ← issue .proceed with
  | .error e => publishBinding subnet { row with lastError := some e.toText }
  | .ok () => reconcileBindingRow .removeSavedOperation subnet row

/-- `forget_unowned_address` -/
def forgetUnownedAddress (subnet : String) (row : AdoptedMeta) : Run Unit := do
  match ← issue (.forgetUnowned subnet row) with
  | .error _ => return ()
  | .ok () =>
    issue (.retireRow subnet)
    issue (.retireLive subnet)

/-- The removal of a saved address, by its subnet or by the address itself. -/
def removeSaved (subnet : String) (bySubnet : Bool) : Run Unit := do
  let settings ← issue .settings
  match settings.adoptedMeta.lookup subnet with
  | none => return ()
  | some row =>
    match ← issue .proceed with
    | .error _ => return ()
    | .ok () =>
      if bySubnet && row.adapterMac.isNone then forgetUnownedAddress subnet row
      else do
        let row := pendingBindingRemoval row
        match ← issue (.persistIntent subnet row) with
        | .error _ => return ()
        | .ok () =>
          issue (.retireLive subnet)
          issue (.recordRow subnet row)
          removeTracked subnet row

/-- The removal of an address that no saved row names, tracked under its subnet. -/
def removeUnmanaged (subnet : String) (row : AdoptedMeta) : Run Unit := do
  let settings ← issue .settings
  match ← issue .proceed with
  | .error _ => return ()
  | .ok () =>
    if (settings.adoptedMeta.lookup subnet).isSome then return ()
    else do
      let row := pendingBindingRemoval row
      match ← issue (.persistIntent subnet row) with
      | .error _ => return ()
      | .ok () =>
        issue (.recordRow subnet row)
        removeTracked subnet row

/-- A completed removal is forgotten before its subnet is adopted again. -/
def retireCompleted (subnet : String) (row : AdoptedMeta) : Run Bool := do
  match ← issue (.forgetCompletedRemoval subnet row) with
  | .error _ => return false
  | .ok () =>
    issue (.retireRow subnet)
    issue (.retireLive subnet)
    return true

/-- `prepare_subnet_adoption`: whether the adoption may go on. -/
def prepareSubnetAdoption (p : Attempt.Params) : Run Bool := do
  match ← issue (.prepare p) with
  | .error _ => return false
  | .ok none => return true
  | .ok (some row) => retireCompleted p.deviceSubnet row

/-- `publish_adoption` -/
def publishAdoption (subnet : String) (ip : Ipv4Addr) (row : AdoptedMeta) : Run Unit := do
  issue (.insertLive subnet ip)
  issue (.recordRow subnet row)

/-- The accesses of an adoption attempt. -/
def adoptSubnet (p : Attempt.Params) : Run Unit := do
  if ← prepareSubnetAdoption p then
    match ← issue .adopted with
    | none => return ()
    | some ip =>
      let row := Attempt.adoptedRow p ip
      match ← issue (.commit p.deviceSubnet row) with
      | .error _ => return ()
      | .ok () => publishAdoption p.deviceSubnet ip row
  else return ()

inductive Writer where
  | reconcile (order : List String)
  | removeSaved (subnet : String) (bySubnet : Bool)
  | removeUnmanaged (subnet : String) (row : AdoptedMeta)
  | adopt (p : Attempt.Params)

def Writer.run : Writer → Run Unit
  | reconcile order => reconcileBindings order
  | removeSaved subnet bySubnet => BindingStore.removeSaved subnet bySubnet
  | removeUnmanaged subnet row => BindingStore.removeUnmanaged subnet row
  | adopt p => adoptSubnet p

/-- Writers take the address lock one after another. -/
def runWriters : List Writer → Run Unit
  | [] => return ()
  | writer :: rest => do
    writer.run
    runWriters rest

/-! ### The stores -/

structure State where
  settings : AppSettings
  adoptedIps : FiniteMap String Ipv4Addr
  adoptedMeta : FiniteMap String AdoptedMeta

/-- How a save, a check and the observations of the adapter end. -/
structure Outcome (N : Type) where
  saved : Fallible Unit := .ok ()
  checked : Fallible Unit := .ok ()
  snapshot : Fallible (Snapshot N) := .error (.network "Select an Ethernet adapter")
  answers : Answers := ⟨.ok (), .ok [], .ok ()⟩
  stale : Bool := false
  staleAfter : Bool := false
  adopted : Option Ipv4Addr := none

inductive Interference where
  /-- `note_verified_liveness` -/
  | noteLiveness (subnet wall : String)
  /-- `flush_adoption_state` of the rows as they were at some time. -/
  | flush (rows : FiniteMap String AdoptedMeta) (saved : Fallible Unit)
  /-- Settings other than the saved bindings change. -/
  | settings (next : AppSettings)

/-- A change of the settings that is saved before it is published. -/
def save (s : AppSettings) (change : AppSettings → Fallible (Unit × Bool × AppSettings))
    (saved : Fallible Unit) : Fallible Unit × AppSettings :=
  Id.run (changeSettingsIfWith s change fun _ => pure saved)

def State.save (w : State) (change : AppSettings → Fallible (Unit × Bool × AppSettings))
    (saved : Fallible Unit) : Fallible Unit × State :=
  (BindingStore.save w.settings change saved).map (fun r => r) fun settings => { w with settings }

/-- A change that always needs a save. -/
def always (change : AppSettings → Fallible (Unit × AppSettings)) (s : AppSettings) :
    Fallible (Unit × Bool × AppSettings) :=
  (change s).map fun p => (p.1, true, p.2)

/-- Whether the row routes through the address. -/
def routes (row : AdoptedMeta) (ip : Ipv4Addr) : Bool :=
  row.desired == .present && row.applied && row.address == some ip.toText && row.lastError.isNone

/-- `merge_adopted_config` -/
def mergeAdoptedConfig (live : FiniteMap String Ipv4Addr) (rows : FiniteMap String AdoptedMeta) :
    FiniteMap String String :=
  FiniteMap.tabulate live.keys fun subnet =>
    match live.lookup subnet, rows.lookup subnet with
    | some ip, some row => if routes row ip then some ip.toText else none
    | _, _ => none

/-- `adopted_config_snapshot` -/
def adoptedConfigSnapshot (w : State) : FiniteMap String String × FiniteMap String AdoptedMeta :=
  (mergeAdoptedConfig w.adoptedIps w.adoptedMeta, w.adoptedMeta)

/-- The exported address of a published row. -/
def publishLive (live : FiniteMap String Ipv4Addr) (subnet : String) (row : AdoptedMeta) :
    FiniteMap String Ipv4Addr :=
  if row.confirmed then
    match row.address.bind Ipv4Addr.parse with
    | some ip => live.insert subnet ip
    | none => live
  else live.erase subnet

section World

variable {N : Type} (net : IpNetwork N)

/-- The row as the OS call and the observation after it leave it. -/
def observedRow (site : CallSite) (subnet : String) (row : AdoptedMeta)
    (snapshot : Fallible (Snapshot N)) (mode : NetworkMode) (exported : Option String)
    (a : Answers) : AdoptedMeta :=
  (applyBinding a.ops row (rowAction net subnet row snapshot mode exported)
    (snapshot.toOption.map (·.iface)) (a.observe (site.read row)) |>.run {}).1

def handle (w : State) : (e : Effect) → Outcome N → e.Reply × State
  | .settings, _ => (w.settings, w)
  | .proceed, o => (o.checked, w)
  | .apply site subnet row, o =>
    (observedRow net site subnet row o.snapshot w.settings.networkMode
      (w.settings.adoptedSubnets.lookup subnet) o.answers, w)
  | .persistBinding subnet row, o =>
    w.save (AppSettings.setBindingForOperation subnet row false) o.saved
  | .persistIntent subnet row, o =>
    w.save (AppSettings.setBindingForOperation subnet row true) o.saved
  | .forgetUnowned subnet row, o =>
    w.save (always (AppSettings.forgetUnownedBinding subnet row)) o.saved
  | .prepare p, o =>
    (match o.checked with
      | .error e => .error e
      | .ok () => PocketStream.prepareSubnetAdoption net w.settings p.deviceSubnet p.adapterMac
        p.interfaceIndex o.stale o.snapshot o.staleAfter, w)
  | .forgetCompletedRemoval subnet row, o =>
    w.save (always (AppSettings.forgetCompletedRemoval subnet row)) o.saved
  | .adopted, o => (o.adopted, w)
  | .commit subnet row, o =>
    match o.checked with
    | .error e => (.error e, w)
    | .ok () => w.save (AppSettings.setBindingForOperation subnet row false) o.saved
  | .publishRow subnet row, _ =>
    ((), { w with
      adoptedIps := publishLive w.adoptedIps subnet row
      adoptedMeta := w.adoptedMeta.insert subnet row })
  | .insertLive subnet ip, _ => ((), { w with adoptedIps := w.adoptedIps.insert subnet ip })
  | .retireLive subnet, _ => ((), { w with adoptedIps := w.adoptedIps.erase subnet })
  | .recordRow subnet row, _ => ((), { w with adoptedMeta := w.adoptedMeta.insert subnet row })
  | .retireRow subnet, _ => ((), { w with adoptedMeta := w.adoptedMeta.erase subnet })

def interfere (w : State) : Interference → State
  | .noteLiveness subnet wall =>
    if (w.adoptedIps.lookup subnet).isSome then
      let row := (w.adoptedMeta.lookup subnet).getD {}
      { w with adoptedMeta := w.adoptedMeta.insert subnet { row with lastDeviceSeen := some wall } }
    else w
  | .flush rows saved => (w.save (always (AppSettings.updateAdoptionLiveness rows)) saved).2
  | .settings next =>
    { w with settings := { next with
        adoptedSubnets := w.settings.adoptedSubnets
        adoptedMeta := w.settings.adoptedMeta } }

def world : World Effect Effect.Reply State (Outcome N) Interference where
  handle := handle net
  interfere := interfere

/-- A start on a settings file; nothing is exported before the first reconciliation. -/
def State.start (file : AppSettings) (now : String) (rows : FiniteMap String AdoptedMeta) :
    State where
  settings := file.align now
  adoptedIps := ∅
  adoptedMeta := rows

end World

end BindingStore

end PocketStream
