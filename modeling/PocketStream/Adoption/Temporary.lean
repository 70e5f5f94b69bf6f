import PocketStream.Adoption.Operations
import PocketStream.Config.Bindings

/-! # Write-ahead ownership of temporary addresses

Adding or removing a temporary address is a sequence of effects on the settings
in memory, the settings file and the adapter, any of which may fail, may take
effect and still report an error, or may be the last one before a crash.
-/

namespace PocketStream

open Foundation Program

namespace Temporary

/-- The effects of `PendingAdoptOps`: injected calls and the configuration's own. -/
inductive Effect where
  | call (call : AdoptCall)
  | config
  | persist (next : AppSettings)
  | publish (next : AppSettings)

abbrev Effect.Reply : Effect → Type
  | call c => c.Reply
  | config => AppSettings
  | persist _ => Fallible Unit
  | publish _ => Unit

abbrev Op (α : Type) := ExceptT AppError (Program Effect Effect.Reply) α

def issue (e : Effect) : Program Effect Effect.Reply e.Reply := perform e

def checkWritesAvailable : Op Unit := ExceptT.mk (issue (.call .checkWritesAvailable))

def observe (iface : String) : Op InterfaceInfo := ExceptT.mk (issue (.call (.observe iface)))

def addAddress (iface : String) (ip : Ipv4Addr) (mask : String) : Op Unit :=
  ExceptT.mk (issue (.call (.add iface ip mask)))

def removeAddress (iface : String) (ip : Ipv4Addr) : Op Unit :=
  ExceptT.mk (issue (.call (.remove iface ip)))

def getConfig : Op AppSettings := ExceptT.lift (issue .config)

/-- A configuration transaction: read, change a copy, save, publish. -/
def changeConfig (change : AppSettings → Fallible (Unit × AppSettings)) : Op Unit :=
  ExceptT.mk do
    let settings ← issue .config
    let (result, next) ← changeSettingsWith settings change fun next => issue (.persist next)
    issue (.publish next)
    return result

def reserveTemporaryWith (row : PendingAddress) : Op Unit :=
  changeConfig (AppSettings.reserveTemporary row)

def forgetTemporaryWith (row : PendingAddress) : Op Unit :=
  changeConfig (AppSettings.forgetTemporary row)

def observeOwned (adapterMac iface : String) : Op InterfaceInfo := do
  let current ← observe iface
  if canonicalMac current.mac ≠ canonicalMac adapterMac ∨ (canonicalMac adapterMac).isNone then
    throw (.network "Temporary address adapter changed")
  return current

def holds (current : InterfaceInfo) (address : String) : Bool :=
  current.ips.any (·.address == address)

/-- `PendingAdoptOps::add` from the reservation on. -/
def addReserved (adapterMac iface : String) (ip : Ipv4Addr) (mask : String)
    (row : PendingAddress) : Op Unit := do
  reserveTemporaryWith row
  -- an external address added since the save must not be claimed by this attempt
  if holds (← observeOwned adapterMac iface) row.address then
    forgetTemporaryWith row
    throw (.network "Address appeared before temporary add; no OS change made")
  -- any error is ambiguous, so the durable record stays
  addAddress iface ip mask

/-- `PendingAdoptOps::add` -/
def add (adapterMac iface : String) (ip : Ipv4Addr) (mask : String) : Op Unit := do
  checkWritesAvailable
  let prefixLen ← ExceptT.mk (pure (maskToPrefix mask))
  let some owner := canonicalMac adapterMac
    | throw (.network "Invalid temporary adapter owner")
  let row : PendingAddress := ⟨owner, ip.toText, prefixLen⟩
  let current ← observeOwned adapterMac iface
  if holds current row.address then
    throw (.network "Address already exists; temporary ownership not claimed")
  if (← getConfig).pendingAddresses.contains row then
    forgetTemporaryWith row
  addReserved adapterMac iface ip mask row

/-- `PendingAdoptOps::remove` for a row no committed row covers. -/
def removeRow (adapterMac iface : String) (ip : Ipv4Addr) (row : PendingAddress) : Op Unit := do
  let current ← observeOwned adapterMac iface
  if let some observed := current.ips.find? (·.address == row.address) then
    if observed.prefixLen ≠ row.prefixLen then
      throw (.network "Temporary address prefix changed; no removal made")
    removeAddress iface ip
    if holds (← observeOwned adapterMac iface) row.address then
      throw (.network "Temporary address remains after removal")
  forgetTemporaryWith row

/-- `PendingAdoptOps::remove` -/
def remove (adapterMac iface : String) (ip : Ipv4Addr) : Op Unit := do
  checkWritesAvailable
  let settings ← getConfig
  let some row := settings.pendingAddresses.find? fun p =>
      p.address == ip.toText && some p.adapterMac == canonicalMac adapterMac
    | return () -- committed or manual claim wins
  if settings.adoptedMeta.anyEntry fun _ m =>
      m.address == some row.address && m.adapterMac == some row.adapterMac then
    forgetTemporaryWith row
  else
    removeRow adapterMac iface ip row

end Temporary

end PocketStream
