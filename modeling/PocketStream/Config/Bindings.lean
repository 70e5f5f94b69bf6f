import PocketStream.Config.Settings
import PocketStream.Address.Ipv4

/-! # Changes of adopted subnets and temporary addresses

Each operation of the binding owner as the change it makes to a copy of the
settings before the copy is saved and published.
-/

namespace PocketStream

open Foundation

def parseCameraIp (ip : String) : Fallible Ipv4Addr :=
  match Ipv4Addr.parse ip with
  | none => .error (.network s!"Invalid IP address: {ip}")
  | some addr =>
    if addr.isLinkLocal then
      .error (.network
        s!"IP address not allowed: {ip}; give the camera a routable IPv4 address first")
    else if prohibitedCameraIp addr then .error (.network s!"IP address not allowed: {ip}")
    else .ok addr

namespace AppSettings

def selectedOwner (s : AppSettings) : Option String := s.selectedAdapterMac.bind canonicalMac

def reserveTemporary (row : PendingAddress) (s : AppSettings) : Fallible (Unit × AppSettings) :=
  let owner := canonicalMac row.adapterMac
  if owner.isNone ∨ owner ≠ s.selectedOwner ∨ s.networkMode ≠ .staticAuto ∨ row.prefixLen ≠ 24 ∨
      (parseCameraIp row.address).toOption.isNone ∨
      s.adoptedMeta.anyEntry (fun _ m => m.address == some row.address) ∨
      s.pendingAddresses.any (fun p => p.adapterMac == row.adapterMac && p.address == row.address)
  then .error (.network "Temporary address ownership unavailable or already reserved")
  else .ok ((), { s with pendingAddresses := s.pendingAddresses ++ [row] })

def forgetTemporary (row : PendingAddress) (s : AppSettings) : Fallible (Unit × AppSettings) :=
  .ok ((), { s with pendingAddresses := s.pendingAddresses.filter (· != row) })

/-- `update_adoption_liveness`: only the last positive evidence of present rows changes. -/
def updateAdoptionLiveness (incoming : FiniteMap String AdoptedMeta) (s : AppSettings) :
    Fallible (Unit × AppSettings) :=
  .ok ((), { s with
    adoptedMeta := s.adoptedMeta.mapValues fun subnet row =>
      match incoming.lookup subnet with
      | none => row
      | some seen =>
        if row.desired = .present ∧ row.address = seen.address then
          { row with lastDeviceSeen := seen.lastDeviceSeen }
        else row })

end AppSettings

/-- Whether the row records exactly the pending address. -/
def AdoptedMeta.owns (row : AdoptedMeta) (p : PendingAddress) : Bool :=
  row.adapterMac == some p.adapterMac && row.address == some p.address &&
    row.prefixLen == some p.prefixLen

/-- A row whose address was observed in place. -/
def AdoptedMeta.confirmed (row : AdoptedMeta) : Bool :=
  row.desired == .present && row.applied && row.lastError.isNone

namespace AppSettings

/-- The exported address of a subnet follows its row: retired with a removed one, set by
the first address of a present one. -/
def exportBinding (subnet : String) (row : AdoptedMeta) (s : AppSettings) : AppSettings :=
  if row.desired = .removed then removeAdoptionEntry s subnet
  else match row.address with
    | some address => { s with adoptedSubnets :=
        s.adoptedSubnets.insert subnet ((s.adoptedSubnets.lookup subnet).getD address) }
    | none => s

/-- A confirmed row takes over the pending record of its address. -/
def handOver (row : AdoptedMeta) (s : AppSettings) : AppSettings :=
  { s with pendingAddresses :=
      if row.confirmed then s.pendingAddresses.filter fun p => !row.owns p
      else s.pendingAddresses }

def setBindingForOperation (subnet : String) (row : AdoptedMeta) (forceIntent : Bool)
    (s : AppSettings) : Fallible (Unit × Bool × AppSettings) :=
  let needsHandover := row.confirmed && s.pendingAddresses.any row.owns
  if !forceIntent && s.adoptedMeta.lookup subnet == some row && !needsHandover then
    .ok ((), false, s)
  else if row.desired = .present ∧
      (s.adoptedMeta.lookup subnet).any (·.desired == .removed) then
    .error (.network "Binding was removed by the user")
  else
    let s := (s.exportBinding subnet row).handOver row
    .ok ((), true, { s with adoptedMeta := s.adoptedMeta.insert subnet row })

def forgetUnownedBinding (subnet : String) (expected : AdoptedMeta) (s : AppSettings) :
    Fallible (Unit × AppSettings) :=
  if expected.adapterMac.isSome ∨ expected.address.isNone ∨
      s.adoptedMeta.lookup subnet ≠ some expected ∨
      (s.adoptedSubnets.lookup subnet).any (fun ip => some ip != expected.address) ∨
      s.pendingAddresses.any (fun p => some p.address == expected.address)
  then .error (.network "Saved binding changed or address ownership is pending; retry removal")
  else .ok ((), { s with
    adoptedSubnets := s.adoptedSubnets.erase subnet
    adoptedMeta := s.adoptedMeta.erase subnet })

def forgetCompletedRemoval (subnet : String) (expected : AdoptedMeta) (s : AppSettings) :
    Fallible (Unit × AppSettings) :=
  let owner := expected.adapterMac.bind canonicalMac
  if !expected.removalComplete ∨ s.adoptedMeta.lookup subnet ≠ some expected ∨
      (s.adoptedSubnets.lookup subnet).isSome ∨ s.networkMode ≠ .staticAuto ∨ owner.isNone ∨
      owner ≠ s.selectedOwner
  then .error (.network "Saved removal changed or is not complete")
  else .ok ((), { s with adoptedMeta := s.adoptedMeta.erase subnet })

/-- Whether an explicit claim of the address retires the row. -/
def claims (s : AppSettings) (address : String) (row : AdoptedMeta) : Bool :=
  row.address == some address && row.adapterMac.all fun owner =>
    s.selectedAdapterMac.any fun selected => canonicalMac owner == canonicalMac selected

def claimBinding (address : String) (s : AppSettings) : Fallible (Unit × AppSettings) :=
  let claimed := fun subnet => (s.adoptedMeta.lookup subnet).any (s.claims address)
  .ok ((), { s with
    pendingAddresses := s.pendingAddresses.filter fun p =>
      p.address != address || canonicalMac p.adapterMac != s.selectedOwner
    adoptedSubnets := s.adoptedSubnets.retain fun subnet _ => !claimed subnet
    adoptedMeta := s.adoptedMeta.retain fun subnet _ => !claimed subnet })

end AppSettings

end PocketStream
