import PocketStream.Foundation.FiniteMap
import PocketStream.Address.Mac

/-! # Application settings

The runtime settings value and its parts. Adopted subnets are two maps kept in
step: the exported address of each subnet, and the ownership row with the
desired and the last observed state.
-/

namespace PocketStream

open Foundation

inductive AppError where
  | network (message : String)
  | addressNotReady (message : String)
  | discoveryUnavailable (message : String)
  | stream (message : String)
  | config (message : String)
  | validation (message : String)
  | srtPassphraseUnavailable (message : String)
  | camera (message : String)
  deriving DecidableEq, Repr

inductive StreamProtocol | rtsp | udp
  deriving DecidableEq, Repr

inductive RestreamProtocol | rtsp | srt
  deriving DecidableEq, Repr

structure StreamConfig where
  protocol : StreamProtocol
  rtspPort : UInt16
  rtspPath : String
  udpPort : UInt16
  cameraIp : String
  cameraMac : Option String
  audioMuted : Bool
  deriving DecidableEq

structure RtspServerConfig where
  enabled : Bool
  port : UInt16
  token : String
  bindInterface : String
  bindInterfaceId : Option String
  deriving DecidableEq

inductive SrtPassphraseState where
  | unencrypted
  | available (value : String)
  | unavailable (preservedCiphertext : String)
  deriving DecidableEq

structure SrtServerConfig where
  port : UInt16
  passphrase : SrtPassphraseState
  latencyMs : UInt32
  streamId : String
  bindInterface : String
  bindInterfaceId : Option String
  deriving DecidableEq

structure Credentials where
  username : String
  password : String
  deriving DecidableEq

inductive NetworkMode | dhcp | staticAuto | staticManual
  deriving DecidableEq, Repr

structure ManualNode where
  expectedMac : Option String
  ip : String
  aliasName : String
  deriving DecidableEq

def manualNodeKey (node : ManualNode) : String :=
  node.expectedMac.getD ("manual:" ++ node.ip)

inductive BindingDesired | present | removed
  deriving DecidableEq, Repr

/-- Saved intent and the last observed OS state of one adopted subnet. -/
structure AdoptedMeta where
  adoptedAt : Option String := none
  lastDeviceSeen : Option String := none
  adapterMac : Option String := none
  prefixLen : Option UInt8 := none
  address : Option String := none
  desired : BindingDesired := .present
  applied : Bool := false
  lastError : Option String := none
  deriving DecidableEq

def AdoptedMeta.removalComplete (row : AdoptedMeta) : Bool :=
  row.desired == .removed && !row.applied && row.lastError.isNone

/-- Write-ahead ownership of an uncommitted OS address. -/
structure PendingAddress where
  adapterMac : String
  address : String
  prefixLen : UInt8
  deriving DecidableEq

structure AppSettings where
  bindIdentityMigrationComplete : Bool
  selectedAdapterMac : Option String
  primaryAddresses : FiniteMap String String
  stream : StreamConfig
  restreamProtocol : RestreamProtocol
  rtspServer : RtspServerConfig
  srtServer : SrtServerConfig
  credentials : Credentials
  adoptedSubnets : FiniteMap String String
  adoptedMeta : FiniteMap String AdoptedMeta
  pendingAddresses : List PendingAddress
  zoomPositions : FiniteMap String ℤ
  networkMode : NetworkMode
  manualNodes : List ManualNode
  deriving DecidableEq

/-- `AppSettings::default`, with the generated access token. -/
def AppSettings.fresh (token : String) : AppSettings where
  bindIdentityMigrationComplete := true
  selectedAdapterMac := none
  primaryAddresses := ∅
  stream :=
    { protocol := .rtsp, rtspPort := 554, rtspPath := "/z3-1.sdp", udpPort := 8600,
      cameraIp := "", cameraMac := none, audioMuted := false }
  restreamProtocol := .rtsp
  rtspServer :=
    { enabled := false, port := 8554, token := token, bindInterface := "",
      bindInterfaceId := none }
  srtServer :=
    { port := 8890, passphrase := .unencrypted, latencyMs := 125, streamId := "",
      bindInterface := "", bindInterfaceId := none }
  credentials := { username := "", password := "" }
  adoptedSubnets := ∅
  adoptedMeta := ∅
  pendingAddresses := []
  zoomPositions := ∅
  networkMode := .staticAuto
  manualNodes := []

/-- The prefix length a subnet key ends in. -/
def subnetPrefix (subnet : String) : Option UInt8 :=
  (rsplitOnce '/' subnet.toList).bind fun p => fromStrRadix 10 p.2

/-- The row of an exported address after alignment. -/
def alignRow (subnet address now : String) (row : Option AdoptedMeta) : AdoptedMeta :=
  let row := row.getD { adoptedAt := some now }
  { row with
    address := some (row.address.getD address)
    prefixLen := row.prefixLen.or (subnetPrefix subnet) }

/-- Backfill legacy metadata without discarding detached removal intent. The
loop over the exported addresses touches only its own key. -/
def alignAdoptedMeta (adopted : FiniteMap String String) (rows : FiniteMap String AdoptedMeta)
    (now : String) : FiniteMap String AdoptedMeta :=
  let kept := rows.retain fun subnet row =>
    (adopted.lookup subnet).isSome || row.desired == .removed
  FiniteMap.tabulate (rows.keys ∪ adopted.keys) fun subnet =>
    match adopted.lookup subnet with
    | none => kept.lookup subnet
    | some address => some (alignRow subnet address now (kept.lookup subnet))

theorem lookup_alignAdoptedMeta (adopted : FiniteMap String String)
    (rows : FiniteMap String AdoptedMeta) (now subnet : String) :
    (alignAdoptedMeta adopted rows now).lookup subnet =
      match adopted.lookup subnet with
      | none => (rows.lookup subnet).filter fun row => row.desired == .removed
      | some address => some (alignRow subnet address now (rows.lookup subnet)) := by
  rw [alignAdoptedMeta, FiniteMap.lookup_tabulate]
  cases ha : adopted.lookup subnet with
  | none =>
    simp only [FiniteMap.lookup_retain, ha, Option.isSome_none, Bool.false_or]
    split
    · rfl
    · next h =>
      rw [Finset.mem_union, not_or] at h
      simp [FiniteMap.lookup_eq_none_of_notMem_keys h.1]
  | some address =>
    have hk : subnet ∈ rows.keys ∪ adopted.keys :=
      Finset.mem_union_right _ (FiniteMap.mem_keys_of_lookup ha)
    simp only [hk, if_true, FiniteMap.lookup_retain, ha, Option.isSome_some, Bool.true_or]
    cases rows.lookup subnet <;> rfl

/-- The settings `load_or_default` publishes for a parsed file. -/
def AppSettings.align (s : AppSettings) (now : String) : AppSettings :=
  { s with adoptedMeta := alignAdoptedMeta s.adoptedSubnets s.adoptedMeta now }

/-- Retire one route, keeping its exact address and removal intent. -/
def removeAdoptionEntry (s : AppSettings) (subnet : String) : AppSettings :=
  match s.adoptedSubnets.lookup subnet, s.adoptedMeta.lookup subnet with
  | none, none => s
  | address, row =>
    let row := row.getD {}
    let row := { row with
      address := row.address.or address
      prefixLen := row.prefixLen.or (subnetPrefix subnet)
      desired := .removed }
    { s with
      adoptedSubnets := s.adoptedSubnets.erase subnet
      adoptedMeta := s.adoptedMeta.insert subnet row }

/-- A failure of the `?` operator carries only the error. -/
abbrev Fallible (α : Type) := Except AppError α

theorem Fallible.bind_eq_ok {α β : Type} {x : Fallible α} {f : α → Fallible β} {b : β} :
    x >>= f = .ok b ↔ ∃ a, x = .ok a ∧ f a = .ok b := by
  cases x with
  | error e => exact ⟨nofun, nofun⟩
  | ok a => exact ⟨fun h => ⟨a, rfl, h⟩, fun ⟨a', ha, h⟩ => by cases ha; exact h⟩

/-- `change_settings_if_with`: change a copy, save it, and only then publish it. -/
def changeSettingsIfWith {m : Type → Type} [Monad m] {τ : Type} (settings : AppSettings)
    (change : AppSettings → Fallible (τ × Bool × AppSettings))
    (persist : AppSettings → m (Fallible Unit)) : m (Fallible τ × AppSettings) :=
  match change settings with
  | .error e => pure (.error e, settings)
  | .ok (result, changed, next) =>
    if changed then do
      match ← persist next with
      | .error e => pure (.error e, settings)
      | .ok () => pure (.ok result, next)
    else pure (.ok result, settings)

/-- `change_settings_with`: a change that always needs a save. -/
def changeSettingsWith {m : Type → Type} [Monad m] {τ : Type} (settings : AppSettings)
    (change : AppSettings → Fallible (τ × AppSettings))
    (persist : AppSettings → m (Fallible Unit)) : m (Fallible τ × AppSettings) :=
  changeSettingsIfWith settings
    (fun s => (change s).map fun (value, next) => (value, true, next)) persist

end PocketStream
