import PocketStream.Config.Bindings
import PocketStream.Config.Store

/-! # The writers of the settings

Every writer owns one group of fields. The transactions publish what they have
saved. The older writers change the settings first, and a failed save then
leaves memory ahead of the file unless the writer had nothing to change.
-/

namespace PocketStream

open Foundation

variable {α : Type}

/-- Change the first element that satisfies `p`, as `iter_mut().find` gives it out. -/
def updateFirst (p : α → Bool) (f : α → α) : List α → List α
  | [] => []
  | x :: xs => if p x then f x :: xs else x :: updateFirst p f xs

theorem updateFirst_eq_self {p : α → Bool} {f : α → α} {l : List α} :
    updateFirst p f l = l ↔ ∀ x, l.find? p = some x → f x = x := by
  induction l with
  | nil => simp [updateFirst]
  | cons x xs ih => cases hp : p x <;> simp [updateFirst, hp, ih]

/-- `str::eq_ignore_ascii_case` -/
def eqIgnoreAsciiCase (a b : String) : Bool :=
  a.toList.map Char.toLower == b.toList.map Char.toLower

/-- `str::split_once` -/
def splitOnce (sep : Char) (s : List Char) : Option (List Char × List Char) :=
  match s.span (· != sep) with
  | (_, []) => none
  | (before, _ :: after) => some (before, after)

def parseCidr (cidr : String) : Fallible (Ipv4Addr × UInt8) :=
  match splitOnce '/' cidr.toList with
  | none => .error (.network s!"Invalid CIDR (expected IP/prefix): {cidr}")
  | some (ip, prefixLen) =>
    match Ipv4Addr.parseChars ip with
    | none => .error (.network s!"Invalid IP in CIDR: {cidr}")
    | some ip =>
      match fromStrRadix 10 prefixLen with
      | none => .error (.network s!"Invalid prefix length in CIDR: {cidr}")
      | some p =>
        if 32 < p then .error (.network s!"CIDR prefix must be 0..=32, got /{p}")
        else .ok (ip, p)

def sameExpectedMac : Option String → Option String → Bool
  | none, none => true
  | some a, some b => eqIgnoreAsciiCase a b
  | _, _ => false

/-- Whether the node may not take the place of the existing one. -/
def ManualNode.reassigns (node existing : ManualNode) : Bool :=
  existing.expectedMac.isSome && node.expectedMac.isSome &&
    existing.expectedMac != node.expectedMac

/-- The existing node under the new name, bound if it was not. -/
def ManualNode.repin (node existing : ManualNode) : ManualNode :=
  { existing with
    aliasName := node.aliasName
    expectedMac := existing.expectedMac.or node.expectedMac }

structure BindInterface where
  id : String
  aliasName : String
  deriving DecidableEq

/-- One section of `migrate_bind_ids`: a name that fits one interface gets its identity. -/
def migrateBindId (interfaces : List BindInterface) (bindInterface : String)
    (id : Option String) : Option String :=
  if bindInterface.isEmpty || id.isSome then id
  else match interfaces.filter (·.aliasName == bindInterface) with
    | [i] => some i.id
    | _ => id

namespace AppSettings

/-! ### Changes of the older writers -/

def clampZoom (percent : ℤ) : ℤ := max 0 (min percent 100)

def updateZoomPosition (cameraIp : String) (percent : ℤ) (s : AppSettings) :
    Fallible (Unit × Bool × AppSettings) :=
  .ok ((), true,
    { s with zoomPositions := s.zoomPositions.insert cameraIp (clampZoom percent) })

def updateCredentials (credentials : Credentials) (s : AppSettings) :
    Fallible (Unit × Bool × AppSettings) :=
  .ok ((), true, { s with credentials })

def setAudioMuted (muted : Bool) (s : AppSettings) : Fallible (Unit × Bool × AppSettings) :=
  .ok ((), true, { s with stream := { s.stream with audioMuted := muted } })

def addManualNode (node : ManualNode) (s : AppSettings) :
    Fallible (Unit × Bool × AppSettings) :=
  match s.manualNodes.find? (·.ip == node.ip) with
  | some existing =>
    if node.reassigns existing then
      .error (.network
        "different device at this address; remove the old pin before reassigning")
    else .ok ((), true,
      { s with manualNodes := updateFirst (·.ip == node.ip) node.repin s.manualNodes })
  | none => .ok ((), true, { s with manualNodes := s.manualNodes ++ [node] })

def updateManualNodeAlias (key aliasName : String) (s : AppSettings) :
    Fallible (Bool × Bool × AppSettings) :=
  let named := fun n => eqIgnoreAsciiCase (manualNodeKey n) key
  match s.manualNodes.find? named with
  | some node =>
    if node.aliasName ≠ aliasName then
      .ok (true, true,
        { s with manualNodes := updateFirst named (fun n => { n with aliasName }) s.manualNodes })
    else .ok (false, false, s)
  | none => .ok (false, false, s)

def clearManualNodes (s : AppSettings) : Fallible (Unit × Bool × AppSettings) :=
  .ok ((), true, { s with manualNodes := [] })

/-! ### Changes of the transactions -/

def updateStream (stream : StreamConfig) (s : AppSettings) : Fallible (Unit × AppSettings) := do
  let next := { s with stream }
  let _ ← validateProspectiveSettings next
  return ((), next)

def migrateBindIds (interfaces : List BindInterface) (s : AppSettings) :
    Fallible (Unit × Bool × AppSettings) :=
  if s.bindIdentityMigrationComplete then .ok ((), false, s)
  else
    let rtspId := migrateBindId interfaces s.rtspServer.bindInterface s.rtspServer.bindInterfaceId
    let srtId := migrateBindId interfaces s.srtServer.bindInterface s.srtServer.bindInterfaceId
    .ok ((), true, { s with
      bindIdentityMigrationComplete := true
      rtspServer := { s.rtspServer with bindInterfaceId := rtspId }
      srtServer := { s.srtServer with bindInterfaceId := srtId } })

def setSelectedAdapterMac (mac : String) (s : AppSettings) : Fallible (Unit × AppSettings) :=
  .ok ((), { s with selectedAdapterMac := some mac })

def setNetworkMode (mode : NetworkMode) (s : AppSettings) : Fallible (Unit × AppSettings) :=
  .ok ((), { s with networkMode := mode })

def setPrimaryAddress (mac cidr : String) (s : AppSettings) : Fallible (Unit × AppSettings) :=
  match canonicalMac mac with
  | none => .error (.config "Invalid primary adapter MAC")
  | some mac => do
    if cidr ≠ "" then let _ ← parseCidr cidr
    return ((), { s with primaryAddresses := s.primaryAddresses.insert mac cidr })

/-- The first verification of a pinned address binds it to the device. -/
def bindManualNode (ip mac : String) (stale : Bool) (s : AppSettings) :
    Fallible (ManualNode × Bool × AppSettings) :=
  match canonicalMac mac with
  | none => .error (.network "Invalid device MAC")
  | some mac =>
    if stale then .error (.network "verification retired")
    else match s.manualNodes.find? (·.ip == ip) with
      | none => .error (.network "manual node no longer exists")
      | some node =>
        if node.expectedMac.isSome then .ok (node, false, s)
        else
          let bind := fun n : ManualNode => { n with expectedMac := some mac }
          .ok (bind node, true,
            { s with manualNodes := updateFirst (·.ip == ip) bind s.manualNodes })

def removeManualNode (ip : String) (expectedMac : Option String) (s : AppSettings) :
    Fallible (Bool × Bool × AppSettings) :=
  let kept := s.manualNodes.filter fun n =>
    n.ip != ip || !sameExpectedMac n.expectedMac expectedMac
  if kept.length = s.manualNodes.length then .ok (false, false, s)
  else .ok (true, true, { s with manualNodes := kept })

end AppSettings

/-- A call of one of the writers. -/
inductive Writer where
  | updateZoomPosition (cameraIp : String) (percent : ℤ)
  | updateCredentials (credentials : Credentials)
  | setAudioMuted (muted : Bool)
  | addManualNode (node : ManualNode)
  | updateManualNodeAlias (key aliasName : String)
  | clearManualNodes
  | updateStream (stream : StreamConfig)
  | commitRestreamSettings (rtspServer : RtspServerConfig) (srtServer : SrtServerConfig)
  | commitRestreamProtocol (protocol : RestreamProtocol)
  | migrateBindIds (interfaces : List BindInterface)
  | setSelectedAdapterMac (mac : String)
  | setNetworkMode (mode : NetworkMode)
  | setPrimaryAddress (mac cidr : String)
  | bindManualNode (ip mac : String) (stale : Bool)
  | removeManualNode (ip : String) (expectedMac : Option String)
  | reserveTemporary (row : PendingAddress)
  | forgetTemporary (row : PendingAddress)
  | updateAdoptionLiveness (rows : FiniteMap String AdoptedMeta)
  | setBinding (subnet : String) (row : AdoptedMeta)
  | setBindingIntent (subnet : String) (row : AdoptedMeta)
  | forgetUnownedBinding (subnet : String) (expected : AdoptedMeta)
  | forgetCompletedRemoval (subnet : String) (expected : AdoptedMeta)
  | claimBinding (address : String)

/-- How a call changes the settings and when it saves them. -/
inductive Style where
  | transaction (change : AppSettings → Fallible (Unit × Bool × AppSettings))
  | commit (publish : AppSettings → AppSettings)
  | mutate (change : AppSettings → Fallible (Unit × Bool × AppSettings))

section Style

variable {τ : Type}

/-- A change without the value it returns. -/
def silent (change : AppSettings → Fallible (τ × Bool × AppSettings)) (s : AppSettings) :
    Fallible (Unit × Bool × AppSettings) :=
  (change s).map fun (_, changed, next) => ((), changed, next)

/-- A change that always needs a save. -/
def always (change : AppSettings → Fallible (τ × AppSettings)) (s : AppSettings) :
    Fallible (Unit × Bool × AppSettings) :=
  (change s).map fun (_, next) => ((), true, next)

end Style

open AppSettings in
def Writer.style : Writer → Style
  | updateZoomPosition ip percent => .mutate (AppSettings.updateZoomPosition ip percent)
  | updateCredentials c => .mutate (AppSettings.updateCredentials c)
  | setAudioMuted muted => .mutate (AppSettings.setAudioMuted muted)
  | addManualNode node => .mutate (AppSettings.addManualNode node)
  | updateManualNodeAlias key a => .mutate (silent (AppSettings.updateManualNodeAlias key a))
  | clearManualNodes => .mutate AppSettings.clearManualNodes
  | updateStream stream => .transaction (always (AppSettings.updateStream stream))
  | commitRestreamSettings rtspServer srtServer => .commit ({ · with rtspServer, srtServer })
  | commitRestreamProtocol protocol => .commit ({ · with restreamProtocol := protocol })
  | migrateBindIds interfaces => .transaction (AppSettings.migrateBindIds interfaces)
  | setSelectedAdapterMac mac => .transaction (always (AppSettings.setSelectedAdapterMac mac))
  | setNetworkMode mode => .transaction (always (AppSettings.setNetworkMode mode))
  | setPrimaryAddress mac cidr =>
    .transaction (always (AppSettings.setPrimaryAddress mac cidr))
  | bindManualNode ip mac stale =>
    .transaction (silent (AppSettings.bindManualNode ip mac stale))
  | removeManualNode ip expected =>
    .transaction (silent (AppSettings.removeManualNode ip expected))
  | reserveTemporary row => .transaction (always (AppSettings.reserveTemporary row))
  | forgetTemporary row => .transaction (always (AppSettings.forgetTemporary row))
  | updateAdoptionLiveness rows =>
    .transaction (always (AppSettings.updateAdoptionLiveness rows))
  | setBinding subnet row => .transaction (setBindingForOperation subnet row false)
  | setBindingIntent subnet row => .transaction (setBindingForOperation subnet row true)
  | forgetUnownedBinding subnet row =>
    .transaction (always (AppSettings.forgetUnownedBinding subnet row))
  | forgetCompletedRemoval subnet row =>
    .transaction (always (AppSettings.forgetCompletedRemoval subnet row))
  | claimBinding address => .transaction (always (AppSettings.claimBinding address))

/-- The settings in memory after a call. -/
def Style.perform {m : Type → Type} [Monad m] (settings : AppSettings)
    (persist : AppSettings → m (Fallible Unit)) : Style → m AppSettings
  | transaction change => Prod.snd <$> changeSettingsIfWith settings change persist
  | commit publish => Prod.snd <$> commitRestreamWith settings publish persist
  | mutate change => Prod.snd <$> mutateThenSaveWith settings change persist

/-- The store after a call, given how its save ends. -/
def Store.write (w : Store) (writer : Writer) (saved : Fallible Unit) : Store :=
  let (memory, disk) := writer.style.perform w.memory (save saved) |>.run w.disk
  ⟨memory, disk⟩

/-- Where a failed save is harmless: a writer that saves before it publishes, or settings
that already hold what is written. -/
def Writer.Harmless (s : AppSettings) : Writer → Prop
  | updateZoomPosition ip percent => s.zoomPositions.lookup ip = some (AppSettings.clampZoom percent)
  | updateCredentials c => s.credentials = c
  | setAudioMuted muted => s.stream.audioMuted = muted
  | addManualNode node => ∃ existing, s.manualNodes.find? (·.ip == node.ip) = some existing ∧
      (node.reassigns existing = true ∨
        existing.aliasName = node.aliasName ∧
          (existing.expectedMac.isSome ∨ node.expectedMac = none))
  | updateManualNodeAlias key a => ∀ node,
      s.manualNodes.find? (fun n => eqIgnoreAsciiCase (manualNodeKey n) key) = some node →
        node.aliasName = a
  | clearManualNodes => s.manualNodes = []
  | _ => True

theorem Store.write_transaction_failed {writer : Writer}
    {change : AppSettings → Fallible (Unit × Bool × AppSettings)}
    (h : writer.style = .transaction change) (w : Store) (e : AppError) :
    w.write writer (.error e) = w := by
  rw [write, h]
  exact w.changeIf_failed change e

theorem Store.write_commit_failed {writer : Writer} {publish : AppSettings → AppSettings}
    (h : writer.style = .commit publish) (w : Store) (e : AppError) :
    w.write writer (.error e) = w := by
  rw [write, h]
  exact w.commitRestream_failed publish e

theorem Store.write_mutate_failed {writer : Writer}
    {change : AppSettings → Fallible (Unit × Bool × AppSettings)}
    (h : writer.style = .mutate change) (w : Store) (e : AppError) :
    w.write writer (.error e) = w ↔
      ∀ value next, change w.memory = .ok (value, true, next) → next = w.memory := by
  rw [write, h]
  exact (w.mutateThenSave_failed change e).2

theorem Store.write_failed_disk (w : Store) (writer : Writer) (e : AppError) :
    (w.write writer (.error e)).disk = w.disk := by
  cases hs : writer.style with
  | transaction change => rw [write_transaction_failed hs]
  | commit publish => rw [write_commit_failed hs]
  | mutate change =>
    rw [write, hs]
    exact (w.mutateThenSave_failed change e).1

section Failed

open AppSettings

variable {s : AppSettings}

/-- Whether a change that is made has nothing to make. -/
theorem changed_iff {τ : Type} {r : τ} {made : AppSettings} :
    (∀ value next, (.ok (r, true, made) : Fallible (τ × Bool × AppSettings)) =
      .ok (value, true, next) → next = s) ↔ made = s := by
  simp

theorem zoom_unchanged {ip : String} {percent : ℤ} :
    { s with zoomPositions := s.zoomPositions.insert ip (clampZoom percent) } = s ↔
      s.zoomPositions.lookup ip = some (clampZoom percent) := by
  rw [← FiniteMap.insert_eq_self]
  exact ⟨congrArg zoomPositions, fun h => by rw [h]⟩

theorem audio_unchanged {muted : Bool} :
    { s with stream := { s.stream with audioMuted := muted } } = s ↔
      s.stream.audioMuted = muted := by
  constructor
  · intro h
    rw [← h]
  · rintro rfl
    rfl

theorem manualNodes_unchanged {nodes : List ManualNode} :
    { s with manualNodes := nodes } = s ↔ nodes = s.manualNodes :=
  ⟨congrArg manualNodes, fun h => by rw [h]⟩

theorem repin_eq_self {node existing : ManualNode} :
    node.repin existing = existing ↔ existing.aliasName = node.aliasName ∧
      (existing.expectedMac.isSome ∨ node.expectedMac = none) := by
  obtain ⟨mac, ip, name⟩ := existing
  cases mac with
  | none => simp [ManualNode.repin, eq_comm, and_comm]
  | some mac => simp [ManualNode.repin, eq_comm]

theorem addManualNode_failed {node : ManualNode} :
    (∀ value next, s.addManualNode node = .ok (value, true, next) → next = s) ↔
      (Writer.addManualNode node).Harmless s := by
  unfold addManualNode
  split
  · next existing hfound =>
    split
    · next hr => simp [Writer.Harmless, hfound, hr]
    · next hr =>
      rw [changed_iff, manualNodes_unchanged, updateFirst_eq_self]
      simp [Writer.Harmless, hfound, hr, repin_eq_self]
  · next hnone =>
    rw [changed_iff, manualNodes_unchanged]
    simp [Writer.Harmless, hnone]

theorem updateManualNodeAlias_failed {key name : String} :
    (∀ value next, silent (updateManualNodeAlias key name) s = .ok (value, true, next) →
      next = s) ↔ (Writer.updateManualNodeAlias key name).Harmless s := by
  unfold silent updateManualNodeAlias
  dsimp only
  split
  · next node hfound =>
    split
    · next hne =>
      simp only [Except.map, changed_iff, manualNodes_unchanged, updateFirst_eq_self]
      simp only [Writer.Harmless, hfound, Option.some.injEq, forall_eq']
      refine ⟨fun h => congrArg (·.aliasName) h.symm, fun h => absurd h hne⟩
    · next he => simp_all [Writer.Harmless, Except.map]
  · next hnone => simp [Writer.Harmless, hnone, Except.map]

theorem failed_write_iff (w : Store) (writer : Writer) (e : AppError) :
    w.write writer (.error e) = w ↔ writer.Harmless w.memory := by
  cases writer with
  | updateZoomPosition ip percent =>
    rw [Store.write_mutate_failed rfl, updateZoomPosition, changed_iff]
    exact zoom_unchanged
  | updateCredentials c =>
    rw [Store.write_mutate_failed rfl, updateCredentials, changed_iff]
    exact ⟨fun h => congrArg credentials h.symm, fun h => by rw [← h]⟩
  | setAudioMuted muted =>
    rw [Store.write_mutate_failed rfl, setAudioMuted, changed_iff]
    exact audio_unchanged
  | addManualNode node =>
    rw [Store.write_mutate_failed rfl]
    exact addManualNode_failed
  | updateManualNodeAlias key name =>
    rw [Store.write_mutate_failed rfl]
    exact updateManualNodeAlias_failed
  | clearManualNodes =>
    rw [Store.write_mutate_failed rfl, clearManualNodes, changed_iff, manualNodes_unchanged]
    exact eq_comm
  | commitRestreamSettings | commitRestreamProtocol =>
    exact iff_of_true (Store.write_commit_failed rfl w e) trivial
  | _ => exact iff_of_true (Store.write_transaction_failed rfl w e) trivial

/-- A failed save never touches the file, and leaves memory as it was exactly where it is
harmless. -/
theorem failed_save_unchanged (w : Store) (writer : Writer) (e : AppError) :
    (w.write writer (.error e)).disk = w.disk ∧
      ((w.write writer (.error e)).memory = w.memory ↔ writer.Harmless w.memory) := by
  have hdisk := w.write_failed_disk writer e
  refine ⟨hdisk, ?_⟩
  rw [← failed_write_iff w writer e, Store.ext_iff]
  exact ⟨fun h => ⟨h, hdisk⟩, And.left⟩

/-- A zoom position that could not be saved is read back until the restart that loses it. -/
theorem failed_zoom_save_kept_in_memory :
    let w : Store := ⟨.fresh "0123456789abcdef", .fresh "0123456789abcdef"⟩
    let after := w.write (.updateZoomPosition "192.168.5.20" 40) (.error (.config "disk full"))
    after.memory.zoomPositions.lookup "192.168.5.20" = some 40 ∧
      after.disk.zoomPositions.lookup "192.168.5.20" = none ∧ after.memory ≠ w.memory := by
  decide +kernel

end Failed

end PocketStream
