import PocketStream.Config.Persistence
import PocketStream.Config.Writers

/-! # The writers of the re-stream settings

Four writers own the camera stream, the two output sections, the output selector
and the identities inside the output sections. The check is of the whole settings
value. The migration of identities does not run it, but the save does, and what
is not saved is not published.
-/

namespace PocketStream

/-! ### A program start -/

/-- `hex::encode` -/
def hexEncode : List UInt8 → String
  | [] => ""
  | b :: rest => hexPair b ++ hexEncode rest

/-- The access token of eight random bytes. -/
def generateToken (random : { b : List UInt8 // b.length = 8 }) : String := hexEncode random.val

/-- The settings `load_or_default` publishes: those of the file, if there is one and it can be
read, or the defaults. -/
def loadOrDefault (crypto : Crypto) (toml : Toml) (file : Option String)
    (key : Option (List UInt8)) (random : { b : List UInt8 // b.length = 8 }) (now : String) :
    AppSettings :=
  let parsed := file.bind fun content => (parseSettings crypto toml content key).settings
  (parsed.getD (.fresh (generateToken random))).align now

def AppSettings.Valid (s : AppSettings) : Prop := validateProspectiveSettings s = .ok s

instance : DecidablePred AppSettings.Valid :=
  fun s => inferInstanceAs (Decidable (validateProspectiveSettings s = .ok s))

theorem AppSettings.Valid.congr {s t : AppSettings} (h : s.Valid)
    (hprotocol : t.stream.protocol = s.stream.protocol)
    (hport : t.stream.udpPort = s.stream.udpPort) (hrtsp : t.rtspServer = s.rtspServer)
    (hsrt : t.srtServer = s.srtServer) : t.Valid := by
  have hok := validateProspectiveSettings_congr hprotocol hport hrtsp hsrt
  rw [show validateProspectiveSettings s = .ok s from h] at hok
  unfold Valid
  cases ht : validateProspectiveSettings t with
  | error e =>
    rw [ht] at hok
    cases hok
  | ok checked => rw [validateProspectiveSettings_ok ht]

/-- The output port is free of the camera input, and each identity is a GUID of a named
interface. -/
structure AppSettings.Unambiguous (s : AppSettings) : Prop where
  port : s.stream.protocol = .udp → s.stream.udpPort ≠ s.srtServer.port
  rtsp : ∀ id, s.rtspServer.bindInterfaceId = some id →
    s.rtspServer.bindInterface ≠ "" ∧ isGuid id = true
  srt : ∀ id, s.srtServer.bindInterfaceId = some id →
    s.srtServer.bindInterface ≠ "" ∧ isGuid id = true

theorem validateBindIdentity_ok {iface id : String}
    (h : validateBindIdentity iface (some id) = .ok ()) : iface ≠ "" ∧ isGuid id = true := by
  unfold validateBindIdentity at h
  dsimp only at h
  split at h
  · cases h
  · next hgood => simpa [String.isEmpty_iff] using hgood

theorem AppSettings.Valid.unambiguous {s : AppSettings} (h : s.Valid) : s.Unambiguous := by
  have hn := (validateProspectiveSettings_iff.mp h).2
  simp only [normalizeRestreamServers, Fallible.bind_eq_ok] at hn
  obtain ⟨_, -, _, -, srtPort, -, _, -, _, -, _, -, ⟨⟩, hrtsp, ⟨⟩, hsrt, hn⟩ := hn
  split at hn
  · cases hn
  · next hclash =>
    have hport := (Prod.mk.inj (Except.ok.inj hn)).2
    refine ⟨fun hudp heq => hclash ⟨hudp, ?_⟩, fun id hid => ?_, fun id hid => ?_⟩
    · rw [heq, ← hport]
    · exact validateBindIdentity_ok (hid ▸ hrtsp)
    · exact validateBindIdentity_ok (hid ▸ hsrt)

theorem bytes_append (a b : String) : bytes (a ++ b) = bytes a ++ bytes b := by
  simp [bytes]

theorem bytes_hexPair (n : UInt8) : (bytes (hexPair n)).length = 2 ∧
    (bytes (hexPair n)).all (fun b => isAsciiDigit b || (0x61 ≤ b && b ≤ 0x66)) = true := by
  have hall : ∀ k : Fin 256, (bytes (hexPair (UInt8.ofNat k.val))).length = 2 ∧
      (bytes (hexPair (UInt8.ofNat k.val))).all
        (fun b => isAsciiDigit b || (0x61 ≤ b && b ≤ 0x66)) = true := by
    decide +kernel
  have hn := hall ⟨n.toNat, n.toNat_lt⟩
  rwa [UInt8.ofNat_toNat] at hn

theorem bytes_hexEncode (b : List UInt8) : (bytes (hexEncode b)).length = 2 * b.length ∧
    (bytes (hexEncode b)).all (fun b => isAsciiDigit b || (0x61 ≤ b && b ≤ 0x66)) = true := by
  induction b with
  | nil => decide
  | cons n b ih =>
    obtain ⟨hlength, hall⟩ := ih
    obtain ⟨hlength', hall'⟩ := bytes_hexPair n
    rw [hexEncode, bytes_append, List.length_append, List.all_append, hall, hall']
    constructor
    · simp [hlength, hlength']
      omega
    · rfl

theorem validateRtspToken_generateToken (random : { b : List UInt8 // b.length = 8 }) :
    validateRtspToken (generateToken random) = .ok () := by
  obtain ⟨hlength, hall⟩ := bytes_hexEncode random.val
  rw [random.property] at hlength
  exact if_pos ⟨hlength, hall⟩

theorem valid_fresh (random : { b : List UInt8 // b.length = 8 }) :
    (AppSettings.fresh (generateToken random)).Valid := by
  refine validateProspectiveSettings_iff.mpr ⟨rfl, ?_⟩
  have htoken := validateRtspToken_generateToken random
  have hstreamId : validateSrtStreamId "" = .ok () := by decide
  simp [normalizeRestreamServers, AppSettings.fresh, RtspServerConfig.widen, SrtServerConfig.widen,
    htoken, hstreamId, narrowPort, narrowLatency, validateSrtPassphrase, validateBindIdentity, bind,
    Except.bind, pure, Except.pure]

theorem valid_loadOrDefault (crypto : Crypto) (toml : Toml) (file : Option String)
    (key : Option (List UInt8)) (random : { b : List UInt8 // b.length = 8 }) (now : String) :
    (loadOrDefault crypto toml file key random now).Valid := by
  have halign : ∀ s : AppSettings, s.Valid → (s.align now).Valid :=
    fun s h => h.congr rfl rfl rfl rfl
  unfold loadOrDefault
  apply halign
  cases hparsed : file.bind fun content => (parseSettings crypto toml content key).settings with
  | none => exact valid_fresh random
  | some s =>
    obtain ⟨content, -, hs⟩ := Option.bind_eq_some_iff.mp hparsed
    unfold parseSettings at hs
    split at hs
    · next hread =>
      obtain rfl := Option.some.inj hs
      obtain ⟨persisted, -, hruntime⟩ := Fallible.bind_eq_ok.mp hread
      simp only [runtimeSettingsFromPersisted, Fallible.bind_eq_ok] at hruntime
      obtain ⟨_, -, hchecked⟩ := hruntime
      have heq := validateProspectiveSettings_ok hchecked
      unfold AppSettings.Valid
      rw [heq] at hchecked ⊢
      exact hchecked
    · cases hs

/-! ### The writers -/

inductive RestreamWriter where
  | updateStream (stream : StreamConfig)
  | commitRestreamSettings (rtspServer : RtspServerConfig) (srtServer : SrtServerConfig)
  | commitRestreamProtocol (protocol : RestreamProtocol)
  | migrateBindIds (interfaces : List BindInterface)

/-- The fields that the writers own; an output section has its identity apart. -/
inductive RestreamField where
  | stream
  | restreamProtocol
  | rtspServer
  | rtspBindInterfaceId
  | srtServer
  | srtBindInterfaceId
  | bindIdentityMigrationComplete
  deriving DecidableEq

namespace RestreamWriter

def fields : RestreamWriter → List RestreamField
  | updateStream _ => [.stream]
  | commitRestreamSettings _ _ =>
    [.rtspServer, .rtspBindInterfaceId, .srtServer, .srtBindInterfaceId]
  | commitRestreamProtocol _ => [.restreamProtocol]
  | migrateBindIds _ => [.rtspBindInterfaceId, .srtBindInterfaceId, .bindIdentityMigrationComplete]

/-- Nothing but the fields of the writer differs. -/
def Owns (s s' : AppSettings) : RestreamWriter → Prop
  | updateStream _ => s' = { s with stream := s'.stream }
  | commitRestreamSettings _ _ =>
    s' = { s with rtspServer := s'.rtspServer, srtServer := s'.srtServer }
  | commitRestreamProtocol _ => s' = { s with restreamProtocol := s'.restreamProtocol }
  | migrateBindIds _ => s' = { s with
      bindIdentityMigrationComplete := s'.bindIdentityMigrationComplete
      rtspServer := { s.rtspServer with bindInterfaceId := s'.rtspServer.bindInterfaceId }
      srtServer := { s.srtServer with bindInterfaceId := s'.srtServer.bindInterfaceId } }

def perform {m : Type → Type} [Monad m] (settings : AppSettings)
    (persist : AppSettings → m (Fallible Unit)) : RestreamWriter → m (Fallible Unit × AppSettings)
  | updateStream stream => changeSettingsWith settings (AppSettings.updateStream stream) persist
  | commitRestreamSettings rtspServer srtServer =>
    (fun (result, memory) => (result.map fun _ => (), memory)) <$>
      commitRestreamWith settings ({ · with rtspServer, srtServer }) persist
  | commitRestreamProtocol protocol =>
    (fun (result, memory) => (result.map fun _ => (), memory)) <$>
      commitRestreamWith settings ({ · with restreamProtocol := protocol }) persist
  | migrateBindIds interfaces =>
    changeSettingsIfWith settings (AppSettings.migrateBindIds interfaces) persist

/-- The settings that the writer leaves when it succeeds. -/
def target (s : AppSettings) : RestreamWriter → AppSettings
  | updateStream stream => { s with stream }
  | commitRestreamSettings rtspServer srtServer => { s with rtspServer, srtServer }
  | commitRestreamProtocol protocol => { s with restreamProtocol := protocol }
  | migrateBindIds interfaces =>
    if s.bindIdentityMigrationComplete then s
    else { s with
      bindIdentityMigrationComplete := true
      rtspServer := { s.rtspServer with
        bindInterfaceId :=
          migrateBindId interfaces s.rtspServer.bindInterface s.rtspServer.bindInterfaceId }
      srtServer := { s.srtServer with
        bindInterfaceId :=
          migrateBindId interfaces s.srtServer.bindInterface s.srtServer.bindInterfaceId } }

/-- The migration runs once. -/
def Done (s : AppSettings) : RestreamWriter → Prop
  | migrateBindIds _ => s.bindIdentityMigrationComplete = true
  | _ => False

variable {a b : RestreamWriter} {s : AppSettings}

theorem Done.target (h : a.Done s) : a.target s = s := by
  cases a with
  | updateStream | commitRestreamSettings | commitRestreamProtocol => cases h
  | migrateBindIds interfaces => exact if_pos h

theorem owns_target (a : RestreamWriter) (s : AppSettings) : a.Owns s (a.target s) := by
  cases a with
  | updateStream | commitRestreamSettings | commitRestreamProtocol => rfl
  | migrateBindIds interfaces =>
    simp only [Owns, target]
    split <;> rfl

/-- Writers of different fields may come in either order. -/
theorem target_comm (h : List.Disjoint a.fields b.fields) (s : AppSettings) :
    b.target (a.target s) = a.target (b.target s) := by
  cases a <;> cases b <;> first
    | rfl
    | (simp [fields] at h; done)
    | cases hc : s.bindIdentityMigrationComplete <;> simp [target, hc]

end RestreamWriter

/-- A call, with the key that its save reads, the nonces it draws and how the write ends. -/
structure RestreamCall where
  writer : RestreamWriter
  key : Fallible { k : List UInt8 // k.length = 32 }
  nonces : Nonces
  written : Fallible Unit

/-- How the call ends, with the settings in memory and the file after it. -/
def RestreamCall.perform (crypto : Crypto) (toml : Toml) (state : AppSettings × String)
    (c : RestreamCall) : Fallible Unit × AppSettings × String :=
  let ((result, memory), file) :=
    (c.writer.perform state.1 (saveToDisk crypto toml c.key c.nonces c.written)).run state.2
  (result, memory, file)

def runRestreamCalls (crypto : Crypto) (toml : Toml) (state : AppSettings × String)
    (calls : List RestreamCall) : AppSettings × String :=
  calls.foldl (fun state c => (c.perform crypto toml state).2) state

section Run

variable {crypto : Crypto} {toml : Toml} {s : AppSettings} {file file' : String}
  {state state' : AppSettings × String} {c : RestreamCall}

theorem saveToDisk_ok {key : Fallible { k : List UInt8 // k.length = 32 }} {nonces : Nonces}
    {written : Fallible Unit}
    (h : saveToDisk crypto toml key nonces written s file = (.ok (), file')) :
    s.Valid ∧ ∃ k, key = .ok k ∧
      serializeSettingsWithSrtEncryptor crypto toml s k.val
        (encryptStringChecked crypto · · nonces.passphrase) nonces = .ok file' := by
  unfold saveToDisk at h
  dsimp only at h
  split at h
  · next content hcontent =>
    obtain ⟨-, rfl⟩ := Prod.mk.inj h
    obtain ⟨k, hkey, hserialized⟩ := Fallible.bind_eq_ok.mp hcontent
    refine ⟨?_, k, hkey, hserialized⟩
    simp only [serializeSettingsWithSrtEncryptor, persistedSettingsWithSrtEncryptor,
      Fallible.bind_eq_ok] at hserialized
    obtain ⟨_, ⟨checked, hchecked, -⟩, -⟩ := hserialized
    have heq := validateProspectiveSettings_ok hchecked
    unfold AppSettings.Valid
    rwa [heq] at hchecked
  · cases (Prod.mk.inj h).1
  · cases (Prod.mk.inj h).1

theorem saveToDisk_error {key : Fallible { k : List UInt8 // k.length = 32 }} {nonces : Nonces}
    {written : Fallible Unit} {e : AppError}
    (h : saveToDisk crypto toml key nonces written s file = (.error e, file')) : file' = file := by
  unfold saveToDisk at h
  dsimp only at h
  split at h
  · cases (Prod.mk.inj h).1
  · exact (Prod.mk.inj h).2.symm
  · exact (Prod.mk.inj h).2.symm

section Persist

variable {τ : Type} {memory next : AppSettings} {persist : AppSettings → StateM String (Fallible Unit)}

theorem changeSettingsIfWith_run {change : AppSettings → Fallible (τ × Bool × AppSettings)}
    {result : τ} (hc : change memory = .ok (result, true, next)) :
    (changeSettingsIfWith memory change persist).run file =
      match (persist next).run file with
      | (.ok (), file') => ((.ok result, next), file')
      | (.error e, file') => ((.error e, memory), file') := by
  unfold changeSettingsIfWith
  rw [hc]
  rcases hp : (persist next).run file with ⟨_ | _, file'⟩ <;>
    simp only [if_true, StateT.run_bind, hp] <;> rfl

theorem commitRestreamWith_run {publish : AppSettings → AppSettings}
    (hv : (publish memory).Valid) :
    (commitRestreamWith memory publish persist).run file =
      match (persist (publish memory)).run file with
      | (.ok (), file') => ((.ok (publish memory), publish memory), file')
      | (.error e, file') => ((.error e, memory), file') := by
  unfold commitRestreamWith
  rw [show validateProspectiveSettings (publish memory) = .ok (publish memory) from hv]
  rcases hp : (persist (publish memory)).run file with ⟨_ | _, file'⟩ <;>
    simp only [StateT.run_bind, hp] <;> rfl

end Persist

/-- A call that comes to its save. -/
def RestreamCall.Saves (crypto : Crypto) (toml : Toml) (state : AppSettings × String)
    (c : RestreamCall) : Prop :=
  c.perform crypto toml state =
    match saveToDisk crypto toml c.key c.nonces c.written (c.writer.target state.1) state.2 with
    | (.ok (), file') => (.ok (), c.writer.target state.1, file')
    | (.error e, file') => (.error e, state.1, file')

theorem RestreamCall.saves_commit (publish : AppSettings → AppSettings)
    (hperform : ∀ persist : AppSettings → StateM String (Fallible Unit),
      c.writer.perform state.1 persist =
        (fun (result, memory) => (result.map fun _ => (), memory)) <$>
          commitRestreamWith state.1 publish persist)
    (htarget : c.writer.target state.1 = publish state.1) :
    (∃ e, c.perform crypto toml state = (.error e, state)) ∨ c.Saves crypto toml state := by
  unfold Saves perform
  rw [hperform, htarget, StateT.run_map]
  cases hv : validateProspectiveSettings (publish state.1) with
  | error e =>
    left
    refine ⟨e, ?_⟩
    unfold commitRestreamWith
    rw [hv]
    rfl
  | ok checked =>
    right
    have heq := validateProspectiveSettings_ok hv
    rw [heq] at hv
    rw [commitRestreamWith_run hv]
    rcases hp : saveToDisk crypto toml c.key c.nonces c.written (publish state.1) state.2 with
      ⟨_ | _, file'⟩ <;>
    · simp only [StateT.run, hp]
      rfl

theorem RestreamCall.saves_change (change : AppSettings → Fallible (Unit × Bool × AppSettings))
    (hperform : ∀ persist : AppSettings → StateM String (Fallible Unit),
      c.writer.perform state.1 persist = changeSettingsIfWith state.1 change persist)
    (hkept : ∀ next, change state.1 = .ok ((), false, next) → c.writer.Done state.1)
    (hmade : ∀ next, change state.1 = .ok ((), true, next) → c.writer.target state.1 = next) :
    (∃ e, c.perform crypto toml state = (.error e, state)) ∨
    (c.writer.Done state.1 ∧ c.perform crypto toml state = (.ok (), state)) ∨
    c.Saves crypto toml state := by
  unfold Saves perform
  rw [hperform]
  cases hc : change state.1 with
  | error e =>
    left
    refine ⟨e, ?_⟩
    unfold changeSettingsIfWith
    rw [hc]
    rfl
  | ok r =>
    obtain ⟨⟨⟩, changed, next⟩ := r
    right
    cases changed with
    | false =>
      left
      refine ⟨hkept next hc, ?_⟩
      unfold changeSettingsIfWith
      rw [hc]
      rfl
    | true =>
      right
      rw [hmade next hc, changeSettingsIfWith_run hc]
      rcases hp : saveToDisk crypto toml c.key c.nonces c.written next state.2 with
        ⟨_ | _, file'⟩ <;>
      · simp only [StateT.run, hp]

/-- What a call can do: fail, find nothing to do, or come to its save. -/
theorem RestreamCall.perform_cases (crypto : Crypto) (toml : Toml) (state : AppSettings × String)
    (c : RestreamCall) :
    (∃ e, c.perform crypto toml state = (.error e, state)) ∨
    (c.writer.Done state.1 ∧ c.perform crypto toml state = (.ok (), state)) ∨
    c.Saves crypto toml state := by
  obtain ⟨writer, key, nonces, written⟩ := c
  cases writer with
  | updateStream stream =>
    let change := fun s : AppSettings =>
      (s.updateStream stream).map fun (value, next) => (value, true, next)
    have hupdate {changed : Bool} {next : AppSettings}
        (h : change state.1 = .ok ((), changed, next)) :
        changed = true ∧ { state.1 with stream } = next := by
      dsimp only [change] at h
      cases hu : state.1.updateStream stream with
      | error e =>
        rw [hu] at h
        cases h
      | ok r =>
        rw [hu] at h
        simp only [AppSettings.updateStream, Fallible.bind_eq_ok] at hu
        obtain ⟨_, -, hu⟩ := hu
        cases hu
        cases h
        exact ⟨rfl, rfl⟩
    refine saves_change change (fun _ => rfl) (fun next h => ?_) fun next h => (hupdate h).2
    cases (hupdate h).1
  | commitRestreamSettings rtspServer srtServer =>
    exact (saves_commit ({ · with rtspServer, srtServer }) (fun _ => rfl) rfl).imp_right .inr
  | commitRestreamProtocol protocol =>
    exact (saves_commit ({ · with restreamProtocol := protocol }) (fun _ => rfl) rfl).imp_right .inr
  | migrateBindIds interfaces =>
    have hmigrate {changed : Bool} {next : AppSettings}
        (h : state.1.migrateBindIds interfaces = .ok ((), changed, next)) :
        (changed = false → state.1.bindIdentityMigrationComplete = true) ∧
          (RestreamWriter.migrateBindIds interfaces).target state.1 = next := by
      unfold AppSettings.migrateBindIds at h
      split at h
      · next hcomplete =>
        cases h
        exact ⟨fun _ => hcomplete, if_pos hcomplete⟩
      · next hcomplete =>
        cases h
        exact ⟨nofun, if_neg hcomplete⟩
    exact saves_change (AppSettings.migrateBindIds interfaces) (fun _ => rfl)
      (fun next h => (hmigrate h).1 rfl) fun next h => (hmigrate h).2

/-- A call that succeeds leaves what its writer aims at, and the file holds it if it was saved. -/
theorem RestreamCall.perform_ok (h : c.perform crypto toml state = (.ok (), state')) :
    state'.1 = c.writer.target state.1 ∧
      (c.writer.Done state.1 ∧ state' = state ∨ state'.1.Valid ∧ ∃ k, c.key = .ok k ∧
        serializeSettingsWithSrtEncryptor crypto toml state'.1 k.val
          (encryptStringChecked crypto · · c.nonces.passphrase) c.nonces = .ok state'.2) := by
  obtain ⟨e, he⟩ | ⟨hdone, he⟩ | hs := c.perform_cases crypto toml state
  · rw [h] at he
    cases he
  · rw [h] at he
    cases he
    exact ⟨hdone.target.symm, .inl ⟨hdone, rfl⟩⟩
  · rw [Saves, h] at hs
    split at hs
    · next file' hsave =>
      cases hs
      exact ⟨rfl, .inr (saveToDisk_ok hsave)⟩
    · cases hs

/-- A call that fails changes nothing. -/
theorem RestreamCall.perform_error {e : AppError}
    (h : c.perform crypto toml state = (.error e, state')) : state' = state := by
  obtain ⟨e', he⟩ | ⟨-, he⟩ | hs := c.perform_cases crypto toml state
  · rw [h] at he
    exact (Prod.mk.inj he).2
  · rw [h] at he
    cases he
  · rw [Saves, h] at hs
    split at hs
    · cases hs
    · next e' file' hsave =>
      rw [saveToDisk_error hsave] at hs
      exact (Prod.mk.inj hs).2

theorem RestreamCall.perform_valid (h : state.1.Valid) :
    (c.perform crypto toml state).2.1.Valid := by
  rcases hp : c.perform crypto toml state with ⟨_ | _, state'⟩
  · rw [perform_error hp]
    exact h
  · obtain ⟨-, ⟨-, heq⟩ | ⟨hvalid, -⟩⟩ := perform_ok hp
    · rw [heq]
      exact h
    · exact hvalid

theorem runRestreamCalls_valid (calls : List RestreamCall) (h : state.1.Valid) :
    (runRestreamCalls crypto toml state calls).1.Valid := by
  induction calls generalizing state with
  | nil => exact h
  | cons c calls ih => exact ih (c.perform_valid h)

/-- A migration to identities that are none is refused by the save, as any change is that would
not pass the check. -/
theorem RestreamCall.refused (hdone : ¬ c.writer.Done state.1)
    (hinvalid : ¬ (c.writer.target state.1).Valid) :
    ∃ e, c.perform crypto toml state = (.error e, state) := by
  rcases hp : c.perform crypto toml state with ⟨e | _, state'⟩
  · rw [perform_error hp]
    exact ⟨e, rfl⟩
  · obtain ⟨htarget, ⟨hd, -⟩ | ⟨hvalid, -⟩⟩ := perform_ok hp
    · exact absurd hd hdone
    · exact absurd (htarget ▸ hvalid) hinvalid

/-- Two calls that succeed in both orders. -/
theorem RestreamCall.perform_comm {a b a' b' : RestreamCall}
    {sa sb sab sba : AppSettings × String} (ha : a'.writer = a.writer) (hb : b'.writer = b.writer)
    (hfields : List.Disjoint a.writer.fields b.writer.fields)
    (hsa : a.perform crypto toml state = (.ok (), sa))
    (hsab : b.perform crypto toml sa = (.ok (), sab))
    (hsb : b'.perform crypto toml state = (.ok (), sb))
    (hsba : a'.perform crypto toml sb = (.ok (), sba)) : sab.1 = sba.1 := by
  rw [(perform_ok hsab).1, (perform_ok hsa).1, (perform_ok hsba).1, (perform_ok hsb).1, ha, hb]
  exact RestreamWriter.target_comm hfields state.1

end Run

/-- After any calls from any start the settings pass the check, and so do any that differ in what
the check does not read; a call that succeeds changes the fields of its writer and the file holds
what it leaves in memory; and calls of writers with different fields may come in either order. -/
theorem restream_settings_always_valid (crypto : Crypto) (toml : Toml) (start : Option String)
    (key : Option (List UInt8)) (random : { b : List UInt8 // b.length = 8 }) (now file : String)
    (calls : List RestreamCall) :
    let state := runRestreamCalls crypto toml
      (loadOrDefault crypto toml start key random now, file) calls
    state.1.Valid ∧ state.1.Unambiguous ∧
    (∀ t : AppSettings, t.stream.protocol = state.1.stream.protocol →
      t.stream.udpPort = state.1.stream.udpPort → t.rtspServer = state.1.rtspServer →
      t.srtServer = state.1.srtServer → t.Valid) ∧
    (∀ (c : RestreamCall) state', c.perform crypto toml state = (.ok (), state') →
      c.writer.Owns state.1 state'.1 ∧
      (c.writer.Done state.1 ∧ state' = state ∨ ∃ k, c.key = .ok k ∧
        serializeSettingsWithSrtEncryptor crypto toml state'.1 k.val
          (encryptStringChecked crypto · · c.nonces.passphrase) c.nonces = .ok state'.2)) ∧
    ∀ (a b a' b' : RestreamCall) sa sb sab sba, a'.writer = a.writer → b'.writer = b.writer →
      List.Disjoint a.writer.fields b.writer.fields →
      a.perform crypto toml state = (.ok (), sa) → b.perform crypto toml sa = (.ok (), sab) →
      b'.perform crypto toml state = (.ok (), sb) → a'.perform crypto toml sb = (.ok (), sba) →
      sab.1 = sba.1 := by
  intro state
  have hvalid : state.1.Valid :=
    runRestreamCalls_valid calls (valid_loadOrDefault crypto toml start key random now)
  refine ⟨hvalid, hvalid.unambiguous, fun t => hvalid.congr, fun c state' h => ?_, ?_⟩
  · obtain ⟨htarget, hsaved⟩ := RestreamCall.perform_ok h
    constructor
    · rw [htarget]
      exact c.writer.owns_target state.1
    · exact hsaved.imp_right And.right
  · rintro a b a' b' sa sb sab sba ha hb hfields hsa hsab hsb hsba
    exact RestreamCall.perform_comm ha hb hfields hsa hsab hsb hsba

end PocketStream
