import PocketStream.Config.Persistence

/-! # The settings file round trip

What the encoder accepts reads back under the same key. The one value that does
not come back as it was is a passphrase kept as ciphertext that this key opens:
it comes back readable.
-/

namespace PocketStream

variable {crypto : Crypto} {toml : Toml} {key : List UInt8} {nonce : Nonce}

theorem fromUtf8_bytes (s : String) : fromUtf8 (bytes s) = some s := by
  have h : (⟨(bytes s).toArray⟩ : ByteArray) = s.toByteArray := by simp [bytes]
  rw [fromUtf8, h, String.fromUTF8?, dif_pos s.isValidUTF8]
  rfl

/-- The base64 form of a nonce and a ciphertext. -/
theorem Crypto.Lawful.decode_combined (h : crypto.Lawful) (ciphertext : List UInt8) :
    crypto.base64Encode (nonce.val ++ ciphertext) ≠ "" ∧
      decryptString crypto (crypto.base64Encode (nonce.val ++ ciphertext)) key =
        if key.length = 32 then (crypto.aesDecrypt key nonce.val ciphertext).bind fromUtf8
        else none := by
  have hlen : nonce.val.length = 12 := nonce.property
  have hne : crypto.base64Encode (nonce.val ++ ciphertext) ≠ "" := by
    intro he
    rw [← h.encode_nil] at he
    have hnil := h.decode_encode (nonce.val ++ ciphertext)
    rw [he, h.decode_encode] at hnil
    have := congrArg (Option.map List.length) hnil
    simp only [Option.map_some, List.length_nil, List.length_append, hlen, Option.some.injEq] at this
    omega
  refine ⟨hne, ?_⟩
  rw [decryptString, if_neg hne, h.decode_encode]
  by_cases hkey : key.length = 32
  · simp [hkey, hlen]
  · simp [hkey]

/-- A sealed text opens under its key. -/
theorem Crypto.Lawful.opens (h : crypto.Lawful) {plaintext ciphertext : String}
    (hkey : key.length = 32)
    (henc : encryptStringChecked crypto plaintext key nonce = .ok ciphertext) :
    decryptString crypto ciphertext key = some plaintext := by
  unfold encryptStringChecked at henc
  split at henc
  · next hp =>
    cases henc
    rw [hp]
    rfl
  · rw [if_neg (not_not.mpr hkey)] at henc
    obtain ⟨sealed, hs, ho⟩ := h.decrypt_encrypt key nonce.val (bytes plaintext) hkey
    rw [hs] at henc
    cases henc
    rw [(h.decode_combined sealed).2, if_pos hkey, ho]
    exact fromUtf8_bytes plaintext

variable (nonce) in
theorem Crypto.Lawful.encrypts (h : crypto.Lawful) (hkey : key.length = 32)
    (plaintext : String) :
    ∃ ciphertext, encryptStringChecked crypto plaintext key nonce = .ok ciphertext := by
  unfold encryptStringChecked
  split
  · exact ⟨"", rfl⟩
  · obtain ⟨sealed, hs, -⟩ := h.decrypt_encrypt key nonce.val (bytes plaintext) hkey
    rw [if_neg (not_not.mpr hkey), hs]
    exact ⟨_, rfl⟩

theorem Crypto.Lawful.decryptField_encryptString (h : crypto.Lawful) (hkey : key.length = 32)
    (plaintext : String) :
    decryptField crypto (encryptString crypto plaintext key nonce) key = plaintext := by
  obtain ⟨ciphertext, henc⟩ := h.encrypts nonce hkey plaintext
  rw [decryptField, encryptString, henc]
  simp only [h.opens hkey henc, Option.getD_some]

theorem filter_key (hkey : key.length = 32) :
    (some key).filter (fun k => k.length = 32) = some key := by simp [hkey]

/-- What a passphrase is after it was stored under the key and loaded with it. -/
def SrtPassphraseState.reload (crypto : Crypto) (key : List UInt8) :
    SrtPassphraseState → SrtPassphraseState
  | unavailable ciphertext =>
    match decryptString crypto ciphertext key with
    | some plaintext => available plaintext
    | none => unavailable ciphertext
  | state => state

theorem Crypto.Lawful.resolve_persisted (h : crypto.Lawful) (hkey : key.length = 32)
    {state : SrtPassphraseState} {stored : String}
    (hp : persistedPassphrase (encryptStringChecked crypto · · nonce) key state = .ok stored) :
    resolveSrtPassphrase crypto stored (some key) = state.reload crypto key := by
  cases state with
  | unencrypted =>
    cases hp
    rfl
  | available plaintext =>
    simp only [persistedPassphrase, Fallible.bind_eq_ok] at hp
    obtain ⟨encrypted, henc, hp⟩ := hp
    split at hp
    · cases hp
    · next hne =>
      cases hp
      rw [resolveSrtPassphrase, if_neg hne, filter_key hkey, Option.bind_some,
        h.opens hkey henc]
      rfl
  | unavailable ciphertext =>
    simp only [persistedPassphrase] at hp
    split at hp
    · cases hp
    · next hne =>
      cases hp
      rw [resolveSrtPassphrase, if_neg hne, filter_key hkey, Option.bind_some]
      rfl

/-- The settings with the passphrase as it is loaded. -/
def AppSettings.reload (crypto : Crypto) (key : List UInt8) (s : AppSettings) : AppSettings :=
  { s with
    srtServer := { s.srtServer with passphrase := s.srtServer.passphrase.reload crypto key } }

section Documents

variable {nonces : Nonces} {settings : AppSettings} {persisted : PersistedAppSettings}

theorem persisted_eq {encryptSrt : String → List UInt8 → Fallible String}
    (hp : persistedSettingsWithSrtEncryptor crypto settings key encryptSrt nonces =
      .ok persisted) :
    validateProspectiveSettings settings = .ok settings ∧ ∃ stored,
      persistedPassphrase encryptSrt key settings.srtServer.passphrase = .ok stored ∧
      persisted = settings.toPersisted stored
        ⟨encryptString crypto settings.credentials.username key nonces.username,
          encryptString crypto settings.credentials.password key nonces.password⟩ := by
  simp only [persistedSettingsWithSrtEncryptor, Fallible.bind_eq_ok] at hp
  obtain ⟨checked, hv, stored, hs, hp⟩ := hp
  obtain rfl := validateProspectiveSettings_ok hv
  cases hp
  exact ⟨hv, stored, hs, rfl⟩

/-- Reading the document of a settings value checks that value again. -/
theorem runtime_toPersisted {stored : String} {sealed : Credentials} {key : Option (List UInt8)} :
    runtimeSettingsFromPersisted crypto (settings.toPersisted stored sealed) key =
      validateProspectiveSettings { settings with
        credentials := resolveCredentials crypto sealed.username sealed.password key
        srtServer := { settings.srtServer with
          passphrase := resolveSrtPassphrase crypto stored key } } := by
  let srt := { settings.srtServer with passphrase := resolveSrtPassphrase crypto stored key }
  change (do
    let servers ← normalizeRestreamServers settings.stream
      settings.rtspServer.enabled settings.rtspServer.widen srt.widen
    validateProspectiveSettings { settings with
      credentials := resolveCredentials crypto sealed.username sealed.password key
      rtspServer := servers.1, srtServer := servers.2 }) = validateProspectiveSettings { settings with
        credentials := resolveCredentials crypto sealed.username sealed.password key
        srtServer := srt }
  cases hn : normalizeRestreamServers settings.stream settings.rtspServer.enabled
      settings.rtspServer.widen srt.widen with
  | error e =>
    simp only [validateProspectiveSettings, bind, Except.bind, hn]
  | ok servers =>
    obtain ⟨rtspServer, srtServer⟩ := servers
    obtain ⟨he, hr, hs⟩ := normalizeRestreamServers_ok hn
    rw [RtspServerConfig.eq_of_widen he hr, SrtServerConfig.eq_of_widen hs]
    rfl

theorem Crypto.Lawful.resolveCredentials_encrypted (h : crypto.Lawful) (hkey : key.length = 32)
    (c : Credentials) (nonces : Nonces) :
    resolveCredentials crypto (encryptString crypto c.username key nonces.username)
      (encryptString crypto c.password key nonces.password) (some key) = c := by
  rw [resolveCredentials, filter_key hkey]
  simp only [h.decryptField_encryptString hkey]

/-- Decoding what was encoded checks the settings once more, with the passphrase as it is
loaded. -/
theorem Crypto.Lawful.runtime_of_persisted (h : crypto.Lawful) (hkey : key.length = 32)
    (hp : persistedSettingsWithSrtEncryptor crypto settings key
      (encryptStringChecked crypto · · nonces.passphrase) nonces = .ok persisted) :
    runtimeSettingsFromPersisted crypto persisted (some key) =
      validateProspectiveSettings (settings.reload crypto key) := by
  obtain ⟨-, stored, hs, rfl⟩ := persisted_eq hp
  rw [runtime_toPersisted, h.resolveCredentials_encrypted hkey, h.resolve_persisted hkey hs]
  rfl

theorem serialized_parses {text : String} {encryptSrt : String → List UInt8 → Fallible String}
    (htoml : toml.Lawful)
    (h : serializeSettingsWithSrtEncryptor crypto toml settings key encryptSrt nonces =
      .ok text) :
    ∃ persisted, persistedSettingsWithSrtEncryptor crypto settings key encryptSrt nonces =
      .ok persisted ∧ toml.fromStr text = .ok persisted := by
  simp only [serializeSettingsWithSrtEncryptor, Fallible.bind_eq_ok] at h
  obtain ⟨persisted, hp, ht⟩ := h
  refine ⟨persisted, hp, htoml persisted text ?_⟩
  cases hs : toml.toStringPretty persisted with
  | error e =>
    rw [hs] at ht
    cases ht
  | ok written =>
    rw [hs] at ht
    cases ht
    rfl

theorem parseSettings_of_runtime {text : String} {key : Option (List UInt8)}
    {loaded : AppSettings} (ht : toml.fromStr text = .ok persisted)
    (hr : runtimeSettingsFromPersisted crypto persisted key = .ok loaded) :
    parseSettings crypto toml text key = ⟨some loaded, false, []⟩ := by
  unfold parseSettings
  rw [ht]
  change (match runtimeSettingsFromPersisted crypto persisted key with
    | .ok settings => _
    | .error _ => _) = _
  rw [hr]

/-- What was accepted is read back, where the passphrase is as it was or one that is accepted. -/
theorem parseSettings_serialized {text : String} (hcrypto : crypto.Lawful) (htoml : toml.Lawful)
    (hkey : key.length = 32)
    (haccepted : serializeSettingsWithSrtEncryptor crypto toml settings key
      (encryptStringChecked crypto · · nonces.passphrase) nonces = .ok text)
    (hread : settings.srtServer.passphrase.reload crypto key = settings.srtServer.passphrase ∨
      validateSrtPassphrase (settings.srtServer.passphrase.reload crypto key) = .ok ()) :
    parseSettings crypto toml text (some key) =
      ⟨some (settings.reload crypto key), false, []⟩ := by
  obtain ⟨persisted, hp, ht⟩ := serialized_parses htoml haccepted
  have hv := (persisted_eq hp).1
  refine parseSettings_of_runtime ht ((hcrypto.runtime_of_persisted hkey hp).trans ?_)
  rcases hread with hsame | hvalid
  · rw [AppSettings.reload, hsame]
    exact hv
  · exact validateProspectiveSettings_passphrase hvalid hv

end Documents

/-! ### A closed instance -/

/-- A cipher that writes its key in front of the text. -/
def Crypto.plain : Crypto where
  base64Encode b := String.ofList (b.map fun x => Char.ofNat x.toNat)
  base64Decode s := some (s.toList.map fun ch => UInt8.ofNat ch.toNat)
  aesEncrypt key _ plaintext := if key.length = 32 then some (key ++ plaintext) else none
  aesDecrypt key _ ciphertext :=
    if key.length = 32 ∧ ciphertext.take 32 = key then some (ciphertext.drop 32) else none

theorem Crypto.plain_lawful : Crypto.plain.Lawful where
  decode_encode b := by
    have h : ∀ x : UInt8, UInt8.ofNat (Char.ofNat x.toNat).toNat = x := by
      intro x
      have : ∀ n : Fin 256, (Char.ofNat n.val).toNat = n.val := by decide +kernel
      rw [this ⟨x.toNat, x.toNat_lt⟩, UInt8.ofNat_toNat]
    simp [plain, Function.comp_def, h]
  encode_nil := rfl
  decrypt_encrypt key nonce plaintext hkey := by
    have htake : (key ++ plaintext).take 32 = key := by rw [← hkey, List.take_left]
    have hdrop : (key ++ plaintext).drop 32 = plaintext := by rw [← hkey, List.drop_left]
    refine ⟨key ++ plaintext, if_pos hkey, ?_⟩
    exact (if_pos ⟨hkey, htake⟩).trans (congrArg some hdrop)
  authentic key key' nonce plaintext ciphertext opened henc hdec := by
    simp only [plain, Option.ite_none_right_eq_some, Option.some.injEq] at henc hdec
    obtain ⟨hkey, rfl⟩ := henc
    obtain ⟨⟨-, -⟩, rfl⟩ := hdec
    rw [← hkey, List.drop_left]

/-- A serializer of the listed documents. -/
def Toml.table (documents : List (String × PersistedAppSettings)) : Toml where
  toStringPretty p := match documents.find? (·.2 = p) with
    | some d => .ok d.1
    | none => .error "unsupported document"
  fromStr text := match documents.find? (·.1 = text) with
    | some d => .ok d.2
    | none => .error "unknown document"

theorem Toml.table_lawful {documents : List (String × PersistedAppSettings)}
    (h : (documents.map Prod.fst).Nodup) : (Toml.table documents).Lawful := by
  intro p text hs
  simp only [table] at hs ⊢
  split at hs
  · next d hd =>
    cases hs
    have hmem := List.mem_of_find?_eq_some hd
    have hp : d.2 = p := by simpa using List.find?_some hd
    have hfind : documents.find? (·.1 = d.1) = some d := by
      cases hf : documents.find? (·.1 = d.1) with
      | none => exact absurd (decide_eq_true rfl) (List.find?_eq_none.mp hf d hmem)
      | some d' =>
        have hname : d'.1 = d.1 := by simpa using List.find?_some hf
        rw [List.inj_on_of_nodup_map h (List.mem_of_find?_eq_some hf) hmem hname]
    simp only [hfind, hp]
  · cases hs

def plainKey : List UInt8 := List.replicate 32 0x42

def plainNonces : Nonces :=
  ⟨⟨List.replicate 12 0, rfl⟩, ⟨List.replicate 12 1, rfl⟩, ⟨List.replicate 12 2, rfl⟩⟩

/-- The passphrase `camera-passphrase` under that key. -/
def keptCiphertext : String :=
  Crypto.plain.base64Encode (plainNonces.passphrase.val ++ (plainKey ++ bytes "camera-passphrase"))

def readableSettings : AppSettings :=
  let s := AppSettings.fresh "0123456789abcdef"
  { s with srtServer := { s.srtServer with passphrase := .available "camera-passphrase" } }

/-- The same settings, loaded while the key was unreadable. -/
def keptSettings : AppSettings :=
  { readableSettings with srtServer :=
      { readableSettings.srtServer with passphrase := .unavailable keptCiphertext } }

def keptToml : Toml := .table [("settings", keptSettings.toPersisted keptCiphertext ⟨"", ""⟩)]

end PocketStream
