import PocketStream.Config.Store

/-! # The settings document

Settings are saved with their secrets sealed and loaded with whatever key there
is. A camera credential that does not open is cleared. An SRT passphrase that
does not open is kept as the ciphertext it is, since an empty passphrase would
mean an unencrypted output.
-/

namespace PocketStream

/-- The operations of the `base64` and `aes_gcm` packages. -/
structure Crypto where
  base64Encode : List UInt8 → String
  base64Decode : String → Option (List UInt8)
  aesEncrypt (key nonce plaintext : List UInt8) : Option (List UInt8)
  aesDecrypt (key nonce ciphertext : List UInt8) : Option (List UInt8)

/-- What the program relies on: the inverses of encoding and sealing, and that the cipher is
authenticated, so what opens is what was sealed. -/
structure Crypto.Lawful (c : Crypto) : Prop where
  decode_encode : ∀ b, c.base64Decode (c.base64Encode b) = some b
  encode_nil : c.base64Encode [] = ""
  decrypt_encrypt : ∀ key nonce plaintext, key.length = 32 → ∃ ciphertext,
    c.aesEncrypt key nonce plaintext = some ciphertext ∧
      c.aesDecrypt key nonce ciphertext = some plaintext
  authentic : ∀ key key' nonce plaintext ciphertext opened,
    c.aesEncrypt key nonce plaintext = some ciphertext →
      c.aesDecrypt key' nonce ciphertext = some opened → opened = plaintext

/-- Twelve random bytes. -/
def Nonce := { b : List UInt8 // b.length = 12 }

/-- `String::from_utf8` -/
def fromUtf8 (b : List UInt8) : Option String := String.fromUTF8? ⟨b.toArray⟩

section Secrets

variable (crypto : Crypto)

def encryptStringChecked (plaintext : String) (key : List UInt8) (nonce : Nonce) :
    Fallible String :=
  if plaintext = "" then .ok ""
  else if key.length ≠ 32 then .error (.config "invalid protected-secret key length")
  else match crypto.aesEncrypt key nonce.val (bytes plaintext) with
    | none => .error (.config "protected-secret encryption failed; settings were not saved")
    | some ciphertext => .ok (crypto.base64Encode (nonce.val ++ ciphertext))

/-- The lossy wrapper of the camera credentials. -/
def encryptString (plaintext : String) (key : List UInt8) (nonce : Nonce) : String :=
  match encryptStringChecked crypto plaintext key nonce with
  | .ok ciphertext => ciphertext
  | .error _ => ""

def decryptString (encrypted : String) (key : List UInt8) : Option String :=
  if encrypted = "" then some ""
  else do
    let combined ← crypto.base64Decode encrypted
    if combined.length < 12 ∨ key.length ≠ 32 then none
    else fromUtf8 (← crypto.aesDecrypt key (combined.take 12) (combined.drop 12))

def decryptField (field : String) (key : List UInt8) : String :=
  (decryptString crypto field key).getD ""

def resolveCredentials (username password : String) (key : Option (List UInt8)) : Credentials :=
  match key.filter (·.length = 32) with
  | some key => ⟨decryptField crypto username key, decryptField crypto password key⟩
  | none => ⟨"", ""⟩

def resolveSrtPassphrase (stored : String) (key : Option (List UInt8)) : SrtPassphraseState :=
  if stored = "" then .unencrypted
  else match (key.filter (·.length = 32)).bind (decryptString crypto stored) with
    | some plaintext => .available plaintext
    | none => .unavailable stored

end Secrets

structure PersistedRtspServerConfig where
  enabled : Bool
  port : ℤ
  token : String
  bindInterface : String
  bindInterfaceId : Option String
  deriving DecidableEq

structure PersistedSrtServerConfig where
  port : ℤ
  passphrase : String
  latencyMs : ℤ
  streamId : String
  bindInterface : String
  bindInterfaceId : Option String
  deriving DecidableEq

structure PersistedAppSettings where
  bindIdentityMigrationComplete : Bool
  selectedAdapterMac : Option String
  primaryAddresses : Foundation.FiniteMap String String
  pendingAddresses : List PendingAddress
  stream : StreamConfig
  restreamProtocol : RestreamProtocol
  rtspServer : PersistedRtspServerConfig
  srtServer : PersistedSrtServerConfig
  credentials : Credentials
  adoptedSubnets : Foundation.FiniteMap String String
  adoptedMeta : Foundation.FiniteMap String AdoptedMeta
  zoomPositions : Foundation.FiniteMap String ℤ
  networkMode : NetworkMode
  manualNodes : List ManualNode
  deriving DecidableEq

/-- The nonces of one save. -/
structure Nonces where
  passphrase : Nonce
  username : Nonce
  password : Nonce

/-- The runtime value of a document around its decoded parts. -/
def PersistedAppSettings.toRuntime (p : PersistedAppSettings) (rtspServer : RtspServerConfig)
    (srtServer : SrtServerConfig) (credentials : Credentials) : AppSettings where
  bindIdentityMigrationComplete := p.bindIdentityMigrationComplete
  selectedAdapterMac := p.selectedAdapterMac
  primaryAddresses := p.primaryAddresses
  stream := p.stream
  restreamProtocol := p.restreamProtocol
  rtspServer := rtspServer
  srtServer := srtServer
  credentials := credentials
  adoptedSubnets := p.adoptedSubnets
  adoptedMeta := p.adoptedMeta
  pendingAddresses := p.pendingAddresses
  zoomPositions := p.zoomPositions
  networkMode := p.networkMode
  manualNodes := p.manualNodes

/-- The document of a runtime value around its encoded secrets. -/
def AppSettings.toPersisted (s : AppSettings) (passphrase : String) (credentials : Credentials) :
    PersistedAppSettings where
  bindIdentityMigrationComplete := s.bindIdentityMigrationComplete
  selectedAdapterMac := s.selectedAdapterMac
  primaryAddresses := s.primaryAddresses
  pendingAddresses := s.pendingAddresses
  stream := s.stream
  restreamProtocol := s.restreamProtocol
  rtspServer :=
    { enabled := s.rtspServer.enabled, port := s.rtspServer.port.toNat
      token := s.rtspServer.token, bindInterface := s.rtspServer.bindInterface
      bindInterfaceId := s.rtspServer.bindInterfaceId }
  srtServer :=
    { port := s.srtServer.port.toNat, passphrase, latencyMs := s.srtServer.latencyMs.toNat
      streamId := s.srtServer.streamId, bindInterface := s.srtServer.bindInterface
      bindInterfaceId := s.srtServer.bindInterfaceId }
  credentials := credentials
  adoptedSubnets := s.adoptedSubnets
  adoptedMeta := s.adoptedMeta
  zoomPositions := s.zoomPositions
  networkMode := s.networkMode
  manualNodes := s.manualNodes

section Documents

variable (crypto : Crypto)

def runtimeSettingsFromPersisted (p : PersistedAppSettings) (key : Option (List UInt8)) :
    Fallible AppSettings := do
  let credentials := resolveCredentials crypto p.credentials.username p.credentials.password key
  let passphrase := resolveSrtPassphrase crypto p.srtServer.passphrase key
  let (rtspServer, srtServer) ← normalizeRestreamServers p.stream p.rtspServer.enabled
    ⟨p.rtspServer.port, p.rtspServer.token, p.rtspServer.bindInterface,
      p.rtspServer.bindInterfaceId⟩
    ⟨p.srtServer.port, passphrase, p.srtServer.latencyMs, p.srtServer.streamId,
      p.srtServer.bindInterface, p.srtServer.bindInterfaceId⟩
  validateProspectiveSettings (p.toRuntime rtspServer srtServer credentials)

/-- The stored form of a passphrase; a secret never turns into the empty text. -/
def persistedPassphrase (encryptSrt : String → List UInt8 → Fallible String)
    (key : List UInt8) : SrtPassphraseState → Fallible String
  | .unencrypted => .ok ""
  | .available plaintext => do
    let encrypted ← encryptSrt plaintext key
    if encrypted = "" then
      .error (.config
        "protected SRT passphrase encryption returned no ciphertext; settings were not saved")
    else return encrypted
  | .unavailable preservedCiphertext =>
    if preservedCiphertext = "" then
      .error (.config
        "unavailable SRT passphrase has no preserved ciphertext; settings were not saved")
    else .ok preservedCiphertext

def persistedSettingsWithSrtEncryptor (settings : AppSettings) (key : List UInt8)
    (encryptSrt : String → List UInt8 → Fallible String) (nonces : Nonces) :
    Fallible PersistedAppSettings := do
  let settings ← validateProspectiveSettings settings
  let passphrase ← persistedPassphrase encryptSrt key settings.srtServer.passphrase
  return settings.toPersisted passphrase
    { username := encryptString crypto settings.credentials.username key nonces.username
      password := encryptString crypto settings.credentials.password key nonces.password }

end Documents

/-- The operations of the `toml` package at the settings document. -/
structure Toml where
  toStringPretty : PersistedAppSettings → Except String String
  fromStr : String → Except String PersistedAppSettings

/-- What was written reads back. -/
def Toml.Lawful (t : Toml) : Prop :=
  ∀ p text, t.toStringPretty p = .ok text → t.fromStr text = .ok p

/-- What reading the file leads to: the settings it holds, or a file moved aside and a notice
for the user. -/
structure Parsed where
  settings : Option AppSettings
  quarantined : Bool
  notices : List String

section Files

variable (crypto : Crypto) (toml : Toml)

def serializeSettingsWithSrtEncryptor (settings : AppSettings) (key : List UInt8)
    (encryptSrt : String → List UInt8 → Fallible String) (nonces : Nonces) : Fallible String := do
  let persisted ← persistedSettingsWithSrtEncryptor crypto settings key encryptSrt nonces
  (toml.toStringPretty persisted).mapError .config

/-- `quarantine_file_name` of the settings file. -/
def quarantineFileName : String := "config.toml.parse-error"

def parseSettings (content : String) (key : Option (List UInt8)) : Parsed :=
  match (toml.fromStr content).mapError .config >>= (runtimeSettingsFromPersisted crypto · key) with
  | .ok settings => ⟨some settings, false, []⟩
  | .error _ => ⟨none, true,
      ["Settings could not be read and were reset to defaults. The old file was preserved as " ++
        quarantineFileName ++ ", and the RTSP access token was regenerated."]⟩

/-- `save_to_disk`: the key may be unreadable and the write may fail. -/
def saveToDisk (key : Fallible { k : List UInt8 // k.length = 32 }) (nonces : Nonces)
    (written : Fallible Unit) (settings : AppSettings) : StateM String (Fallible Unit) :=
  fun file =>
    let content := do
      let key ← key
      serializeSettingsWithSrtEncryptor crypto toml settings key.val
        (encryptStringChecked crypto · · nonces.passphrase) nonces
    match content, written with
    | .ok content, .ok () => (.ok (), content)
    | .ok _, .error e => (.error e, file)
    | .error e, _ => (.error e, file)

end Files

end PocketStream
