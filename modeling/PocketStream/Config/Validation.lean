import PocketStream.Config.Settings

/-! # Validation of re-stream settings

One boundary for loading, starting and every writer: wide values are checked
and narrowed once. Narrow values that pass come back as they were, so the check
of a whole settings value never rewrites it.
-/

namespace PocketStream

structure RtspServerUpdate where
  port : ℤ
  token : String
  bindInterface : String
  bindInterfaceId : Option String

/-- The secret action of an update. -/
inductive SrtPassphraseUpdate where
  | keep
  | replace (value : String)
  | clear

structure SrtServerUpdate where
  port : ℤ
  passphrase : SrtPassphraseUpdate
  latencyMs : ℤ
  streamId : String
  bindInterface : String
  bindInterfaceId : Option String

structure RestreamSettingsUpdate where
  enabled : Bool
  rtspServer : RtspServerUpdate
  srtServer : SrtServerUpdate

/-- An update whose secret action is resolved. -/
structure ResolvedSrtServerUpdate where
  port : ℤ
  passphrase : SrtPassphraseState
  latencyMs : ℤ
  streamId : String
  bindInterface : String
  bindInterfaceId : Option String

/-- `str::bytes` -/
def bytes (s : String) : List UInt8 := s.toUTF8.data.toList

def isAsciiDigit (b : UInt8) : Bool := 0x30 ≤ b && b ≤ 0x39

def isAsciiHexdigit (b : UInt8) : Bool :=
  isAsciiDigit b || (0x41 ≤ b && b ≤ 0x46) || (0x61 ≤ b && b ≤ 0x66)

/-- `char::is_control` -/
def isControl (ch : Char) : Bool := ch.toNat < 0x20 || (0x7f ≤ ch.toNat && ch.toNat ≤ 0x9f)

def validateRtspToken (token : String) : Fallible Unit :=
  if (bytes token).length = 16 ∧
      (bytes token).all fun b => isAsciiDigit b || (0x61 ≤ b && b ≤ 0x66) then .ok ()
  else .error (.validation "RTSP access token must be exactly 16 lowercase hexadecimal characters")

def narrowPort (port : ℤ) (protocol : String) : Fallible UInt16 :=
  if 0 < port ∧ port < 65536 then .ok (UInt16.ofNat port.toNat)
  else .error (.validation (protocol ++ " server port must be between 1 and 65535"))

def validateSrtPassphrase : SrtPassphraseState → Fallible Unit
  | .available value =>
    if ¬ (10 ≤ (bytes value).length ∧ (bytes value).length ≤ 79) then
      .error (.validation "SRT passphrase must be 10 to 79 bytes, or explicitly cleared")
    else if !(bytes value).all fun b => 0x21 ≤ b && b ≤ 0x7e then
      .error (.validation
        "SRT passphrase must contain only printable ASCII characters without spaces")
    else .ok ()
  | _ => .ok ()

def validateSrtStreamId (streamId : String) : Fallible Unit :=
  if 512 < (bytes streamId).length then
    .error (.validation "SRT Stream ID must be at most 512 UTF-8 bytes")
  else if streamId.toList.any isControl then
    .error (.validation "SRT Stream ID must not contain NUL or control characters")
  else .ok ()

/-- `SRT_LATENCY_MIN_MS` to `SRT_LATENCY_MAX_MS` -/
def narrowLatency (latencyMs : ℤ) : Fallible UInt32 :=
  if 20 ≤ latencyMs ∧ latencyMs ≤ 8000 then .ok (UInt32.ofNat latencyMs.toNat)
  else .error (.validation "SRT latency must be between 20 and 8000 ms")

/-- The textual form of an interface GUID. -/
def isGuid (id : String) : Bool :=
  (bytes id).length == 36 && (bytes id).zipIdx.all fun (b, i) =>
    if i ∈ [8, 13, 18, 23] then b == 0x2d else isAsciiHexdigit b

def validateBindIdentity (iface : String) (id : Option String) : Fallible Unit :=
  match id with
  | none => .ok ()
  | some id =>
    if iface.isEmpty || !isGuid id then
      .error (.validation
        "Bind identity must be a stable interface GUID with an explicit selection")
    else .ok ()

def normalizeRestreamServers (stream : StreamConfig) (enabled : Bool) (rtsp : RtspServerUpdate)
    (srt : ResolvedSrtServerUpdate) : Fallible (RtspServerConfig × SrtServerConfig) := do
  let rtspPort ← narrowPort rtsp.port "RTSP"
  validateRtspToken rtsp.token
  let srtPort ← narrowPort srt.port "SRT"
  let latencyMs ← narrowLatency srt.latencyMs
  validateSrtPassphrase srt.passphrase
  validateSrtStreamId srt.streamId
  validateBindIdentity rtsp.bindInterface rtsp.bindInterfaceId
  validateBindIdentity srt.bindInterface srt.bindInterfaceId
  if stream.protocol = .udp ∧ stream.udpPort = srtPort then
    .error (.validation "SRT server port must differ from the UDP camera input port")
  return ({ enabled, port := rtspPort, token := rtsp.token, bindInterface := rtsp.bindInterface
            bindInterfaceId := rtsp.bindInterfaceId },
          { port := srtPort, passphrase := srt.passphrase, latencyMs, streamId := srt.streamId
            bindInterface := srt.bindInterface, bindInterfaceId := srt.bindInterfaceId })

/-- A narrow section in its wide form. -/
def RtspServerConfig.widen (c : RtspServerConfig) : RtspServerUpdate :=
  ⟨c.port.toNat, c.token, c.bindInterface, c.bindInterfaceId⟩

def SrtServerConfig.widen (c : SrtServerConfig) : ResolvedSrtServerUpdate :=
  ⟨c.port.toNat, c.passphrase, c.latencyMs.toNat, c.streamId, c.bindInterface,
    c.bindInterfaceId⟩

def validateProspectiveSettings (settings : AppSettings) : Fallible AppSettings := do
  let (rtspServer, srtServer) ← normalizeRestreamServers settings.stream
    settings.rtspServer.enabled settings.rtspServer.widen settings.srtServer.widen
  return { settings with rtspServer, srtServer }

def SrtPassphraseUpdate.resolve (current : SrtPassphraseState) :
    SrtPassphraseUpdate → SrtPassphraseState
  | keep => current
  | replace value => .available value
  | clear => .unencrypted

def prospectiveRestreamSettings (current : AppSettings) (update : RestreamSettingsUpdate) :
    Fallible AppSettings := do
  let (rtspServer, srtServer) ← normalizeRestreamServers current.stream update.enabled
    update.rtspServer
    { port := update.srtServer.port
      passphrase := update.srtServer.passphrase.resolve current.srtServer.passphrase
      latencyMs := update.srtServer.latencyMs, streamId := update.srtServer.streamId
      bindInterface := update.srtServer.bindInterface
      bindInterfaceId := update.srtServer.bindInterfaceId }
  validateProspectiveSettings { current with rtspServer, srtServer }

def validateSrtStartableFromState : SrtPassphraseState → Fallible Unit
  | .unavailable _ => .error (.srtPassphraseUnavailable
      "the saved SRT passphrase cannot be decrypted; replace it or explicitly clear encryption")
  | _ => .ok ()

def validateSrtStartable (settings : AppSettings) : Fallible Unit :=
  validateSrtStartableFromState settings.srtServer.passphrase

theorem narrowPort_ok {port : ℤ} {protocol : String} {p : UInt16}
    (h : narrowPort port protocol = .ok p) : (p.toNat : ℤ) = port := by
  unfold narrowPort at h
  split at h
  · next hr =>
    cases h
    rw [UInt16.toNat_ofNat_of_lt' (by simp only [UInt16.size]; omega)]
    omega
  · cases h

theorem narrowLatency_ok {latencyMs : ℤ} {n : UInt32} (h : narrowLatency latencyMs = .ok n) :
    (n.toNat : ℤ) = latencyMs := by
  unfold narrowLatency at h
  split at h
  · next hr =>
    cases h
    rw [UInt32.toNat_ofNat_of_lt' (by simp only [UInt32.size]; omega)]
    omega
  · cases h

/-- What passes is the same section in narrow form. -/
theorem normalizeRestreamServers_ok {stream : StreamConfig} {enabled : Bool}
    {rtsp : RtspServerUpdate} {srt : ResolvedSrtServerUpdate} {r : RtspServerConfig}
    {s : SrtServerConfig} (h : normalizeRestreamServers stream enabled rtsp srt = .ok (r, s)) :
    r.enabled = enabled ∧ r.widen = rtsp ∧ s.widen = srt := by
  simp only [normalizeRestreamServers, Fallible.bind_eq_ok] at h
  obtain ⟨rtspPort, hrtsp, -, -, srtPort, hsrt, latency, hlatency, -, -, -, -, -, -, -, -, h⟩ := h
  split at h
  · cases h
  · cases h
    refine ⟨rfl, ?_, ?_⟩
    · simp only [RtspServerConfig.widen, narrowPort_ok hrtsp]
    · simp only [SrtServerConfig.widen, narrowPort_ok hsrt, narrowLatency_ok hlatency]

/-- A valid passphrase takes the place of another one. -/
theorem normalizeRestreamServers_passphrase {stream : StreamConfig} {enabled : Bool}
    {rtsp : RtspServerUpdate} {srt : ResolvedSrtServerUpdate} {r : RtspServerConfig}
    {s : SrtServerConfig} {state : SrtPassphraseState}
    (hstate : validateSrtPassphrase state = .ok ())
    (h : normalizeRestreamServers stream enabled rtsp srt = .ok (r, s)) :
    normalizeRestreamServers stream enabled rtsp { srt with passphrase := state } =
      .ok (r, { s with passphrase := state }) := by
  simp only [normalizeRestreamServers, Fallible.bind_eq_ok] at h ⊢
  obtain ⟨rtspPort, hrtsp, u, htoken, srtPort, hsrt, latency, hlatency, -, -, v, hid, w, hbind, x,
    hbind', h⟩ := h
  refine ⟨rtspPort, hrtsp, u, htoken, srtPort, hsrt, latency, hlatency, (), hstate, v, hid, w,
    hbind, x, hbind', ?_⟩
  split at h
  · cases h
  · next hclash =>
    cases h
    rw [if_neg hclash]
    rfl

theorem RtspServerConfig.eq_of_widen {c d : RtspServerConfig} (he : c.enabled = d.enabled)
    (h : c.widen = d.widen) : c = d := by
  cases c
  cases d
  simp only [widen, RtspServerUpdate.mk.injEq, Int.natCast_inj, UInt16.toNat_inj] at h
  obtain ⟨rfl, rfl, rfl, rfl⟩ := h
  dsimp only at he
  rw [he]

theorem SrtServerConfig.eq_of_widen {c d : SrtServerConfig} (h : c.widen = d.widen) : c = d := by
  cases c
  cases d
  simp only [widen, ResolvedSrtServerUpdate.mk.injEq, Int.natCast_inj, UInt16.toNat_inj,
    UInt32.toNat_inj] at h
  obtain ⟨rfl, rfl, rfl, rfl, rfl, rfl⟩ := h
  rfl

/-- A settings value passes the check if its sections do. -/
theorem validateProspectiveSettings_iff {settings checked : AppSettings} :
    validateProspectiveSettings settings = .ok checked ↔ checked = settings ∧
      normalizeRestreamServers settings.stream settings.rtspServer.enabled
        settings.rtspServer.widen settings.srtServer.widen =
          .ok (settings.rtspServer, settings.srtServer) := by
  simp only [validateProspectiveSettings, Fallible.bind_eq_ok]
  constructor
  · rintro ⟨⟨rtspServer, srtServer⟩, hn, h⟩
    obtain ⟨he, hr, hs⟩ := normalizeRestreamServers_ok hn
    obtain rfl := RtspServerConfig.eq_of_widen he hr
    obtain rfl := SrtServerConfig.eq_of_widen hs
    cases h
    exact ⟨rfl, hn⟩
  · rintro ⟨rfl, hn⟩
    exact ⟨_, hn, rfl⟩

/-- The check of a whole settings value never rewrites it. -/
theorem validateProspectiveSettings_ok {settings checked : AppSettings}
    (h : validateProspectiveSettings settings = .ok checked) : checked = settings :=
  (validateProspectiveSettings_iff.mp h).1

theorem validateProspectiveSettings_passphrase {settings : AppSettings}
    {state : SrtPassphraseState} (hstate : validateSrtPassphrase state = .ok ())
    (h : validateProspectiveSettings settings = .ok settings) :
    validateProspectiveSettings
        { settings with srtServer := { settings.srtServer with passphrase := state } } =
      .ok { settings with srtServer := { settings.srtServer with passphrase := state } } :=
  validateProspectiveSettings_iff.mpr
    ⟨rfl, normalizeRestreamServers_passphrase hstate (validateProspectiveSettings_iff.mp h).2⟩

theorem validateSrtPassphrase_of_valid {settings : AppSettings}
    (h : validateProspectiveSettings settings = .ok settings) :
    validateSrtPassphrase settings.srtServer.passphrase = .ok () := by
  have hn := (validateProspectiveSettings_iff.mp h).2
  simp only [normalizeRestreamServers, Fallible.bind_eq_ok] at hn
  obtain ⟨_, -, _, -, _, -, _, -, _, hp, -⟩ := hn
  exact hp

/-- The check reads the two output sections and the camera input they must not clash with. -/
theorem validateProspectiveSettings_congr {a b : AppSettings}
    (hprotocol : a.stream.protocol = b.stream.protocol)
    (hport : a.stream.udpPort = b.stream.udpPort) (hrtsp : a.rtspServer = b.rtspServer)
    (hsrt : a.srtServer = b.srtServer) :
    (validateProspectiveSettings a).toBool = (validateProspectiveSettings b).toBool := by
  have hn : normalizeRestreamServers a.stream a.rtspServer.enabled a.rtspServer.widen
      a.srtServer.widen = normalizeRestreamServers b.stream b.rtspServer.enabled
        b.rtspServer.widen b.srtServer.widen := by
    rw [hrtsp, hsrt]
    simp only [normalizeRestreamServers, hprotocol, hport]
  simp only [validateProspectiveSettings, bind, Except.bind, hn]
  split <;> rfl

/-- A kept secret stays what it was. -/
theorem prospectiveRestreamSettings_keep {current next : AppSettings}
    {update : RestreamSettingsUpdate} (hkeep : update.srtServer.passphrase = .keep)
    (h : prospectiveRestreamSettings current update = .ok next) :
    next.srtServer.passphrase = current.srtServer.passphrase := by
  simp only [prospectiveRestreamSettings, Fallible.bind_eq_ok, hkeep,
    SrtPassphraseUpdate.resolve] at h
  obtain ⟨⟨rtspServer, srtServer⟩, hn, h⟩ := h
  rw [validateProspectiveSettings_ok h]
  exact congrArg (·.passphrase) (normalizeRestreamServers_ok hn).2.2

example : validateProspectiveSettings (.fresh "0123456789abcdef") =
    .ok (.fresh "0123456789abcdef") := by decide +kernel

end PocketStream
