import PocketStream.Config.Validation

/-! # The selected output

What a start of the re-stream server resolves from the settings. Every listener
is built from a resolved output, and an empty resolved passphrase means a
listener without encryption.
-/

namespace PocketStream

inductive ResolvedOutput where
  | rtsp (serverPort : UInt16) (mountPath : String)
  | srt (serverPort : UInt16) (passphrase : String) (latencyMs : UInt32) (streamId : String)
  deriving DecidableEq

def optionalBindInterface (value : String) : Option String :=
  if value = "" then none else some value

def validateSelectedRestreamStartable (settings : AppSettings) : Fallible Unit :=
  if settings.restreamProtocol = .srt then validateSrtStartable settings else .ok ()

def resolvedSrtPassphrase : SrtPassphraseState → Fallible String
  | .unencrypted => .ok ""
  | .available value => .ok value
  | .unavailable preservedCiphertext =>
    (validateSrtStartableFromState (.unavailable preservedCiphertext)).map fun () => ""

def resolveSelectedRestreamOutput (settings : AppSettings) :
    Fallible (Option String × ResolvedOutput) := do
  validateSelectedRestreamStartable settings
  match settings.restreamProtocol with
  | .rtsp =>
    return (optionalBindInterface settings.rtspServer.bindInterface,
      .rtsp settings.rtspServer.port ("/stream-" ++ settings.rtspServer.token))
  | .srt =>
    return (optionalBindInterface settings.srtServer.bindInterface,
      .srt settings.srtServer.port (← resolvedSrtPassphrase settings.srtServer.passphrase)
        settings.srtServer.latencyMs settings.srtServer.streamId)

/-- The passphrase the listener of an output is given, none for one without encryption. -/
def ResolvedOutput.listenerPassphrase : ResolvedOutput → Option String
  | rtsp _ _ => none
  | srt _ passphrase _ _ => if passphrase = "" then none else some passphrase

/-- An SRT output is resolved with the passphrase of the settings, never without a readable
one. -/
theorem resolve_srt {settings : AppSettings} {bind : Option String} {port : UInt16}
    {passphrase : String} {latencyMs : UInt32} {streamId : String}
    (h : resolveSelectedRestreamOutput settings =
      .ok (bind, .srt port passphrase latencyMs streamId)) :
    settings.srtServer.passphrase = .available passphrase ∨
      settings.srtServer.passphrase = .unencrypted ∧ passphrase = "" := by
  unfold resolveSelectedRestreamOutput at h
  simp only [Fallible.bind_eq_ok] at h
  obtain ⟨-, -, h⟩ := h
  split at h
  · cases h
  · simp only [Fallible.bind_eq_ok] at h
    obtain ⟨p, hp, h⟩ := h
    cases h
    cases hs : settings.srtServer.passphrase with
    | unencrypted =>
      rw [hs] at hp
      cases hp
      exact .inr ⟨rfl, rfl⟩
    | available value =>
      rw [hs] at hp
      cases hp
      exact .inl rfl
    | unavailable c =>
      rw [hs] at hp
      cases hp

end PocketStream
