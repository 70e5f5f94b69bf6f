import PocketStream.Config.RoundTrip
import PocketStream.Config.Session

/-! # An unreadable secret is never lost

A passphrase that a session cannot read stays in its memory as the ciphertext it
is, so every save writes the same bytes back and no SRT output starts. A session
with the key reads the passphrase, and seals it again when it saves.
-/

namespace PocketStream

/-- What a call tries to save, if it tries. -/
def Style.target (memory : AppSettings) : Style → Option AppSettings
  | transaction change | mutate change =>
    match change memory with
    | .ok ((), true, next) => some next
    | _ => none
  | commit publish => (validateProspectiveSettings (publish memory)).toOption

theorem target_eq_some {change : AppSettings → Fallible (Unit × Bool × AppSettings)}
    {memory next : AppSettings}
    (h : (match change memory with
      | .ok ((), true, next) => some next
      | _ => none) = some next) : change memory = .ok ((), true, next) := by
  split at h
  · next hc =>
    cases h
    exact hc
  · cases h

section Perform

variable {σ : Type} {style : Style} {memory next : AppSettings}
  (persist : AppSettings → StateM σ (Fallible Unit)) (file : σ)

theorem Style.perform_unsaved (h : style.target memory = none) :
    (style.perform memory persist).run file = (memory, file) := by
  cases style with
  | transaction change | mutate change =>
    simp only [target, perform, changeSettingsIfWith, mutateThenSaveWith] at h ⊢
    cases hc : change memory with
    | error e => rfl
    | ok r =>
      obtain ⟨⟨⟩, changed, next⟩ := r
      cases changed with
      | false => rfl
      | true =>
        rw [hc] at h
        cases h
  | commit publish =>
    simp only [target, perform, commitRestreamWith] at h ⊢
    cases hv : validateProspectiveSettings (publish memory) with
    | error e => rfl
    | ok prospective =>
      rw [hv] at h
      cases h

/-- A call that saves leaves the file as its save does, and memory as it was or as saved. -/
theorem Style.perform_saved (h : style.target memory = some next) :
    ((style.perform memory persist).run file).2 = ((persist next).run file).2 ∧
      (((style.perform memory persist).run file).1 = memory ∨
        ((style.perform memory persist).run file).1 = next) := by
  cases style with
  | transaction change =>
    have hc : change memory = .ok ((), true, next) := target_eq_some h
    rcases hp : (persist next).run file with ⟨_ | _, saved⟩ <;>
      simp only [perform, changeSettingsIfWith, hc, if_true, StateT.run_map, StateT.run_bind, hp]
    · exact ⟨rfl, .inl rfl⟩
    · exact ⟨rfl, .inr rfl⟩
  | mutate change =>
    have hc : change memory = .ok ((), true, next) := target_eq_some h
    rcases hp : (persist next).run file with ⟨_ | _, saved⟩ <;>
      simp only [perform, mutateThenSaveWith, hc, StateT.run_map, StateT.run_bind, hp] <;>
      exact ⟨rfl, .inr rfl⟩
  | commit publish =>
    have hv : validateProspectiveSettings (publish memory) = .ok next := by
      simp only [target] at h
      cases hv : validateProspectiveSettings (publish memory) <;> rw [hv] at h <;> cases h
      rfl
    obtain rfl := validateProspectiveSettings_ok hv
    rcases hp : (persist (publish memory)).run file with ⟨_ | _, saved⟩ <;>
      simp only [perform, commitRestreamWith, hv, StateT.run_map, StateT.run_bind, hp]
    · exact ⟨rfl, .inl rfl⟩
    · exact ⟨rfl, .inr rfl⟩

end Perform

/-! ### Who touches the secret -/

section Secret

variable {memory next : AppSettings}

theorem always_eq_ok {τ : Type} {change : AppSettings → Fallible (τ × AppSettings)}
    (h : always change memory = .ok ((), true, next)) :
    ∃ value, change memory = .ok (value, next) := by
  unfold always at h
  cases hc : change memory with
  | error e =>
    rw [hc] at h
    cases h
  | ok r =>
    rw [hc] at h
    cases h
    exact ⟨r.1, rfl⟩

theorem silent_eq_ok {τ : Type} {change : AppSettings → Fallible (τ × Bool × AppSettings)}
    (h : silent change memory = .ok ((), true, next)) :
    ∃ value, change memory = .ok (value, true, next) := by
  unfold silent at h
  cases hc : change memory with
  | error e =>
    rw [hc] at h
    cases h
  | ok r =>
    obtain ⟨value, changed, made⟩ := r
    rw [hc] at h
    cases h
    exact ⟨value, rfl⟩

theorem removeAdoptionEntry_srtServer (s : AppSettings) (subnet : String) :
    (removeAdoptionEntry s subnet).srtServer = s.srtServer := by
  unfold removeAdoptionEntry
  split <;> rfl

theorem setBindingForOperation_srtServer {subnet : String} {row : AdoptedMeta} {force : Bool}
    (h : memory.setBindingForOperation subnet row force = .ok ((), true, next)) :
    next.srtServer = memory.srtServer := by
  unfold AppSettings.setBindingForOperation at h
  dsimp only at h
  split at h
  · cases h
  · split at h
    · cases h
    · cases h
      change (memory.exportBinding subnet row).srtServer = _
      unfold AppSettings.exportBinding
      split
      · exact removeAdoptionEntry_srtServer memory subnet
      · split <;> rfl

/-- Every writer but the commit of the re-stream sections keeps the passphrase. -/
theorem Writer.target_passphrase {writer : Writer}
    (hw : ∀ rtspServer srtServer, writer ≠ .commitRestreamSettings rtspServer srtServer)
    (h : writer.style.target memory = some next) :
    next.srtServer.passphrase = memory.srtServer.passphrase := by
  cases writer with
  | commitRestreamSettings rtspServer srtServer => exact absurd rfl (hw rtspServer srtServer)
  | updateZoomPosition | updateCredentials | setAudioMuted | clearManualNodes =>
    change some _ = some _ at h
    cases h
    rfl
  | addManualNode node =>
    have hc := target_eq_some h
    unfold AppSettings.addManualNode at hc
    split at hc
    · split at hc <;> cases hc
      rfl
    · cases hc
      rfl
  | updateManualNodeAlias key name =>
    obtain ⟨value, hc⟩ := silent_eq_ok (target_eq_some h)
    unfold AppSettings.updateManualNodeAlias at hc
    dsimp only at hc
    split at hc
    · split at hc <;> cases hc
      rfl
    · cases hc
  | updateStream stream =>
    obtain ⟨value, hc⟩ := always_eq_ok (target_eq_some h)
    simp only [AppSettings.updateStream, Fallible.bind_eq_ok] at hc
    obtain ⟨-, -, hc⟩ := hc
    cases hc
    rfl
  | commitRestreamProtocol protocol =>
    simp only [style, Style.target] at h
    cases hv : validateProspectiveSettings { memory with restreamProtocol := protocol } with
    | error e =>
      rw [hv] at h
      cases h
    | ok prospective =>
      rw [hv] at h
      cases h
      rw [validateProspectiveSettings_ok hv]
  | migrateBindIds interfaces =>
    have hc := target_eq_some h
    unfold AppSettings.migrateBindIds at hc
    split at hc <;> cases hc
    rfl
  | setSelectedAdapterMac | setNetworkMode | forgetTemporary | updateAdoptionLiveness |
      claimBinding =>
    change some _ = some _ at h
    cases h
    rfl
  | setPrimaryAddress mac cidr =>
    obtain ⟨value, hc⟩ := always_eq_ok (target_eq_some h)
    unfold AppSettings.setPrimaryAddress at hc
    split at hc
    · cases hc
    · dsimp only at hc
      split at hc
      · simp only [Fallible.bind_eq_ok] at hc
        obtain ⟨-, -, hc⟩ := hc
        cases hc
        rfl
      · cases hc
        rfl
  | bindManualNode ip mac stale =>
    obtain ⟨value, hc⟩ := silent_eq_ok (target_eq_some h)
    unfold AppSettings.bindManualNode at hc
    split at hc
    · cases hc
    · split at hc
      · cases hc
      · split at hc
        · cases hc
        · split at hc <;> cases hc
          rfl
  | removeManualNode ip expected =>
    obtain ⟨value, hc⟩ := silent_eq_ok (target_eq_some h)
    unfold AppSettings.removeManualNode at hc
    dsimp only at hc
    split at hc <;> cases hc
    rfl
  | reserveTemporary row =>
    obtain ⟨value, hc⟩ := always_eq_ok (target_eq_some h)
    unfold AppSettings.reserveTemporary at hc
    dsimp only at hc
    split at hc <;> cases hc
    rfl
  | setBinding subnet row =>
    rw [setBindingForOperation_srtServer (target_eq_some h)]
  | setBindingIntent subnet row =>
    rw [setBindingForOperation_srtServer (target_eq_some h)]
  | forgetUnownedBinding subnet row =>
    obtain ⟨value, hc⟩ := always_eq_ok (target_eq_some h)
    unfold AppSettings.forgetUnownedBinding at hc
    split at hc <;> cases hc
    rfl
  | forgetCompletedRemoval subnet row =>
    obtain ⟨value, hc⟩ := always_eq_ok (target_eq_some h)
    unfold AppSettings.forgetCompletedRemoval at hc
    dsimp only at hc
    split at hc <;> cases hc
    rfl

end Secret

/-! ### What the file holds -/

/-- The file is a saved document of valid settings whose stored passphrase is this sealed
form of the secret. -/
structure Stored (crypto : Crypto) (toml : Toml) (secret ciphertext file : String) : Prop where
  document : ∃ (settings : AppSettings) (credentials : Credentials),
    validateProspectiveSettings settings = .ok settings ∧
      toml.fromStr file = .ok (settings.toPersisted ciphertext credentials)
  sealed : ∃ (key : List UInt8) (nonce : Nonce), key.length = 32 ∧
    encryptStringChecked crypto secret key nonce = .ok ciphertext

section Stored

variable {crypto : Crypto} {toml : Toml} {secret ciphertext file : String}

theorem valid_ne_empty (h : validateSrtPassphrase (.available secret) = .ok ()) :
    secret ≠ "" := by
  rintro rfl
  cases h

theorem Stored.ne_empty (h : Stored crypto toml secret ciphertext file)
    (hcrypto : crypto.Lawful) (hvalid : validateSrtPassphrase (.available secret) = .ok ()) :
    ciphertext ≠ "" := by
  obtain ⟨key, nonce, hkey, henc⟩ := h.sealed
  intro he
  have := hcrypto.opens hkey henc
  rw [he] at this
  exact valid_ne_empty hvalid (Option.some.inj this).symm

theorem Stored.storedPassphrase (h : Stored crypto toml secret ciphertext file) :
    storedPassphrase toml file = some ciphertext := by
  obtain ⟨settings, credentials, -, hf⟩ := h.document
  rw [PocketStream.storedPassphrase, hf]
  rfl

/-- A key opens the stored passphrase to the secret or not at all. -/
theorem Stored.resolve (h : Stored crypto toml secret ciphertext file) (hcrypto : crypto.Lawful)
    (hvalid : validateSrtPassphrase (.available secret) = .ok ()) (key : Option (List UInt8)) :
    resolveSrtPassphrase crypto ciphertext key = .unavailable ciphertext ∨
      resolveSrtPassphrase crypto ciphertext key = .available secret := by
  rw [resolveSrtPassphrase, if_neg (h.ne_empty hcrypto hvalid)]
  cases hd : (key.filter (·.length = 32)).bind (decryptString crypto ciphertext) with
  | none => exact .inl rfl
  | some opened =>
    refine .inr (congrArg SrtPassphraseState.available ?_)
    obtain ⟨key', hkey', hopen⟩ := Option.bind_eq_some_iff.mp hd
    have hlen' : key'.length = 32 := by simpa using (Option.filter_eq_some_iff.mp hkey').2
    obtain ⟨k, nonce, hk, henc⟩ := h.sealed
    unfold encryptStringChecked at henc
    rw [if_neg (valid_ne_empty hvalid), if_neg (not_not.mpr hk)] at henc
    obtain ⟨sealedBytes, hs, -⟩ := hcrypto.decrypt_encrypt k nonce.val (bytes secret) hk
    rw [hs] at henc
    cases henc
    rw [(hcrypto.decode_combined sealedBytes).2, if_pos hlen'] at hopen
    obtain ⟨plaintext, hdec, hutf⟩ := Option.bind_eq_some_iff.mp hopen
    rw [hcrypto.authentic _ _ _ _ _ _ hs hdec, fromUtf8_bytes] at hutf
    exact (Option.some.inj hutf).symm

/-- The file loads under every key. -/
theorem Stored.load (h : Stored crypto toml secret ciphertext file) (hcrypto : crypto.Lawful)
    (hvalid : validateSrtPassphrase (.available secret) = .ok ()) (key : Option (List UInt8)) :
    ∃ memory, parseSettings crypto toml file key = ⟨some memory, false, []⟩ ∧
      memory.srtServer.passphrase = resolveSrtPassphrase crypto ciphertext key := by
  obtain ⟨settings, credentials, hv, hf⟩ := h.document
  have hstate : validateSrtPassphrase (resolveSrtPassphrase crypto ciphertext key) = .ok () := by
    rcases h.resolve hcrypto hvalid key with hr | hr
    · rw [hr]
      rfl
    · rw [hr]
      exact hvalid
  let credentials := resolveCredentials crypto credentials.username credentials.password key
  have hcredentials : validateProspectiveSettings { settings with credentials } =
      .ok { settings with credentials } :=
    validateProspectiveSettings_iff.mpr ⟨rfl, (validateProspectiveSettings_iff.mp hv).2⟩
  have hloaded := validateProspectiveSettings_passphrase hstate hcredentials
  exact ⟨_, parseSettings_of_runtime hf (runtime_toPersisted.trans hloaded), rfl⟩

end Stored

/-! ### One session -/

/-- What a session holds on to: the passphrase in memory, and in the file the secret, under
the very ciphertext in memory if that is all there is. -/
structure Kept (crypto : Crypto) (toml : Toml) (secret : String) (held : SrtPassphraseState)
    (state : AppSettings × String) : Prop where
  memory : state.1.srtServer.passphrase = held
  file : ∃ ciphertext, Stored crypto toml secret ciphertext state.2 ∧
    ∀ c, held = .unavailable c → ciphertext = c

section Session

variable {crypto : Crypto} {toml : Toml} {secret : String} {held : SrtPassphraseState}
  {state : AppSettings × String}

theorem saveToDisk_cases (key : Fallible { k : List UInt8 // k.length = 32 }) (nonces : Nonces)
    (written : Fallible Unit) (settings : AppSettings) (file : String) :
    ((saveToDisk crypto toml key nonces written settings).run file).2 = file ∨
      ∃ k : { k : List UInt8 // k.length = 32 },
        serializeSettingsWithSrtEncryptor crypto toml settings k.val
          (encryptStringChecked crypto · · nonces.passphrase) nonces =
            .ok ((saveToDisk crypto toml key nonces written settings).run file).2 := by
  cases key with
  | error e => exact .inl (by cases written <;> rfl)
  | ok k =>
    cases written with
    | error e =>
      left
      unfold saveToDisk StateT.run
      dsimp only
      split <;> simp_all
    | ok u =>
      cases hs : serializeSettingsWithSrtEncryptor crypto toml settings k.val
          (encryptStringChecked crypto · · nonces.passphrase) nonces with
      | error e =>
        left
        unfold saveToDisk StateT.run
        simp only [bind, Except.bind, hs]
      | ok content =>
        refine .inr ⟨k, ?_⟩
        unfold saveToDisk StateT.run
        simp only [bind, Except.bind, hs]

/-- A save keeps the secret in the file. -/
theorem Kept.save (h : Kept crypto toml secret held state) (htoml : toml.Lawful)
    (hheld : held = .available secret ∨ ∃ c, held = .unavailable c)
    {next : AppSettings} (hnext : next.srtServer.passphrase = held)
    {key : { k : List UInt8 // k.length = 32 }} {nonces : Nonces} {file : String}
    (hs : serializeSettingsWithSrtEncryptor crypto toml next key.val
      (encryptStringChecked crypto · · nonces.passphrase) nonces = .ok file) :
    ∃ ciphertext, Stored crypto toml secret ciphertext file ∧
      ∀ c, held = .unavailable c → ciphertext = c := by
  obtain ⟨persisted, hp, hf⟩ := serialized_parses htoml hs
  obtain ⟨hv, stored, hstored, rfl⟩ := persisted_eq hp
  rw [hnext] at hstored
  rcases hheld with rfl | ⟨c, rfl⟩
  · simp only [persistedPassphrase, Fallible.bind_eq_ok] at hstored
    obtain ⟨encrypted, henc, hstored⟩ := hstored
    split at hstored
    · cases hstored
    · cases hstored
      exact ⟨_, ⟨⟨next, _, hv, hf⟩, key.val, nonces.passphrase, key.property, henc⟩,
        fun c hc => by cases hc⟩
  · simp only [persistedPassphrase] at hstored
    split at hstored
    · cases hstored
    · cases hstored
      obtain ⟨ciphertext, hold, hsame⟩ := h.file
      obtain rfl := hsame _ rfl
      exact ⟨_, ⟨⟨next, _, hv, hf⟩, hold.sealed⟩, fun c' hc => by cases hc; rfl⟩

theorem SessionOp.target_passphrase {op : SessionOp} (hop : op.KeepsSecret) {writer : Writer}
    {memory next : AppSettings} (hw : op.writer memory = some writer)
    (ht : writer.style.target memory = some next) :
    next.srtServer.passphrase = memory.srtServer.passphrase := by
  cases op with
  | call writer' =>
    cases hw
    exact Writer.target_passphrase hop ht
  | applyRestreamSettings update =>
    simp only [SessionOp.writer] at hw
    cases hu : prospectiveRestreamSettings memory update with
    | error e =>
      rw [hu] at hw
      cases hw
    | ok prospective =>
      rw [hu] at hw
      cases hw
      have hkeep := prospectiveRestreamSettings_keep hop hu
      simp only [Writer.style, Style.target] at ht
      cases hv : validateProspectiveSettings { memory with
          rtspServer := prospective.rtspServer, srtServer := prospective.srtServer } with
      | error e =>
        rw [hv] at ht
        cases ht
      | ok checked =>
        rw [hv] at ht
        cases ht
        rw [validateProspectiveSettings_ok hv]
        exact hkeep

theorem Kept.perform (h : Kept crypto toml secret held state) (htoml : toml.Lawful)
    (hheld : held = .available secret ∨ ∃ c, held = .unavailable c)
    {w : SessionWrite} (hw : w.op.KeepsSecret) :
    Kept crypto toml secret held (w.perform crypto toml state) := by
  unfold SessionWrite.perform
  cases hcall : w.op.writer state.1 with
  | none => exact h
  | some writer =>
    dsimp only
    cases ht : writer.style.target state.1 with
    | none =>
      rw [Style.perform_unsaved _ _ ht]
      exact h
    | some next =>
      have hnext : next.srtServer.passphrase = held :=
        (w.op.target_passphrase hw hcall ht).trans h.memory
      obtain ⟨hfile, hmemory⟩ :=
        Style.perform_saved (saveToDisk crypto toml w.key w.nonces w.written) state.2 ht
      refine ⟨?_, ?_⟩
      · rcases hmemory with hm | hm
        · rw [hm]
          exact h.memory
        · rw [hm]
          exact hnext
      · rw [hfile]
        rcases saveToDisk_cases w.key w.nonces w.written next state.2 with hs | ⟨key, hs⟩
        · rw [hs]
          exact h.file
        · exact h.save htoml hheld hnext hs

theorem Kept.writes (h : Kept crypto toml secret held state) (htoml : toml.Lawful)
    (hheld : held = .available secret ∨ ∃ c, held = .unavailable c)
    {writes : List SessionWrite} (hw : ∀ w ∈ writes, w.op.KeepsSecret) :
    Kept crypto toml secret held (writes.foldl (SessionWrite.perform crypto toml) state) := by
  induction writes generalizing state with
  | nil => exact h
  | cons w rest ih =>
    exact ih (h.perform htoml hheld (hw w List.mem_cons_self))
      fun w' hw' => hw w' (List.mem_cons_of_mem _ hw')

theorem Stored.session {ciphertext file : String} (h : Stored crypto toml secret ciphertext file)
    (hcrypto : crypto.Lawful) (htoml : toml.Lawful)
    (hvalid : validateSrtPassphrase (.available secret) = .ok ()) {s : Session}
    (hkeep : ∀ w ∈ s.writes, w.op.KeepsSecret) :
    ∃ next, s.run crypto toml file = some next ∧
      Kept crypto toml secret (resolveSrtPassphrase crypto ciphertext s.key) next := by
  obtain ⟨memory, hload, hmemory⟩ := h.load hcrypto hvalid s.key
  have hresolve := h.resolve hcrypto hvalid s.key
  have hstart : Kept crypto toml secret (resolveSrtPassphrase crypto ciphertext s.key)
      (memory.align s.now, file) := by
    refine ⟨hmemory, ciphertext, h, fun c hc => ?_⟩
    rcases hresolve with hr | hr <;> rw [hr] at hc <;> cases hc
    rfl
  refine ⟨_, ?_, hstart.writes htoml (hresolve.symm.imp_right fun hr => ⟨_, hr⟩) hkeep⟩
  rw [Session.run, hload]
  rfl

theorem Stored.sessions {ciphertext file : String} (h : Stored crypto toml secret ciphertext file)
    (hcrypto : crypto.Lawful) (htoml : toml.Lawful)
    (hvalid : validateSrtPassphrase (.available secret) = .ok ()) {sessions : List Session}
    (hkeep : ∀ s ∈ sessions, ∀ w ∈ s.writes, w.op.KeepsSecret) :
    ∃ file' ciphertext', runSessions crypto toml file sessions = some file' ∧
      Stored crypto toml secret ciphertext' file' := by
  induction sessions generalizing file ciphertext with
  | nil => exact ⟨file, ciphertext, rfl, h⟩
  | cons s rest ih =>
    obtain ⟨next, hrun, hkept⟩ := h.session hcrypto htoml hvalid (hkeep s List.mem_cons_self)
    obtain ⟨ciphertext', hstored, -⟩ := hkept.file
    obtain ⟨file', c, hrest, hfile⟩ :=
      ih hstored fun s' hs' => hkeep s' (List.mem_cons_of_mem _ hs')
    refine ⟨file', c, ?_, hfile⟩
    rw [runSessions, hrun]
    exact hrest

end Session

/-- The key, if there is one, opens the ciphertext. -/
def Opens (crypto : Crypto) (ciphertext : String) (key : Option (List UInt8)) : Prop :=
  ∃ k plaintext, key = some k ∧ k.length = 32 ∧ decryptString crypto ciphertext k = some plaintext

theorem opens_iff {crypto : Crypto} {ciphertext : String} {key : Option (List UInt8)}
    (hne : ciphertext ≠ "") : Opens crypto ciphertext key ↔
      ∃ plaintext, resolveSrtPassphrase crypto ciphertext key = .available plaintext := by
  rw [resolveSrtPassphrase, if_neg hne]
  constructor
  · rintro ⟨k, plaintext, rfl, hk, hopen⟩
    rw [filter_key hk, Option.bind_some, hopen]
    exact ⟨plaintext, rfl⟩
  · rintro ⟨plaintext, h⟩
    cases hd : (key.filter (·.length = 32)).bind (decryptString crypto ciphertext) with
    | none =>
      rw [hd] at h
      cases h
    | some opened =>
      obtain ⟨k, hk, hopen⟩ := Option.bind_eq_some_iff.mp hd
      obtain ⟨hkey, hlen⟩ := Option.filter_eq_some_iff.mp hk
      exact ⟨k, opened, hkey, by simpa using hlen, hopen⟩

/-- What a session with this stored ciphertext at its start leaves in memory and in the file. -/
structure SecretSafe (crypto : Crypto) (toml : Toml) (secret ciphertext : String)
    (key : Option (List UInt8)) (memory : AppSettings) (file : String) : Prop where
  unreadable : ¬ Opens crypto ciphertext key →
    memory.srtServer.passphrase = .unavailable ciphertext ∧
      storedPassphrase toml file = some ciphertext ∧
      ∀ bind port passphrase latencyMs streamId, resolveSelectedRestreamOutput memory ≠
        .ok (bind, .srt port passphrase latencyMs streamId)
  readable : Opens crypto ciphertext key → memory.srtServer.passphrase = .available secret
  encrypted : ∃ stored, storedPassphrase toml file = some stored ∧ stored ≠ "" ∧
    ∃ k, k.length = 32 ∧ decryptString crypto stored k = some secret

theorem Kept.secretSafe {crypto : Crypto} {toml : Toml} {secret ciphertext : String}
    {key : Option (List UInt8)} {state : AppSettings × String}
    (h : Kept crypto toml secret (resolveSrtPassphrase crypto ciphertext key) state)
    (hcrypto : crypto.Lawful) (hvalid : validateSrtPassphrase (.available secret) = .ok ())
    (hresolve : resolveSrtPassphrase crypto ciphertext key = .unavailable ciphertext ∨
      resolveSrtPassphrase crypto ciphertext key = .available secret) (hne : ciphertext ≠ "") :
    SecretSafe crypto toml secret ciphertext key state.1 state.2 where
  unreadable hn := by
    rw [opens_iff hne] at hn
    have hr := hresolve.resolve_right fun hr => hn ⟨_, hr⟩
    rw [hr] at h
    obtain ⟨stored, hs, hsame⟩ := h.file
    obtain rfl := hsame _ rfl
    refine ⟨h.memory, hs.storedPassphrase, fun bind port passphrase latencyMs streamId ho => ?_⟩
    rcases resolve_srt ho with hp | ⟨hp, -⟩ <;> rw [h.memory] at hp <;> cases hp
  readable ho := by
    obtain ⟨plaintext, hp⟩ := (opens_iff hne).mp ho
    have hr := hresolve.resolve_left fun hr => by rw [hr] at hp; cases hp
    exact h.memory.trans hr
  encrypted := by
    obtain ⟨stored, hs, -⟩ := h.file
    obtain ⟨k, nonce, hk, henc⟩ := hs.sealed
    exact ⟨stored, hs.storedPassphrase, hs.ne_empty hcrypto hvalid, k, hk, hcrypto.opens hk henc⟩

def zoomedSettings : AppSettings :=
  { keptSettings with zoomPositions := keptSettings.zoomPositions.insert "192.168.5.20" 40 }

def zoomedToml : Toml :=
  .table [("settings", keptSettings.toPersisted keptCiphertext ⟨"", ""⟩),
    ("zoomed", zoomedSettings.toPersisted keptCiphertext ⟨"", ""⟩)]

/-- A session without a key that saves a zoom position. -/
def unreadSession : Session where
  key := none
  now := ""
  writes := [⟨.call (.updateZoomPosition "192.168.5.20" 40), .ok ⟨plainKey, rfl⟩, plainNonces,
    .ok ()⟩]

def readSession : Session := ⟨some plainKey, "", []⟩

/-- The session without a key did save. -/
example : runSessions .plain zoomedToml "settings" [unreadSession] = some "zoomed" := by
  decide +kernel

end PocketStream
