import PocketStream.Config.DiskSaves
import PocketStream.Config.RoundTrip

/-! # The files survive a crash

Whatever fails and wherever the program is cut off, the settings on the disk are
some that were to be saved, and they open under the key on the disk. To the file of
the settings, a save is one step that happens or fails.
-/

namespace PocketStream

open Foundation Protocol

section CrashSafety

variable {dpapi : Dpapi} {crypto : Crypto} {toml : Toml} {intended : Intended}

/-- A crash spares the files in their places. -/
theorem ConsistentDisk.crash {s : SettingsDisk}
    (h : ConsistentDisk dpapi crypto toml intended s) (left : FilePath → Option (List UInt8))
    (pid : ℕ) : ConsistentDisk dpapi crypto toml intended (s.crash left pid) := by
  apply h.congr
  intro file
  cases hf : s.files (.final file) with
  | none => exact Directory.crash_of_none hf
  | some f => exact Directory.crash_of_synced hf (h.synced file f hf)

/-- What is saved from here on is meant to be saved. -/
def DiskEvent.Intends (intended : Intended) : DiskEvent → Prop
  | .act (.spawn job) => job.Intends intended
  | _ => True

section Runs

variable (hdpapi : dpapi.Lawful)

theorem sound_initial {s : SettingsDisk} (hs : ConsistentDisk dpapi crypto toml intended s)
    (hlock : s.saveLock = none) : Sound _ (saveCalls crypto toml intended hdpapi) (s, []) := by
  apply Sound.initial hs
  intro t h
  rw [hlock] at h
  cases h

theorem sound_event {c : SaverState} {event : DiskEvent}
    (h : Sound _ (saveCalls crypto toml intended hdpapi) c) (hevent : event.Intends intended) :
    Sound _ (saveCalls crypto toml intended hdpapi) (event.step dpapi crypto toml c) := by
  cases event with
  | crash left pid =>
    exact sound_initial hdpapi (h.inv.crash left pid) rfl
  | act a =>
    apply Sound.step h
    cases a with
    | spawn job => exact fun s hs => ⟨hevent, hs⟩
    | advance t o => exact fun _ _ => trivial
    | abandon t => trivial
    | disturb i => trivial

theorem sound_runEvents {c : SaverState} {events : List DiskEvent}
    (h : Sound _ (saveCalls crypto toml intended hdpapi) c)
    (hevents : ∀ event ∈ events, event.Intends intended) :
    Sound _ (saveCalls crypto toml intended hdpapi) (runEvents dpapi crypto toml c events) := by
  induction events generalizing c with
  | nil => exact h
  | cons event events ih =>
    have hstep := sound_event hdpapi h (hevents event List.mem_cons_self)
    exact ih hstep fun e he => hevents e (List.mem_cons_of_mem _ he)

end Runs

variable (crypto toml) in
/-- What a start finds in the bytes under the key. A passphrase that was kept as a ciphertext
may open under it, and is then one that the program has to accept. -/
def LoadsAs (key : EncryptionKey) (settings : AppSettings) (raw : List UInt8) : Prop :=
  let passphrase := settings.srtServer.passphrase
  ∃ text, fromUtf8 raw = some text ∧
    (passphrase.reload crypto key.val = passphrase ∨
        validateSrtPassphrase (passphrase.reload crypto key.val) = .ok () →
      parseSettings crypto toml text (some key.val) =
        ⟨some (settings.reload crypto key.val), false, []⟩)

theorem SealedUnder.loads {key : EncryptionKey} {settings : AppSettings} {raw : List UInt8}
    (hcrypto : crypto.Lawful) (htoml : toml.Lawful)
    (h : SealedUnder crypto toml key settings raw) : LoadsAs crypto toml key settings raw := by
  obtain ⟨nonces, text, haccepted, rfl⟩ := h
  exact ⟨text, fromUtf8_bytes text, parseSettings_serialized hcrypto htoml key.2 haccepted⟩

/-- The text of a file, if there is one. -/
def HasText (file : Option StoredFile) (text : String) : Prop :=
  ∀ f, file = some f → f.bytes = bytes text

end CrashSafety

/-! ### A closed instance -/

/-- A wrap writes a byte in front. -/
def Dpapi.plain : Dpapi where
  protect _ plain := if plain.length = 31 then none else some (0 :: plain)
  unprotect := List.tail?

theorem Dpapi.plain_lawful : Dpapi.plain.Lawful where
  unprotect_protect salt plain blob h := by
    obtain ⟨-, h⟩ := Option.ite_none_left_eq_some.mp h
    cases h
    rfl
  wrapped salt plain blob h := by
    obtain ⟨hlen, h⟩ := Option.ite_none_left_eq_some.mp h
    cases h
    rw [List.length_cons]
    omega

def emptyDisk : SettingsDisk := ⟨fun _ => none, 7, [], none, none⟩

theorem length_plainKey : plainKey.length = 32 := rfl

/-- Nothing fails, and the same key and nonces are drawn each time. -/
def quietOutcome : FileOutcome := ⟨none, [], ⟨plainKey, length_plainKey⟩, [], plainNonces⟩

/-- The first save of the program, up to its report. -/
def wholeSave : List DiskEvent :=
  .act (.spawn (.settings readableSettings)) ::
    List.replicate 18 (.act (.advance 0 quietOutcome))

def onlyReadable : Intended := ⟨(· = readableSettings), fun _ => False⟩

theorem consistent_empty :
    ConsistentDisk Dpapi.plain .plain keptToml onlyReadable emptyDisk := by
  constructor
  · intro file f h
    cases h
  · intro f h
    cases h
  · intro f h
    cases h

theorem intends_wholeSave : ∀ event ∈ wholeSave, event.Intends onlyReadable := by
  intro event h
  rcases List.mem_cons.mp h with rfl | h
  · rfl
  · rw [List.eq_of_mem_replicate h]
    trivial

theorem issues_wholeSave :
    Issues (runEvents Dpapi.plain .plain keptToml (emptyDisk, []) wholeSave) 0
      (.returned readableSettings (.ok ())) :=
  ⟨_, rfl⟩

end PocketStream
