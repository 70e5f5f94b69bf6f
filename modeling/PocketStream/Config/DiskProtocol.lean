import PocketStream.Config.SettingsFiles

/-! # What the saves of the program keep to

A file in its place is whole, and it is one that was meant to be there. The
settings are sealed under the key that is on the disk. A thread writes to the
files whose number it has drawn, and moves one into the place of the settings or
of the key under the lock alone.
-/

namespace PocketStream

open Foundation

/-- What a save is meant to leave: some settings, or some document of the cache. -/
structure Intended where
  settings : AppSettings → Prop
  document : String → Prop

section Protocol

variable (dpapi : Dpapi) (crypto : Crypto) (toml : Toml) (intended : Intended)

def SettingsDisk.key (s : SettingsDisk) : Option EncryptionKey :=
  (s.files (.final .key)).bind fun f => keyOf dpapi f.bytes

/-- The bytes are the document of the settings under the key. -/
def SealedUnder (key : EncryptionKey) (settings : AppSettings) (raw : List UInt8) : Prop :=
  ∃ nonces content, serializeSettingsWithSrtEncryptor crypto toml settings key.val
    (encryptStringChecked crypto · · nonces.passphrase) nonces = .ok content ∧ raw = bytes content

structure ConsistentDisk (s : SettingsDisk) : Prop where
  synced : ∀ file f, s.files (.final file) = some f → f.synced = true
  config : ∀ f, s.files (.final .config) = some f → ∃ key settings, s.key dpapi = some key ∧
    intended.settings settings ∧ SealedUnder crypto toml key settings f.bytes
  deviceCache : ∀ f, s.files (.final .deviceCache) = some f →
    ∃ document, intended.document document ∧ f.bytes = bytes document

/-- The path is that of a number which the thread has drawn. -/
def Owns (t : ℕ) (s : SettingsDisk) (p : FilePath) : Prop :=
  ∃ file n, p = .staging file s.pid n ∧ s.tickets[n]? = some t

/-- The bytes may take the place of the file. The key is replaced by itself, or where no settings
depend on it. -/
def MayReplace (t : ℕ) (s : SettingsDisk) (raw : List UInt8) : SettingsFile → Prop
  | .deviceCache => ∃ document, intended.document document ∧ raw = bytes document
  | .config => s.saveLock = some t ∧ ∃ key settings, s.key dpapi = some key ∧
      intended.settings settings ∧ SealedUnder crypto toml key settings raw
  | .key => s.saveLock = some t ∧ ∃ key, keyOf dpapi raw = some key ∧
      (s.key dpapi = some key ∨ s.key dpapi = none ∧ s.files (.final .config) = none)

/-- What is true of a save that returns: it has left its settings, or the file as it was. -/
def ReportsSave (settings : AppSettings) (s : SettingsDisk) : Fallible Unit → Prop
  | .ok () => ∃ key f, s.key dpapi = some key ∧ s.files (.final .config) = some f ∧
      SealedUnder crypto toml key settings f.bytes
  | .error _ => s.files (.final .config) = s.found

/-- What a call needs. -/
def MayCall (t : ℕ) : FileCall → SettingsDisk → Prop
  | .lockSave, s => s.saveLock ≠ some t
  | .unlockSave, s => s.saveLock = some t
  | .create p, s | .writeAll p _, s | .syncAll p, s | .remove p, s => Owns t s p
  | .rename p q, s => Owns t s p ∧ ∃ file f, q = .final file ∧ s.files p = some f ∧
      f.synced = true ∧ MayReplace dpapi crypto toml intended t s f.bytes file
  | .returned settings result, s => s.saveLock = some t ∧
      ReportsSave dpapi crypto toml settings s result
  | _, _ => True

/-- What a thread relies on while others move. -/
structure DiskRely (u : ℕ) (s s' : SettingsDisk) : Prop where
  pid : s'.pid = s.pid
  tickets : ∀ n : ℕ, s.tickets[n]? = some u → s'.tickets[n]? = some u
  staging : ∀ file (n : ℕ), s.tickets[n]? = some u →
    s'.files (.staging file s.pid n) = s.files (.staging file s.pid n)
  lock : s'.saveLock = some u ↔ s.saveLock = some u
  held : s.saveLock = some u → s'.files (.final .config) = s.files (.final .config) ∧
    s'.files (.final .key) = s.files (.final .key) ∧ s'.found = s.found

variable {dpapi crypto toml intended} {t : ℕ} {s : SettingsDisk}

/-- Consistency is about the files in their places. -/
theorem ConsistentDisk.congr {s' : SettingsDisk} (h : ConsistentDisk dpapi crypto toml intended s)
    (hfiles : ∀ file, s'.files (.final file) = s.files (.final file)) :
    ConsistentDisk dpapi crypto toml intended s' where
  synced file f hf := h.synced file f (hfiles file ▸ hf)
  config f hf := by
    rw [SettingsDisk.key, hfiles]
    exact h.config f (hfiles .config ▸ hf)
  deviceCache f hf := h.deviceCache f (hfiles .deviceCache ▸ hf)

theorem DiskRely.refl {u : ℕ} : DiskRely u s s where
  pid := rfl
  tickets _ h := h
  staging _ _ _ := rfl
  lock := Iff.rfl
  held _ := ⟨rfl, rfl, rfl⟩

/-- A thread changes a file that it is writing. -/
theorem DiskRely.of_owns {u : ℕ} {p : FilePath} {files : Directory FilePath} (hu : u ≠ t)
    (hp : Owns t s p) (hfiles : ∀ r, r ≠ p → files r = s.files r) :
    DiskRely u s { s with files := files } where
  pid := rfl
  tickets _ h := h
  staging file n hn := by
    apply hfiles
    rintro rfl
    obtain ⟨file', n', heq, hn'⟩ := hp
    cases heq
    exact hu (Option.some.inj (hn.symm.trans hn'))
  lock := Iff.rfl
  held _ := by
    obtain ⟨file', n', rfl, -⟩ := hp
    exact ⟨hfiles _ FilePath.noConfusion, hfiles _ FilePath.noConfusion, rfl⟩

theorem ConsistentDisk.of_owns {p : FilePath} {files : Directory FilePath}
    (h : ConsistentDisk dpapi crypto toml intended s) (hp : Owns t s p)
    (hfiles : ∀ r, r ≠ p → files r = s.files r) :
    ConsistentDisk dpapi crypto toml intended { s with files := files } := by
  obtain ⟨file', n, rfl, -⟩ := hp
  exact h.congr fun file => hfiles _ FilePath.noConfusion

/-- A file is moved into its place. -/
def SettingsDisk.replace (s : SettingsDisk) (p : FilePath) (file : SettingsFile) : SettingsDisk :=
  { s with files := s.files.rename p (.final file) }

@[simp] theorem SettingsDisk.replace_self {p : FilePath} {file : SettingsFile} :
    (s.replace p file).files (.final file) = s.files p :=
  Directory.rename_target

theorem Owns.replace_final {p : FilePath} {file file' : SettingsFile} (hp : Owns t s p)
    (hne : file' ≠ file) : (s.replace p file).files (.final file') = s.files (.final file') := by
  obtain ⟨_, n, rfl, -⟩ := hp
  apply Directory.rename_of_ne FilePath.noConfusion
  rintro ⟨⟩
  exact hne rfl

theorem Owns.replace_key {p : FilePath} {file : SettingsFile} (hp : Owns t s p)
    (hne : file ≠ .key) : (s.replace p file).key dpapi = s.key dpapi := by
  rw [SettingsDisk.key, hp.replace_final hne.symm, SettingsDisk.key]

theorem ConsistentDisk.replace {p : FilePath} {file : SettingsFile} {f : StoredFile}
    (h : ConsistentDisk dpapi crypto toml intended s) (hown : Owns t s p) (hp : s.files p = some f)
    (hsynced : f.synced = true)
    (hmay : MayReplace dpapi crypto toml intended t s f.bytes file) :
    ConsistentDisk dpapi crypto toml intended (s.replace p file) := by
  have hself : ∀ f', (s.replace p file).files (.final file) = some f' → f' = f := by
    intro f' hf'
    rw [SettingsDisk.replace_self, hp] at hf'
    exact (Option.some.inj hf').symm
  have hsyncs : ∀ file' f', (s.replace p file).files (.final file') = some f' →
      f'.synced = true := by
    intro file' f' hf'
    by_cases heq : file' = file
    · subst heq
      exact hself f' hf' ▸ hsynced
    · rw [hown.replace_final heq] at hf'
      exact h.synced file' f' hf'
  cases file with
  | deviceCache =>
    refine ⟨hsyncs, fun f' hf' => ?_, fun f' hf' => hself f' hf' ▸ hmay⟩
    rw [hown.replace_final (by decide)] at hf'
    rw [hown.replace_key (by decide)]
    exact h.config f' hf'
  | config =>
    obtain ⟨-, key, settings, hkey, hintended, hsealed⟩ := hmay
    refine ⟨hsyncs, fun f' hf' => ?_, fun f' hf' => ?_⟩
    · obtain rfl := hself f' hf'
      exact ⟨key, settings, (hown.replace_key (by decide)).trans hkey, hintended, hsealed⟩
    · rw [hown.replace_final (by decide)] at hf'
      exact h.deviceCache f' hf'
  | key =>
    obtain ⟨-, key, hkey, hcause⟩ := hmay
    refine ⟨hsyncs, fun f' hf' => ?_, fun f' hf' => ?_⟩
    · rw [hown.replace_final (by decide)] at hf'
      obtain ⟨key', settings, hkey', hintended, hsealed⟩ := h.config f' hf'
      rcases hcause with hsame | ⟨hnone, -⟩
      · obtain rfl := Option.some.inj (hsame.symm.trans hkey')
        refine ⟨key, settings, ?_, hintended, hsealed⟩
        rw [SettingsDisk.key, SettingsDisk.replace_self, hp]
        exact hkey
      · rw [hnone] at hkey'
        cases hkey'
    · rw [hown.replace_final (by decide)] at hf'
      exact h.deviceCache f' hf'

theorem DiskRely.replace {u : ℕ} {p : FilePath} {file : SettingsFile} {raw : List UInt8}
    (hu : u ≠ t) (hown : Owns t s p)
    (hmay : MayReplace dpapi crypto toml intended t s raw file) :
    DiskRely u s (s.replace p file) where
  pid := rfl
  tickets _ h := h
  staging file' n hn := by
    have hne : FilePath.staging file' s.pid n ≠ p := by
      rintro rfl
      obtain ⟨_, n', heq, hn'⟩ := hown
      cases heq
      exact hu (Option.some.inj (hn.symm.trans hn'))
    have htarget : FilePath.staging file' s.pid n ≠ .final file := FilePath.noConfusion
    exact Directory.rename_of_ne hne htarget
  lock := Iff.rfl
  held hlock := by
    have hcache : file = .deviceCache := by
      cases file with
      | deviceCache => rfl
      | config | key => exact absurd (Option.some.inj (hlock.symm.trans hmay.1)) hu
    subst hcache
    exact ⟨hown.replace_final (by decide), hown.replace_final (by decide), rfl⟩

theorem answer_keeps {call : FileCall} {o : FileOutcome} {r : call.Reply} {s' : SettingsDisk}
    (h : ConsistentDisk dpapi crypto toml intended s)
    (hmay : MayCall dpapi crypto toml intended t call s)
    (ha : s.answer dpapi t call o = some (r, s')) :
    ConsistentDisk dpapi crypto toml intended s' ∧ ∀ u, u ≠ t → DiskRely u s s' := by
  have hown : ∀ {p files}, Owns t s p → (∀ r, r ≠ p → files r = s.files r) →
      ConsistentDisk dpapi crypto toml intended { s with files := files } ∧
        ∀ u, u ≠ t → DiskRely u s { s with files := files } :=
    fun hp hfiles => ⟨h.of_owns hp hfiles, fun u hu => .of_owns hu hp hfiles⟩
  cases call with
  | lockSave =>
    simp only [SettingsDisk.answer] at ha
    split at ha
    · next hfree =>
      cases ha
      refine ⟨h.congr fun _ => rfl, fun u hu => ⟨rfl, fun _ hn => hn, fun _ _ _ => rfl, ?_, ?_⟩⟩
      · simp [hfree, hu.symm]
      · simp [hfree]
    · cases ha
  | unlockSave =>
    cases ha
    refine ⟨h.congr fun _ => rfl, fun u hu => ⟨rfl, fun _ hn => hn, fun _ _ _ => rfl, ?_, ?_⟩⟩
    · rw [show s.saveLock = some t from hmay]
      simp [hu.symm]
    · exact fun _ => ⟨rfl, rfl, rfl⟩
  | nextStaging file =>
    cases ha
    refine ⟨h.congr fun _ => rfl, fun u _ => ⟨rfl, fun n hn => ?_, fun _ _ _ => rfl, Iff.rfl,
      fun _ => ⟨rfl, rfl, rfl⟩⟩⟩
    exact List.getElem?_append_left (List.getElem?_eq_some_iff.mp hn).1 ▸ hn
  | createDirAll | randomKey | protect | nonces | returned =>
    cases ha
    exact ⟨h, fun _ _ => .refl⟩
  | read =>
    simp only [SettingsDisk.answer] at ha
    split at ha <;> cases ha <;> exact ⟨h, fun _ _ => .refl⟩
  | create | syncAll | remove =>
    simp only [SettingsDisk.answer, SettingsDisk.attempt] at ha
    split at ha <;> cases ha
    · exact hown hmay fun r hr => Function.update_of_ne hr ..
    · exact ⟨h, fun _ _ => .refl⟩
  | writeAll =>
    simp only [SettingsDisk.answer] at ha
    split at ha <;> cases ha <;> exact hown hmay fun r hr => Function.update_of_ne hr ..
  | rename p q =>
    obtain ⟨hp, file, f, rfl, hf, hsynced, hreplace⟩ := hmay
    simp only [SettingsDisk.answer, SettingsDisk.attempt] at ha
    split at ha
    · split at ha <;> cases ha
      · exact ⟨h.replace hp hf hsynced hreplace, fun u hu => .replace hu hp hreplace⟩
      · exact ⟨h, fun _ _ => .refl⟩
    · cases ha
      exact ⟨h, fun _ _ => .refl⟩

end Protocol

section Savers

variable (dpapi : Dpapi) (crypto : Crypto) (toml : Toml) (intended : Intended)

def diskProtocol : Protocol (savers dpapi crypto toml) where
  inv := ConsistentDisk dpapi crypto toml intended
  rely := DiskRely
  guard := MayCall dpapi crypto toml intended
  meets _ _ _ := True
  answer h hmay _ ha := answer_keeps h hmay ha
  disturb i := i.elim
  abandon _ h := by cases h

end Savers

end PocketStream
