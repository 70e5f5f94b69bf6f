import PocketStream.Config.DiskProtocol

/-! # What a save does

A write leaves the old file in its place or the new one. The key that a save is
given is the one on the disk, so the settings are sealed under it. A save that
succeeds has left its settings.
-/

namespace PocketStream

open Foundation Protocol

section Saves

variable {dpapi : Dpapi} {crypto : Crypto} {toml : Toml} {intended : Intended} {t : ℕ}

variable (dpapi crypto toml intended t) in
abbrev DiskStable (A : SettingsDisk → Prop) : Prop :=
  (diskProtocol dpapi crypto toml intended).Stable t A

variable (dpapi crypto toml intended t) in
/-- A routine of a thread, from what it assumes to what it leaves. -/
abbrev Saving {E α : Type} (pre : SettingsDisk → Prop) (x : FileRoutine E α)
    (good : α → SettingsDisk → Prop) (bad : SettingsDisk → Prop) : Prop :=
  (diskProtocol dpapi crypto toml intended).Triple t pre x.run (World.returns good fun _ => bad)

section Rules

variable {E α β : Type} {pre pre' bad bad' : SettingsDisk → Prop} {x : FileRoutine E α}
  {f : α → FileRoutine E β} {good good' mid : α → SettingsDisk → Prop}
  {post : β → SettingsDisk → Prop}

theorem saving_conseq (h : Saving dpapi crypto toml intended t pre x good bad)
    (hpre : ∀ s, pre' s → pre s) (hgood : ∀ a s, good a s → good' a s)
    (hbad : ∀ s, bad s → bad' s) : Saving dpapi crypto toml intended t pre' x good' bad' := by
  apply Triple.conseq h fun s _ hs => hpre s hs
  rintro (e | a) s - hs
  · exact hbad s hs
  · exact hgood a s hs

theorem saving_seq (hx : Saving dpapi crypto toml intended t pre x mid bad')
    (hbad : ∀ s, bad' s → bad s) (hst : DiskStable dpapi crypto toml intended t bad)
    (hf : ∀ a, Saving dpapi crypto toml intended t (mid a) (f a) post bad) :
    Saving dpapi crypto toml intended t pre (x >>= f) post bad :=
  .tryBind mid (saving_conseq hx (fun _ h => h) (fun _ _ h => h) hbad) (fun _ => hst) hf

end Rules

variable (dpapi crypto toml intended t) in
/-- An assertion about the files in their places that no other thread can spoil. -/
structure Placed (A : SettingsDisk → Prop) : Prop where
  stable : DiskStable dpapi crypto toml intended t A
  frame : ∀ s s', A s → (∀ file, s'.files (.final file) = s.files (.final file)) →
    s'.saveLock = s.saveLock → s'.found = s.found → A s'

/-- The thread is writing a file. -/
structure Staged (A : SettingsDisk → Prop) (t : ℕ) (p : FilePath) (s : SettingsDisk) : Prop where
  placed : A s
  owns : Owns t s p

theorem Owns.undisturbed {p : FilePath} {s s' : SettingsDisk} (h : Owns t s p)
    (hm : DiskRely t s s') : Owns t s' p ∧ s'.files p = s.files p := by
  obtain ⟨file, n, rfl, hn⟩ := h
  exact ⟨⟨file, n, by rw [hm.pid], hm.tickets n hn⟩, hm.staging file n hn⟩

theorem Owns.of_files {p : FilePath} {s : SettingsDisk} (h : Owns t s p)
    (files : Directory FilePath) : Owns t { s with files := files } p := h

variable {A B : SettingsDisk → Prop}

theorem Placed.staged (hA : Placed dpapi crypto toml intended t A) (p : FilePath) :
    DiskStable dpapi crypto toml intended t (Staged A t p) :=
  fun s s' hm hs => ⟨hA.stable s s' hm hs.placed, (hs.owns.undisturbed hm.2.2).1⟩

theorem Placed.holding (hA : Placed dpapi crypto toml intended t A) (p : FilePath)
    (f : Option StoredFile) :
    DiskStable dpapi crypto toml intended t fun s => Staged A t p s ∧ s.files p = f :=
  fun s s' hm hs => ⟨hA.staged p s s' hm hs.1, (hs.1.owns.undisturbed hm.2.2).2.trans hs.2⟩

/-- A change of the file that the thread is writing. -/
theorem Placed.update (hA : Placed dpapi crypto toml intended t A) {p : FilePath}
    {s : SettingsDisk} {files : Directory FilePath} (hs : Staged A t p s)
    (hfiles : ∀ r, r ≠ p → files r = s.files r) : Staged A t p { s with files := files } := by
  obtain ⟨hplaced, hown⟩ := hs
  refine ⟨hA.frame s _ hplaced (fun file => hfiles _ ?_) rfl rfl, hown⟩
  obtain ⟨_, n, rfl, -⟩ := hown
  exact FilePath.noConfusion

section write

variable (hA : Placed dpapi crypto toml intended t A) {p : FilePath}

include hA

theorem saving_create : Saving dpapi crypto toml intended t (Staged A t p)
    (ExceptT.mk (fileCall (.create p)))
    (fun _ s => Staged A t p s ∧ s.files p = some ⟨[], false⟩) (Staged A t p) := by
  apply Triple.perform (hA.staged p)
  · exact fun s _ hs => hs.owns
  · rintro s o r s' - hs - ha -
    simp only [savers, SettingsDisk.answer, SettingsDisk.attempt] at ha
    split at ha <;> cases ha
    · exact ⟨hA.update hs fun r hr => Directory.store_of_ne hr, Directory.store_self⟩
    · exact hs
  · rintro (_ | _)
    · exact hA.staged p
    · exact hA.holding p _

theorem saving_writeAll {content : List UInt8} : Saving dpapi crypto toml intended t (Staged A t p)
    (ExceptT.mk (fileCall (.writeAll p content)))
    (fun _ s => Staged A t p s ∧ s.files p = some ⟨content, false⟩) (Staged A t p) := by
  apply Triple.perform (hA.staged p)
  · exact fun s _ hs => hs.owns
  · rintro s o r s' - hs - ha -
    simp only [savers, SettingsDisk.answer] at ha
    split at ha <;> cases ha
    · exact ⟨hA.update hs fun r hr => Directory.store_of_ne hr, Directory.store_self⟩
    · exact hA.update hs fun r hr => Directory.store_of_ne hr
  · rintro (_ | _)
    · exact hA.staged p
    · exact hA.holding p _

theorem saving_syncAll {content : List UInt8} : Saving dpapi crypto toml intended t
    (fun s => Staged A t p s ∧ s.files p = some ⟨content, false⟩)
    (ExceptT.mk (fileCall (.syncAll p)))
    (fun _ s => Staged A t p s ∧ s.files p = some ⟨content, true⟩) (Staged A t p) := by
  apply Triple.perform (hA.holding p _)
  · exact fun s _ hs => hs.1.owns
  · rintro s o r s' - ⟨hs, hf⟩ - ha -
    simp only [savers, SettingsDisk.answer, SettingsDisk.attempt] at ha
    split at ha <;> cases ha
    · exact ⟨hA.update hs fun r hr => Directory.sync_of_ne hr,
        Directory.sync_self.trans (by rw [hf]; rfl)⟩
    · exact hs
  · rintro (_ | _)
    · exact hA.staged p
    · exact hA.holding p _

theorem saving_remove {content : Option StoredFile} :
    (diskProtocol dpapi crypto toml intended).Triple t
      (fun s => Staged A t p s ∧ s.files p = content) (fileCall (.remove p)) fun _ => A := by
  apply Triple.perform (hA.holding p _)
  · exact fun s _ hs => hs.1.owns
  · rintro s o r s' - ⟨hs, hf⟩ - ha -
    simp only [savers, SettingsDisk.answer, SettingsDisk.attempt] at ha
    split at ha <;> cases ha
    · exact (hA.update hs fun r hr => Directory.remove_of_ne hr).placed
    · exact hs.placed
  · exact fun _ => hA.stable

end write

/-- A write leaves the old file in its place, or the new one. -/
theorem saving_atomicWrite {file : SettingsFile} {content : List UInt8}
    (hA : Placed dpapi crypto toml intended t A) (hB : Placed dpapi crypto toml intended t B)
    (hmay : ∀ s, ConsistentDisk dpapi crypto toml intended s → A s →
      MayReplace dpapi crypto toml intended t s content file)
    (hAB : ∀ s p, Staged A t p s → s.files p = some ⟨content, true⟩ → B (s.replace p file)) :
    Saving dpapi crypto toml intended t A (atomicWrite file content) (fun _ => B) A := by
  have hcreated : Saving dpapi crypto toml intended t A (ExceptT.mk (fileCall .createDirAll))
      (fun _ => A) A := by
    apply Triple.perform hA.stable
    · exact fun _ _ _ => trivial
    · rintro s o r s' - hs - ⟨⟩ -
      cases o.result <;> exact hs
    · rintro (_ | _) <;> exact hA.stable
  apply saving_seq hcreated (fun _ h => h) hA.stable
  intro
  have hnamed : (diskProtocol dpapi crypto toml intended).Triple t A
      (fileCall (.nextStaging file)) (Staged A t) := by
    apply Triple.perform hA.stable
    · exact fun _ _ _ => trivial
    · rintro s o r s' - hs - ⟨⟩ -
      exact ⟨hA.frame s _ hs (fun _ => rfl) rfl rfl, file, _, rfl, List.getElem?_concat_length⟩
    · exact hA.staged
  apply saving_seq (.lift hnamed hA.staged) (fun _ h => h) hA.stable
  intro tmp
  apply saving_seq (saving_create hA) (fun _ h => h.placed) hA.stable
  intro
  apply saving_seq (saving_conseq (saving_writeAll hA) (fun _ h => h.1) (fun _ _ h => h)
    fun _ h => h) (fun _ h => h.placed) hA.stable
  intro
  apply saving_seq (saving_syncAll hA) (fun _ h => h.placed) hA.stable
  intro
  have hrenamed : (diskProtocol dpapi crypto toml intended).Triple t
      (fun s => Staged A t tmp s ∧ s.files tmp = some ⟨content, true⟩)
      (fileCall (.rename tmp (.final file)))
      (World.returns (fun _ => B) fun _ s => Staged A t tmp s ∧
        s.files tmp = some ⟨content, true⟩) := by
    apply Triple.perform (hA.holding tmp _)
    · rintro s hi ⟨hs, hf⟩
      exact ⟨hs.owns, file, _, rfl, hf, rfl, hmay s hi hs.placed⟩
    · rintro s o r s' - ⟨hs, hf⟩ - ha -
      simp only [savers, SettingsDisk.answer, SettingsDisk.attempt, hf, Option.isSome_some,
        if_true] at ha
      split at ha <;> cases ha
      · exact hAB s tmp hs hf
      · exact ⟨hs, hf⟩
    · rintro (_ | _)
      · exact hA.holding tmp _
      · exact hB.stable
  apply saving_seq (.lift hrenamed _) (fun _ h => h) hA.stable
  · rintro (e | _)
    · apply saving_seq (.lift (saving_remove hA) fun _ => hA.stable) (fun _ h => h) hA.stable
      intro
      exact .tryThrow hA.stable fun _ _ h => h
    · exact .tryPure hB.stable fun _ _ h => h
  · rintro (_ | _)
    · exact hA.holding tmp _
    · exact hB.stable

/-! ### The key -/

/-- The thread holds the lock, which it took over settings that it has found, and there are these
files of the settings and of the key. -/
structure HoldsFiles (t : ℕ) (found config key : Option StoredFile) (s : SettingsDisk) : Prop where
  lock : s.saveLock = some t
  found : s.found = found
  config : s.files (.final .config) = config
  key : s.files (.final .key) = key

theorem placed_holds {found config key : Option StoredFile} :
    Placed dpapi crypto toml intended t (HoldsFiles t found config key) where
  stable s s' hm hs := by
    obtain ⟨hconfig, hkey, hfound⟩ := hm.2.2.held hs.lock
    exact ⟨hm.2.2.lock.mpr hs.lock, hfound.trans hs.found, hconfig.trans hs.config,
      hkey.trans hs.key⟩
  frame s s' hs hfiles hlock hfound :=
    ⟨hlock.trans hs.lock, hfound.trans hs.found, (hfiles _).trans hs.config,
      (hfiles _).trans hs.key⟩

variable (dpapi) in
/-- The key in a file, if there is one. -/
def keyIn (file : Option StoredFile) : Option EncryptionKey :=
  file.bind fun f => keyOf dpapi f.bytes

variable {found config kept : Option StoredFile} {key : EncryptionKey}

theorem HoldsFiles.key_eq {s : SettingsDisk} (h : HoldsFiles t found config kept s) :
    s.key dpapi = keyIn dpapi kept := by
  rw [SettingsDisk.key, h.key, keyIn]

theorem Dpapi.Lawful.keyOf_protect (h : dpapi.Lawful) {salt blob : List UInt8}
    (hblob : dpapi.protect salt key.val = some blob) : keyOf dpapi blob = some key := by
  rw [keyOf, dif_neg (h.wrapped _ _ _ hblob), h.unprotect_protect _ _ _ hblob]
  simp [key.property]

theorem saving_mapErr {E E' α : Type} {f : E → E'} {x : FileRoutine E α}
    {pre bad : SettingsDisk → Prop} {good : α → SettingsDisk → Prop}
    (h : Saving dpapi crypto toml intended t pre x good bad)
    (hgood : ∀ a, DiskStable dpapi crypto toml intended t (good a))
    (hbad : DiskStable dpapi crypto toml intended t bad) :
    Saving dpapi crypto toml intended t pre (mapErr f x) good bad := by
  apply Triple.bind _ h
  rintro (e | a)
  · exact .done hbad fun _ _ h => h
  · exact .done (hgood a) fun _ _ h => h

theorem stable_holds : DiskStable dpapi crypto toml intended t (HoldsFiles t found config kept) :=
  placed_holds.stable

theorem stable_holds_and (φ : Prop) :
    DiskStable dpapi crypto toml intended t fun s => HoldsFiles t found config kept s ∧ φ :=
  stable_holds.and (.const φ)

theorem saving_readKeyFrom :
    Saving dpapi crypto toml intended t (HoldsFiles t found config kept) (readKeyFrom dpapi)
      (fun read s => HoldsFiles t found config kept s ∧ read.map Prod.fst = keyIn dpapi kept)
      (HoldsFiles t found config kept) := by
  have hread : (diskProtocol dpapi crypto toml intended).Triple t (HoldsFiles t found config kept)
      (fileCall (.read (.final .key))) (fun r s => HoldsFiles t found config kept s ∧
        (r = .error .notFound → keyIn dpapi kept = none) ∧
        ∀ raw, r = .ok raw → keyIn dpapi kept = keyOf dpapi raw) := by
    apply Triple.perform stable_holds
    · exact fun _ _ _ => trivial
    · rintro s o r s' - hs - ha -
      simp only [savers, SettingsDisk.answer, hs.key] at ha
      split at ha <;> cases ha
      · refine ⟨hs, ?_, ?_⟩ <;> rintro ⟨⟩ <;> rintro ⟨⟩
      · refine ⟨hs, fun _ => rfl, ?_⟩
        rintro _ ⟨⟩
      · refine ⟨hs, ?_, ?_⟩
        · rintro ⟨⟩
        · rintro _ ⟨⟩
          rfl
    · exact fun _ => stable_holds_and _
  apply saving_seq (.lift hread fun _ => stable_holds_and _) (fun _ h => h) stable_holds
  rintro ((_ | e) | raw)
  · exact .tryPure (stable_holds_and _) fun _ _ h => ⟨h.1, (h.2.1 rfl).symm⟩
  · exact .tryThrow (stable_holds_and _) fun _ _ h => h.1
  · apply Triple.tryPure (stable_holds_and _)
    rintro s - ⟨hs, -, hraw⟩
    refine ⟨hs, ?_⟩
    rw [hraw raw rfl, Option.map_map]
    exact Option.map_id' ..

/-- The file of the key is replaced by one with the same key, or where it holds none and no
settings depend on it. -/
theorem saving_writeKeyTo (hdpapi : dpapi.Lawful)
    (hcause : keyIn dpapi kept = some key ∨ keyIn dpapi kept = none ∧ config = none) :
    Saving dpapi crypto toml intended t (HoldsFiles t found config kept) (writeKeyTo key)
      (fun _ s => ∃ kept', HoldsFiles t found config kept' s ∧ keyIn dpapi kept' = some key)
      (HoldsFiles t found config kept) := by
  have hprotect : (diskProtocol dpapi crypto toml intended).Triple t
      (HoldsFiles t found config kept) (fileCall (.protect key.val))
      (fun r s => HoldsFiles t found config kept s ∧
        ∀ blob, r = some blob → keyOf dpapi blob = some key) := by
    apply Triple.perform stable_holds
    · exact fun _ _ _ => trivial
    · rintro s o r s' - hs - ⟨⟩ -
      exact ⟨hs, fun blob hblob => hdpapi.keyOf_protect hblob⟩
    · exact fun _ => stable_holds_and _
  apply saving_seq (.lift hprotect fun _ => stable_holds_and _) (fun _ h => h) stable_holds
  rintro (_ | blob)
  · exact .tryThrow (stable_holds_and _) fun _ _ h => h.1
  · apply Triple.given fun _ _ h => h.2 blob rfl
    intro hblob
    have hwrite : Saving dpapi crypto toml intended t (HoldsFiles t found config kept)
        (atomicWrite .key blob) (fun _ => HoldsFiles t found config (some ⟨blob, true⟩))
        (HoldsFiles t found config kept) := by
      apply saving_atomicWrite placed_holds placed_holds
      · intro s _ hs
        refine ⟨hs.lock, key, hblob, ?_⟩
        rw [hs.key_eq, hs.config]
        exact hcause
      · rintro s p ⟨hs, hown⟩ hf
        refine ⟨hs.lock, hs.found, (hown.replace_final (by decide)).trans hs.config, ?_⟩
        rw [SettingsDisk.replace_self, hf]
    apply saving_conseq (saving_mapErr hwrite (fun _ => stable_holds) stable_holds)
      (fun _ h => h.1) _ fun _ h => h
    exact fun _ s hs => ⟨_, hs, hblob⟩

theorem stable_keyed : DiskStable dpapi crypto toml intended t
    fun s => ∃ kept', HoldsFiles t found config kept' s ∧ keyIn dpapi kept' = some key := by
  rintro s s' hm ⟨kept', hs⟩
  exact ⟨kept', stable_holds_and _ s s' hm hs⟩

/-- The key is the one on the disk. -/
theorem saving_getOrCreateKey (hdpapi : dpapi.Lawful) :
    Saving dpapi crypto toml intended t (HoldsFiles t found config kept) (getOrCreateKey dpapi)
      (fun key s => ∃ kept', HoldsFiles t found config kept' s ∧ keyIn dpapi kept' = some key)
      (HoldsFiles t found config kept) := by
  have hst : ∀ r, DiskStable dpapi crypto toml intended t (World.returns
      (fun (read : Option (EncryptionKey × Bool)) s =>
        HoldsFiles t found config kept s ∧ read.map Prod.fst = keyIn dpapi kept)
      (fun (_ : String) => HoldsFiles t found config kept) r) := by
    rintro (_ | _)
    · exact stable_holds
    · exact stable_holds_and _
  apply saving_seq (.lift saving_readKeyFrom hst) (fun _ h => h) stable_holds
  rintro (e | _ | ⟨key, needsRewrap⟩)
  · exact .tryThrow stable_holds fun _ _ h => h
  · -- no key is on the disk, and then there are no settings either
    have hnone : ∀ s, ConsistentDisk dpapi crypto toml intended s →
        (HoldsFiles t found config kept s ∧ none = keyIn dpapi kept) →
        keyIn dpapi kept = none ∧ config = none := by
      rintro s hi ⟨hs, hkey⟩
      refine ⟨hkey.symm, ?_⟩
      cases hconfig : config with
      | none => rfl
      | some f =>
        obtain ⟨key, _, hdisk, -⟩ := hi.config f (hs.config.trans hconfig)
        rw [hs.key_eq, ← hkey] at hdisk
        cases hdisk
    apply Triple.given hnone
    intro hcause
    have hrandom : (diskProtocol dpapi crypto toml intended).Triple t
        (fun s => HoldsFiles t found config kept s ∧ none = keyIn dpapi kept) (fileCall .randomKey)
        (fun _ => HoldsFiles t found config kept) := by
      apply Triple.perform (stable_holds_and _)
      · exact fun _ _ _ => trivial
      · rintro s o r s' - hs - ⟨⟩ -
        exact hs.1
      · exact fun _ => stable_holds
    apply saving_seq (.lift hrandom fun _ => stable_holds) (fun _ h => h) stable_holds
    intro key
    apply saving_seq (saving_writeKeyTo hdpapi (.inr hcause)) (fun _ h => h) stable_holds
    intro
    exact .tryPure stable_keyed fun _ _ h => h
  · apply Triple.given fun _ _ h => h.2
    intro hkey
    cases needsRewrap with
    | false => exact .tryPure (stable_holds_and _) fun _ _ h => ⟨kept, h.1, h.2.symm⟩
    | true =>
      have hwrap : (diskProtocol dpapi crypto toml intended).Triple t
          (fun s => HoldsFiles t found config kept s ∧ some key = keyIn dpapi kept)
          (writeKeyTo key).run
          (fun _ s => ∃ kept', HoldsFiles t found config kept' s ∧
            keyIn dpapi kept' = some key) := by
        apply Triple.conseq (saving_writeKeyTo hdpapi (.inl hkey.symm)) fun _ _ h => h.1
        rintro (e | _) s - hs
        · exact ⟨kept, hs, hkey.symm⟩
        · exact hs
      apply saving_seq (.lift hwrap fun _ => stable_keyed) (fun _ h => h) stable_holds
      intro
      exact .tryPure stable_keyed fun _ _ h => h

/-! ### A save -/

variable {next : AppSettings}

variable (dpapi crypto toml) in
/-- The settings are on the disk, under the key that is there. -/
def Saved (t : ℕ) (next : AppSettings) (s : SettingsDisk) : Prop :=
  ∃ found key kept f, HoldsFiles t found (some f) kept s ∧ keyIn dpapi kept = some key ∧
    SealedUnder crypto toml key next f.bytes

theorem stable_saved :
    DiskStable dpapi crypto toml intended t (Saved dpapi crypto toml t next) := by
  rintro s s' hm ⟨found, key, kept, f, hs⟩
  exact ⟨found, key, kept, f, stable_holds_and _ s s' hm hs⟩

/-- The lock is held, over whatever there is. -/
def Holding (t : ℕ) (s : SettingsDisk) : Prop := s.saveLock = some t

theorem stable_holding : DiskStable dpapi crypto toml intended t (Holding t) :=
  fun _ _ hm hs => hm.2.2.lock.mpr hs

/-- The lock is held, and the settings file is as it was. -/
def AsFound (t : ℕ) (s : SettingsDisk) : Prop :=
  Holding t s ∧ s.files (.final .config) = s.found

theorem stable_asFound : DiskStable dpapi crypto toml intended t (AsFound t) := by
  rintro s s' hm ⟨hlock, hs⟩
  obtain ⟨hconfig, -, hfound⟩ := hm.2.2.held hlock
  exact ⟨hm.2.2.lock.mpr hlock, hconfig.trans (hs.trans hfound.symm)⟩

theorem HoldsFiles.asFound {s : SettingsDisk} (h : HoldsFiles t found found kept s) :
    AsFound t s :=
  ⟨h.lock, h.config.trans h.found.symm⟩

theorem saving_saveSettingsToDisk (hdpapi : dpapi.Lawful) (hnext : intended.settings next) :
    Saving dpapi crypto toml intended t (AsFound t) (saveSettingsToDisk dpapi crypto toml next)
      (fun _ => Saved dpapi crypto toml t next) (AsFound t) := by
  have hdir : Saving dpapi crypto toml intended t (AsFound t)
      (mapErr .config (ExceptT.mk (fileCall .createDirAll)) : FileRoutine AppError Unit)
      (fun _ s => ∃ files : Option StoredFile × Option StoredFile,
        HoldsFiles t files.1 files.1 files.2 s)
      (AsFound t) := by
    have hcall : Saving dpapi crypto toml intended t (AsFound t)
        (ExceptT.mk (fileCall .createDirAll)) (fun _ => AsFound t) (AsFound t) := by
      apply Triple.perform stable_asFound
      · exact fun _ _ _ => trivial
      · rintro s o r s' - hs - ⟨⟩ -
        cases o.result <;> exact hs
      · rintro (_ | _) <;> exact stable_asFound
    apply saving_conseq (saving_mapErr hcall (fun _ => stable_asFound) stable_asFound)
      (fun _ h => h) _ fun _ h => h
    rintro _ s ⟨hlock, hfound⟩
    exact ⟨(s.files (.final .config), s.files (.final .key)), hlock, hfound.symm, rfl, rfl⟩
  apply saving_seq hdir (fun _ h => h) stable_asFound
  rintro ⟨⟩
  apply Triple.of_exists
  rintro ⟨config, kept⟩
  apply saving_seq (saving_getOrCreateKey hdpapi) (fun _ h => h.asFound) stable_asFound
  intro key
  apply Triple.of_exists
  intro kept'
  apply Triple.given fun _ _ h => h.2
  intro hkey
  have hnonces : (diskProtocol dpapi crypto toml intended).Triple t
      (fun s => HoldsFiles t config config kept' s ∧ keyIn dpapi kept' = some key)
      (fileCall .nonces) (fun _ => HoldsFiles t config config kept') := by
    apply Triple.perform (stable_holds_and _)
    · exact fun _ _ _ => trivial
    · rintro s o r s' - hs - ⟨⟩ -
      exact hs.1
    · exact fun _ => stable_holds
  apply saving_seq (.lift hnonces fun _ => stable_holds) (fun _ h => h) stable_asFound
  intro nonces
  have hserialize : Saving dpapi crypto toml intended t (HoldsFiles t config config kept')
      (ExceptT.mk (Program.done (serializeSettingsWithSrtEncryptor crypto toml next key.val
        (encryptStringChecked crypto · · nonces.passphrase) nonces)))
      (fun content s => HoldsFiles t config config kept' s ∧
        SealedUnder crypto toml key next (bytes content)) (AsFound t) := by
    apply Triple.tryDone stable_holds
    intro s _ hs
    cases hcontent : serializeSettingsWithSrtEncryptor crypto toml next key.val
        (encryptStringChecked crypto · · nonces.passphrase) nonces with
    | error e => exact hs.asFound
    | ok content => exact ⟨hs, nonces, content, hcontent, rfl⟩
  apply saving_seq hserialize (fun _ h => h) stable_asFound
  intro content
  apply Triple.given fun _ _ h => h.2
  intro hsealed
  have hwrite : Saving dpapi crypto toml intended t (HoldsFiles t config config kept')
      (atomicWrite .config (bytes content))
      (fun _ => HoldsFiles t config (some ⟨bytes content, true⟩) kept')
      (HoldsFiles t config config kept') := by
    apply saving_atomicWrite placed_holds placed_holds
    · intro s _ hs
      exact ⟨hs.lock, key, next, hs.key_eq.trans hkey, hnext, hsealed⟩
    · rintro s p ⟨hs, hown⟩ hf
      refine ⟨hs.lock, hs.found, ?_, (hown.replace_final (by decide)).trans hs.key⟩
      rw [SettingsDisk.replace_self, hf]
  apply saving_conseq (saving_mapErr hwrite (fun _ => stable_holds) stable_holds)
    (fun _ h => h.1) _ fun _ h => h.asFound
  exact fun _ s hs => ⟨config, key, kept', _, hs, hkey, hsealed⟩

/-! ### The threads -/

/-- A thread outside a save. -/
def Free (t : ℕ) (s : SettingsDisk) : Prop := s.saveLock ≠ some t

theorem placed_free : Placed dpapi crypto toml intended t (Free t) where
  stable _ _ hm hs := fun h => hs (hm.2.2.lock.mp h)
  frame _ _ hs _ hlock _ := by rwa [Free, hlock]

/-- The job saves what is meant to be saved. -/
def SaveJob.Intends (intended : Intended) : SaveJob → Prop
  | settings next => intended.settings next
  | deviceCache document => intended.document document

theorem saving_settings (hdpapi : dpapi.Lawful) (hnext : intended.settings next) :
    (diskProtocol dpapi crypto toml intended).Triple t (Free t)
      (SaveJob.program dpapi crypto toml (.settings next)) fun r s => r = none ∧ Free t s := by
  have hlock : (diskProtocol dpapi crypto toml intended).Triple t (Free t) (fileCall .lockSave)
      fun _ => AsFound t := by
    apply Triple.perform placed_free.stable
    · exact fun _ _ hs => hs
    · rintro s o r s' - hs - ha -
      simp only [savers, SettingsDisk.answer] at ha
      split at ha <;> cases ha
      exact ⟨rfl, rfl⟩
    · exact fun _ => stable_asFound
  apply Triple.bind _ hlock
  intro
  apply Triple.bind _ (saving_saveSettingsToDisk hdpapi hnext)
  intro result
  have hreturned : (diskProtocol dpapi crypto toml intended).Triple t
      (World.returns (fun _ => Saved dpapi crypto toml t next) (fun _ => AsFound t) result)
      (fileCall (.returned next result)) fun _ => Holding t := by
    have hholding : ∀ s, World.returns (fun (_ : Unit) => Saved dpapi crypto toml t next)
        (fun (_ : AppError) => AsFound t) result s → Holding t s := by
      intro s hs
      cases result with
      | error e => exact hs.1
      | ok value =>
        obtain ⟨found, key, kept, f, hs, -⟩ := hs
        exact hs.lock
    apply Triple.perform
    · cases result
      · exact stable_asFound
      · exact stable_saved
    · rintro s - hs
      refine ⟨hholding s hs, ?_⟩
      cases result with
      | error e => exact hs.2
      | ok value =>
        obtain ⟨found, key, kept, f, hs, hkey, hsealed⟩ := hs
        exact ⟨key, f, hs.key_eq.trans hkey, hs.config, hsealed⟩
    · rintro s o r s' - hs - ⟨⟩ -
      exact hholding s hs
    · exact fun _ => stable_holding
  apply Triple.bind _ hreturned
  intro
  have hunlock : (diskProtocol dpapi crypto toml intended).Triple t (Holding t)
      (fileCall .unlockSave) fun _ => Free t := by
    apply Triple.perform stable_holding
    · exact fun _ _ hs => hs
    · rintro s o r s' - - - ⟨⟩ -
      rintro ⟨⟩
    · exact fun _ => placed_free.stable
  apply Triple.bind _ hunlock
  intro
  exact .done placed_free.stable fun _ _ h => ⟨rfl, h⟩

theorem saving_deviceCache {document : String} (hdocument : intended.document document) :
    (diskProtocol dpapi crypto toml intended).Triple t (Free t)
      (SaveJob.program dpapi crypto toml (.deviceCache document)) fun r s =>
        r = none ∧ Free t s := by
  have hdir : (diskProtocol dpapi crypto toml intended).Triple t (Free t)
      (fileCall .createDirAll) fun _ => Free t := by
    apply Triple.perform placed_free.stable
    · exact fun _ _ _ => trivial
    · rintro s o r s' - hs - ⟨⟩ -
      exact hs
    · exact fun _ => placed_free.stable
  apply Triple.bind _ hdir
  rintro (_ | ⟨⟩)
  · exact .done placed_free.stable fun _ _ h => ⟨rfl, h⟩
  · apply Triple.bind (World.returns (fun _ => Free t) fun _ => Free t)
    · apply saving_atomicWrite placed_free placed_free
      · exact fun _ _ _ => ⟨document, hdocument, rfl⟩
      · exact fun _ _ hs _ => hs.placed
    · rintro (_ | _) <;> exact .done placed_free.stable fun _ _ h => ⟨rfl, h⟩

variable (crypto toml intended) in
/-- Every thread of the program keeps to the protocol. -/
def saveCalls (hdpapi : dpapi.Lawful) : (diskProtocol dpapi crypto toml intended).Calls where
  pre job t s := job.Intends intended ∧ Free t s
  rest := Free
  stable _ := placed_free.stable
  safe job t := by
    apply Triple.given fun _ _ h => h.1
    intro hintends
    have hjob : (diskProtocol dpapi crypto toml intended).Triple t (Free t)
        (job.program dpapi crypto toml) fun r s => r = none ∧ Free t s := by
      cases job with
      | settings next => exact saving_settings hdpapi hintends
      | deviceCache document => exact saving_deviceCache hintends
    apply hjob.conseq fun _ _ h => h.2
    rintro _ s - ⟨rfl, hs⟩
    exact hs
  abandoned _ h := by cases h

end Saves

end PocketStream
