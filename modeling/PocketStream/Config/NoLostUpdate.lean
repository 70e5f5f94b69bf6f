import PocketStream.Config.Interleaving

/-! # No settings update is lost

Every change of memory is one writer's change of what was there, and whoever
changes memory without saving it in the same breath queues for a save of its own.
So once every call is done the file holds the settings in memory, and these are
the changes of all calls, one after another.
-/

namespace PocketStream

open Foundation

/-- Settings that the check of the re-stream sections cannot tell apart. -/
def AppSettings.SameRestream (a b : AppSettings) : Prop :=
  a.stream.protocol = b.stream.protocol ∧ a.stream.udpPort = b.stream.udpPort ∧
    a.rtspServer = b.rtspServer ∧ a.srtServer = b.srtServer

/-- The older writers own other fields than the commits. -/
theorem Writer.sameRestream_of_mutate {writer : Writer} {change} {s next : AppSettings}
    (hw : writer.style = .mutate change) (hc : change s = .ok ((), true, next)) :
    next.SameRestream s := by
  have hsame : s.SameRestream s := ⟨rfl, rfl, rfl, rfl⟩
  cases writer with
  | updateZoomPosition | updateCredentials | setAudioMuted | clearManualNodes =>
    cases hw
    cases hc
    exact hsame
  | addManualNode node =>
    cases hw
    unfold AppSettings.addManualNode at hc
    split at hc
    · split at hc
      · cases hc
      · cases hc
        exact hsame
    · cases hc
      exact hsame
  | updateManualNodeAlias key name =>
    cases hw
    unfold silent AppSettings.updateManualNodeAlias at hc
    dsimp only at hc
    split at hc
    · split at hc
      · cases hc
        exact hsame
      · cases hc
    · cases hc
  | _ => cases hw

theorem Writer.valid_congr {writer : Writer} {publish} {a b : AppSettings}
    (hw : writer.style = .commit publish) (h : a.SameRestream b) :
    (validateProspectiveSettings (publish a)).toBool =
      (validateProspectiveSettings (publish b)).toBool := by
  obtain ⟨hprotocol, hport, hrtsp, hsrt⟩ := h
  cases writer with
  | commitRestreamSettings rtspServer srtServer =>
    cases hw
    exact validateProspectiveSettings_congr hprotocol hport rfl rfl
  | commitRestreamProtocol protocol =>
    cases hw
    exact validateProspectiveSettings_congr hprotocol hport hrtsp hsrt
  | _ => cases hw

section Apply

variable {writer : Writer} {s next : AppSettings} {change} {publish}

theorem Writer.apply_transaction (hw : writer.style = .transaction change)
    (hc : change s = .ok ((), true, next)) : writer.apply s = next := by
  simp [apply, Style.apply, hw, hc]

theorem Writer.apply_transaction_nothing (hw : writer.style = .transaction change)
    (hc : ∀ next, change s ≠ .ok ((), true, next)) : writer.apply s = s := by
  simp [apply, Style.apply, hw]

theorem Writer.apply_mutate (hw : writer.style = .mutate change)
    (hc : change s = .ok ((), true, next)) : writer.apply s = next := by
  simp [apply, Style.apply, hw, hc]

theorem Writer.apply_mutate_nothing (hw : writer.style = .mutate change)
    (hc : ∀ next, change s ≠ .ok ((), true, next)) : writer.apply s = s := by
  simp [apply, Style.apply, hw]

theorem Writer.apply_commit (hw : writer.style = .commit publish)
    (hc : (validateProspectiveSettings (publish s)).toBool = true) :
    writer.apply s = publish s := by
  simp [apply, Style.apply, hw, hc]

theorem Writer.apply_commit_rejected {e : AppError} (hw : writer.style = .commit publish)
    (hc : validateProspectiveSettings (publish s) = .error e) : writer.apply s = s := by
  simp [apply, Style.apply, hw, hc, Except.toBool]

end Apply

/-- What a stage knows of the settings in memory and of those last persisted, the first
only as long as no change is unsaved. -/
def Stage.Sound (writer : Writer) (memory : AppSettings) (persisted : Option AppSettings)
    (quiet : Prop) : Stage → Prop
  | changed next => writer.apply memory = next
  | stored next => writer.apply memory = next ∧ persisted = some next
  | checked prospective => ∃ publish, writer.style = .commit publish ∧
      (validateProspectiveSettings (publish memory)).toBool = true ∧
      (quiet → prospective = publish memory)
  | committed prospective => ∃ publish, writer.style = .commit publish ∧
      (validateProspectiveSettings (publish memory)).toBool = true ∧
      (quiet → prospective = publish memory) ∧ persisted = some prospective
  | cloned snapshot => quiet → snapshot = memory
  | _ => True

section Sound

variable {writer : Writer} {memory next : AppSettings} {persisted : Option AppSettings}
  {quiet quiet' : Prop} {stage : Stage}

theorem Stage.sound_of_unlocked (h : stage.holdsSave = false) :
    stage.Sound writer memory persisted quiet := by
  cases stage <;> trivial

theorem Stage.Sound.mono (h : stage.Sound writer memory persisted quiet)
    (hq : quiet' → quiet) : stage.Sound writer memory persisted quiet' := by
  cases stage with
  | checked prospective =>
    obtain ⟨publish, hw, hv, hp⟩ := h
    exact ⟨publish, hw, hv, fun q => hp (hq q)⟩
  | committed prospective =>
    obtain ⟨publish, hw, hv, hp, hd⟩ := h
    exact ⟨publish, hw, hv, fun q => hp (hq q), hd⟩
  | cloned snapshot => exact fun q => h (hq q)
  | _ => exact h

/-- A change of memory that its own writer will save leaves the other stages sound. -/
theorem Stage.Sound.mutated (h : stage.Sound writer memory persisted quiet)
    (hsettings : stage.holdsSettings = false) (hsame : next.SameRestream memory)
    (hq : ¬ quiet') : stage.Sound writer next persisted quiet' := by
  cases stage with
  | changed | stored => cases hsettings
  | checked prospective =>
    obtain ⟨publish, hw, hv, -⟩ := h
    exact ⟨publish, hw, (Writer.valid_congr hw hsame).trans hv, fun q => absurd q hq⟩
  | committed prospective =>
    obtain ⟨publish, hw, hv, -, hd⟩ := h
    exact ⟨publish, hw, (Writer.valid_congr hw hsame).trans hv, fun q => absurd q hq, hd⟩
  | cloned snapshot => exact fun q => absurd q hq
  | _ => trivial

end Sound

variable {ι : Type} {writer : ι → Writer} {initial : AppSettings} {c c' : Calls ι}

structure Inv (writer : ι → Writer) (initial : AppSettings) (c : Calls ι) : Prop where
  save : Held c.saveLock c.stage Stage.holdsSave
  settings : Held c.settingsLock c.stage Stage.holdsSettings
  effects : Recorded c.order c.stage Stage.effective
  memory : c.memory = c.order.foldl (fun s i => (writer i).apply s) initial
  sound : ∀ i, (c.stage i).Sound (writer i) c.memory c.persisted (Quiet c.stage Stage.unsaved)
  clean : Quiet c.stage Stage.busy →
    c.persisted = some c.memory ∨ c.persisted = none ∧ c.memory = initial

theorem inv_init (writer : ι → Writer) (initial : AppSettings) :
    Inv writer initial (.init ι initial) where
  save i := by simp [Calls.init, Stage.holdsSave]
  settings i := by simp [Calls.init, Stage.holdsSettings]
  effects := ⟨List.nodup_nil, fun i => by simp [Calls.init, Stage.effective]⟩
  memory := rfl
  sound i := trivial
  clean _ := .inr ⟨rfl, rfl⟩

theorem foldl_record {order : List ι} {i : ι} {memory next : AppSettings}
    (h : memory = order.foldl (fun s i => (writer i).apply s) initial)
    (hn : (writer i).apply memory = next) :
    next = (order ++ [i]).foldl (fun s i => (writer i).apply s) initial := by
  rw [List.foldl_append, ← h]
  exact hn.symm

variable [DecidableEq ι]

theorem sound_update {stage : ι → Stage} {memory : AppSettings} {persisted : Option AppSettings}
    {quiet : Prop} {i : ι} {s : Stage} (hi : s.Sound (writer i) memory persisted quiet)
    (ho : ∀ j ≠ i, (stage j).Sound (writer j) memory persisted quiet) (j : ι) :
    (Function.update stage i s j).Sound (writer j) memory persisted quiet := by
  by_cases hj : j = i
  · rw [hj, Function.update_self]
    exact hi
  · rw [Function.update_of_ne hj]
    exact ho j hj

/-- Every unsaved change is busy. -/
theorem unsaved_quiet {stage : ι → Stage} {i : ι} {s : Stage}
    (h : Quiet (Function.update stage i s) Stage.busy) (hi : (stage i).unsaved = false) :
    Quiet stage Stage.unsaved := by
  have hbusy : ∀ s : Stage, s.unsaved = true → s.busy = true := by
    rintro (_ | _) <;> simp [Stage.unsaved, Stage.busy]
  exact (h.mono hbusy).of_update hi

theorem Inv.step (h : Inv writer initial c) (hstep : CallStep writer c c') :
    Inv writer initial c' := by
  obtain ⟨hsave, hsettings, heffects, hmemory, hsound, hclean⟩ := h
  -- a thread that holds the save lock is the only one whose stage says anything
  have alone : ∀ {i memory persisted} {quiet : Prop}, (c.stage i).holdsSave = true → ∀ j ≠ i,
      (c.stage j).Sound (writer j) memory persisted quiet := fun hi j hj =>
    Stage.sound_of_unlocked (hsave.other hi hj)
  have free : ∀ {memory persisted} {quiet : Prop}, c.saveLock = none → ∀ i j, j ≠ i →
      (c.stage j).Sound (writer j) memory persisted quiet := fun hl i j _ =>
    Stage.sound_of_unlocked (hsave.free hl j)
  cases hstep with
  | lockSave i hs hw hfree =>
    exact ⟨hsave.acquire hfree rfl, hsettings.keep (by rw [hs]; rfl),
      heffects.keep (by rw [hs]; rfl), hmemory, sound_update trivial (free hfree i),
      fun hq => hclean (hq.of_update (by rw [hs]; rfl))⟩
  | lockSettings i hs hw hfree =>
    exact ⟨hsave.keep (by rw [hs]; rfl), hsettings.acquire hfree rfl,
      heffects.keep (by rw [hs]; rfl), hmemory, sound_update trivial (alone (by rw [hs]; rfl)),
      fun hq => hclean (hq.of_update (by rw [hs]; rfl))⟩
  | change i hs hw hc =>
    exact ⟨hsave.keep (by rw [hs]; rfl), hsettings.keep (by rw [hs]; rfl),
      heffects.keep (by rw [hs]; rfl), hmemory,
      sound_update (Writer.apply_transaction hw hc) (alone (by rw [hs]; rfl)),
      fun hq => hclean (hq.of_update (by rw [hs]; rfl))⟩
  | changeNothing i hs hw hc =>
    exact ⟨hsave.release (by rw [hs]; rfl) rfl, hsettings.release (by rw [hs]; rfl) rfl,
      heffects.record (by rw [hs]; rfl) rfl,
      foldl_record hmemory (Writer.apply_transaction_nothing hw hc),
      sound_update trivial (alone (by rw [hs]; rfl)),
      fun hq => hclean (hq.of_update (by rw [hs]; rfl))⟩
  | persist i hs =>
    have hi := hsound i
    rw [hs] at hi
    exact ⟨hsave.keep (by rw [hs]; rfl), hsettings.keep (by rw [hs]; rfl),
      heffects.keep (by rw [hs]; rfl), hmemory,
      sound_update ⟨hi, rfl⟩ (alone (by rw [hs]; rfl)), fun hq => absurd hq (not_quiet_update rfl)⟩
  | publish i hs =>
    have hi := hsound i
    rw [hs] at hi
    exact ⟨hsave.release (by rw [hs]; rfl) rfl, hsettings.release (by rw [hs]; rfl) rfl,
      heffects.record (by rw [hs]; rfl) rfl, foldl_record hmemory hi.1,
      sound_update trivial (alone (by rw [hs]; rfl)), fun _ => .inl hi.2⟩
  | check i hs hw hfree hc =>
    exact ⟨hsave.keep (by rw [hs]; rfl), hsettings.keep (by rw [hs]; rfl),
      heffects.keep (by rw [hs]; rfl), hmemory,
      sound_update ⟨_, hw, congrArg Except.toBool hc, fun _ => validateProspectiveSettings_ok hc⟩
        (alone (by rw [hs]; rfl)),
      fun hq => absurd hq (not_quiet_update rfl)⟩
  | reject i hs hw hfree hc =>
    exact ⟨hsave.keep (by rw [hs]; rfl), hsettings.keep (by rw [hs]; rfl),
      heffects.record (by rw [hs]; rfl) rfl,
      foldl_record hmemory (Writer.apply_commit_rejected hw hc),
      sound_update trivial (alone (by rw [hs]; rfl)),
      fun hq => hclean (hq.of_update (by rw [hs]; rfl))⟩
  | persistCommit i hs =>
    have hi := hsound i
    rw [hs] at hi
    obtain ⟨publish, hw, hv, hp⟩ := hi
    exact ⟨hsave.keep (by rw [hs]; rfl), hsettings.keep (by rw [hs]; rfl),
      heffects.keep (by rw [hs]; rfl), hmemory,
      sound_update ⟨publish, hw, hv, fun hq => hp (hq.of_update (by rw [hs]; rfl)), rfl⟩
        (alone (by rw [hs]; rfl)),
      fun hq => absurd hq (not_quiet_update rfl)⟩
  | publishCommit i hs hw hfree =>
    have hi := hsound i
    rw [hs] at hi
    obtain ⟨publish, hw', hv, hp, hd⟩ := hi
    rw [hw] at hw'
    cases hw'
    refine ⟨hsave.keep (by rw [hs]; rfl), hsettings.keep (by rw [hs]; rfl),
      heffects.record (by rw [hs]; rfl) rfl, foldl_record hmemory (Writer.apply_commit hw hv),
      sound_update trivial (alone (by rw [hs]; rfl)), fun hq => .inl ?_⟩
    exact hd.trans (congrArg some (hp (unsaved_quiet hq (by rw [hs]; rfl))))
  | mutate i hs hw hfree hc =>
    have hunsaved : ¬ Quiet (Function.update c.stage i .queued) Stage.unsaved :=
      not_quiet_update rfl
    exact ⟨hsave.keep (by rw [hs]; rfl), hsettings.keep (by rw [hs]; rfl),
      heffects.record (by rw [hs]; rfl) rfl, foldl_record hmemory (Writer.apply_mutate hw hc),
      sound_update trivial fun j hj => (hsound j).mutated (hsettings.free hfree j)
        (Writer.sameRestream_of_mutate hw hc) hunsaved,
      fun hq => absurd hq (not_quiet_update rfl)⟩
  | mutateNothing i hs hw hfree hc =>
    exact ⟨hsave.keep (by rw [hs]; rfl), hsettings.keep (by rw [hs]; rfl),
      heffects.record (by rw [hs]; rfl) rfl,
      foldl_record hmemory (Writer.apply_mutate_nothing hw hc),
      sound_update trivial fun j hj => (hsound j).mono fun hq => hq.of_update (by rw [hs]; rfl),
      fun hq => hclean (hq.of_update (by rw [hs]; rfl))⟩
  | lockQueued i hs hfree =>
    exact ⟨hsave.acquire hfree rfl, hsettings.keep (by rw [hs]; rfl),
      heffects.keep (by rw [hs]; rfl), hmemory, sound_update trivial (free hfree i),
      fun hq => absurd hq (not_quiet_update rfl)⟩
  | clone i hs hfree =>
    exact ⟨hsave.keep (by rw [hs]; rfl), hsettings.keep (by rw [hs]; rfl),
      heffects.keep (by rw [hs]; rfl), hmemory,
      sound_update (fun _ => rfl) (alone (by rw [hs]; rfl)),
      fun hq => absurd hq (not_quiet_update rfl)⟩
  | persistClone i hs =>
    have hi := hsound i
    rw [hs] at hi
    exact ⟨hsave.keep (by rw [hs]; rfl), hsettings.keep (by rw [hs]; rfl),
      heffects.keep (by rw [hs]; rfl), hmemory, sound_update trivial (alone (by rw [hs]; rfl)),
      fun hq => .inl (congrArg some (hi (unsaved_quiet hq (by rw [hs]; rfl))))⟩
  | leave i hs =>
    exact ⟨hsave.release (by rw [hs]; rfl) rfl, hsettings.keep (by rw [hs]; rfl),
      heffects.keep (by rw [hs]; rfl), hmemory, sound_update trivial (alone (by rw [hs]; rfl)),
      fun hq => hclean (hq.of_update (by rw [hs]; rfl))⟩

theorem Inv.run (h : Relation.ReflTransGen (CallStep writer) (.init ι initial) c) :
    Inv writer initial c := by
  induction h with
  | refl => exact inv_init writer initial
  | tail _ hstep ih => exact ih.step hstep

/-- Once every call is done the file holds the settings in memory, which are the initial ones
after the changes of all calls, each once. -/
theorem no_update_lost (h : Relation.ReflTransGen (CallStep writer) (.init ι initial) c)
    (hdone : ∀ i, c.stage i = .done) :
    (c.persisted = some c.memory ∨ c.persisted = none ∧ c.memory = initial) ∧
      ∃ order : List ι, order.Nodup ∧ (∀ i, i ∈ order) ∧
        c.memory = order.foldl (fun s i => (writer i).apply s) initial := by
  have hinv := Inv.run h
  refine ⟨hinv.clean fun i => by rw [hdone i]; rfl, c.order, hinv.effects.nodup, fun i => ?_,
    hinv.memory⟩
  rw [hinv.effects.mem_iff, hdone i]
  rfl

/-- The mute preference and the network mode, written at the same time. -/
def muteAndMode : Bool → Writer
  | true => .setAudioMuted true
  | false => .setNetworkMode .dhcp

/-- The mode is saved while the changed preference waits for the save lock. -/
theorem muteAndMode_saved :
    ∃ c : Calls Bool, (c.persisted = some c.memory ∨
        c.persisted = none ∧ c.memory = .fresh "0123456789abcdef") ∧
      ∃ order : List Bool, order.Nodup ∧ (∀ i, i ∈ order) ∧ c.memory =
        order.foldl (fun s i => (muteAndMode i).apply s) (.fresh "0123456789abcdef") := by
  have h₀ : Relation.ReflTransGen (CallStep muteAndMode)
      (.init Bool (.fresh "0123456789abcdef")) (.init Bool (.fresh "0123456789abcdef")) := .refl
  have h₁ := h₀.tail (.lockSave false rfl nofun rfl)
  have h₂ := h₁.tail (.mutate true rfl rfl rfl rfl)
  have h₃ := h₂.tail (.lockSettings false rfl rfl rfl)
  have h₄ := h₃.tail (.change false rfl rfl rfl)
  have h₅ := h₄.tail (.persist false rfl)
  have h₆ := h₅.tail (.publish false rfl)
  have h₇ := h₆.tail (.lockQueued true rfl rfl)
  have h₈ := h₇.tail (.clone true rfl rfl)
  have h₉ := h₈.tail (.persistClone true rfl)
  have h := h₉.tail (.leave true rfl)
  exact ⟨_, no_update_lost h (by rintro (_ | _) <;> rfl)⟩

end PocketStream
