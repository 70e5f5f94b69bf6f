import PocketStream.Streaming.PlaybackService

/-! # The lifecycle of a pipeline

The holder of the gate alone builds, installs and retires pipelines, and it
remembers what it saw when it compared the installed one. A pipeline is installed
into an empty slot, so that one at most is alive and a recording ends with the
pipeline it was reserved for. A stop outlives every build that was under way when
it claimed its epoch.
-/

namespace PocketStream

open Foundation

namespace Playback

/-- The pipeline in the hands of the gate's holder. -/
def Gated.holds : Gated → Option ℕ
  | .retireDetach _ pipeline _ => pipeline
  | .finalPath _ _ _ pipeline | .play _ _ _ pipeline _ | .install _ _ _ pipeline => some pipeline
  | _ => none

/-- The recording's path in the hands of the gate's holder. -/
def Gated.heldPath : Gated → Option String
  | .retireDetach _ _ path | .retireReport _ path _ => path
  | _ => none

/-- The stages at which no pipeline is installed. -/
def Gated.emptied : Gated → Bool
  | .retireDetach .. | .retireReport .. | .retired .. | .attempt .. | .build .. | .finalPath ..
  | .play .. | .install .. => true
  | _ => false

namespace Host

variable {s s' : Host} {input : Input}

/-- A pipeline that is not retired for what the snapshot says has no retry scheduled. -/
def Quiet (s : Host) (a : Attempt) (pipeline : Option ℕ) (snap : PlaybackHealth) : Prop :=
  pipeline.isSome = true → s.playbackInstance = some (a.epoch, snap.generation) →
    snap.active = true → (s.healths a.health).nextRetry = none

/-- The record is inactive if the snapshot was. -/
def Seen (s : Host) (a : Attempt) (snap : PlaybackHealth) : Prop :=
  a.health < s.healthCount ∧ (snap.active = false → (s.healths a.health).active = false)

def SeenAfter (s : Host) : After → Prop
  | .stop => True
  | .step a snap => s.Seen a snap

/-- The attempt of the generation is under way. -/
def Begun (s : Host) (a : Attempt) (generation : UInt64) : Prop :=
  a.health < s.healthCount ∧ (s.healths a.health).generation = generation

/-- What the holder of the gate knows at a stage. -/
def Watch (s : Host) : Gated → Prop
  | .detachRecording _ path | .clearRecording path =>
    ∀ held, s.recordingPath = some held → held = path
  | .current a | .selection a | .adapter a _ | .installed a => a.health < s.healthCount
  | .preflight a pipeline | .checked a pipeline _ | .ready a pipeline _ =>
    a.health < s.healthCount ∧ pipeline = s.playback
  | .compare a pipeline snap =>
    s.Seen a snap ∧ pipeline = s.playback ∧ s.Quiet a pipeline snap
  | .retireTake after | .retireDetach after _ _ | .retireReport after _ _ => s.SeenAfter after
  | .retired a snap => s.Seen a snap
  | .attempt a generation | .build a generation _ => s.Begun a generation
  | .finalPath a generation _ pipeline | .play a generation _ pipeline _
  | .install a generation _ pipeline =>
    s.Begun a generation ∧ (s.pipelines pipeline).builtEpoch = a.epoch
  | _ => True

structure Records (s : Host) : Prop where
  settled : ∀ health, (s.healths health).Settled
  allocated : ∀ health, s.playbackHealth = some health → health < s.healthCount
  watch : s.Watch s.gate

/-- The records change as pipelines and users change them. -/
structure Ages (s s' : Host) : Prop where
  count : s.healthCount ≤ s'.healthCount
  generation : ∀ health < s.healthCount,
    (s'.healths health).generation = (s.healths health).generation
  active : ∀ health < s.healthCount, (s.healths health).active = false →
    (s'.healths health).active = false

theorem Ages.seen {a : Attempt} {snap : PlaybackHealth} (h : Ages s s') (hs : s.Seen a snap) :
    s'.Seen a snap :=
  ⟨Nat.lt_of_lt_of_le hs.1 h.count, fun hdown => h.active _ hs.1 (hs.2 hdown)⟩

theorem Ages.begun {a : Attempt} {generation : UInt64} (h : Ages s s')
    (hb : s.Begun a generation) : s'.Begun a generation :=
  ⟨Nat.lt_of_lt_of_le hb.1 h.count, (h.generation _ hb.1).trans hb.2⟩

theorem Watch.mono {g : Gated} (hw : s.Watch g) (h : Ages s s')
    (hplayback : s'.playback = s.playback) (hpath : s'.recordingPath = s.recordingPath)
    (hpipelines : s'.pipelines = s.pipelines)
    (hquiet : ∀ a pipeline snap, g = .compare a pipeline snap → s.Seen a snap →
      s.Quiet a pipeline snap → s'.Quiet a pipeline snap) : s'.Watch g := by
  cases g with
  | detachRecording | clearRecording => exact fun held hheld => hw held (hpath ▸ hheld)
  | current | selection | adapter | installed => exact Nat.lt_of_lt_of_le hw h.count
  | preflight | checked | ready =>
    exact ⟨Nat.lt_of_lt_of_le hw.1 h.count, hw.2.trans hplayback.symm⟩
  | compare a pipeline snap =>
    exact ⟨h.seen hw.1, hw.2.1.trans hplayback.symm, hquiet a pipeline snap rfl hw.1 hw.2.2⟩
  | retireTake after | retireDetach after | retireReport after =>
    cases after with
    | stop => trivial
    | step => exact h.seen hw
  | retired => exact h.seen hw
  | attempt | build => exact h.begun hw
  | finalPath | play | install => exact ⟨h.begun hw.1, by rw [hpipelines]; exact hw.2⟩
  | idle | stopCheck | stopSource | reserve | rollback | stopRecording | intent => trivial

theorem Quiet.mono {a : Attempt} {pipeline : Option ℕ} {snap : PlaybackHealth}
    (h : s.Quiet a pipeline snap) (hinstance : s'.playbackInstance = s.playbackInstance)
    (hnext : (s.healths a.health).nextRetry = none → (s'.healths a.health).nextRetry = none) :
    s'.Quiet a pipeline snap :=
  fun hsome hi ha => hnext (h hsome (hinstance ▸ hi) ha)

theorem healths_onHealth (s : Host) (health k : ℕ) (f : PlaybackHealth → PlaybackHealth) :
    (s.onHealth health f).healths k =
      if k = health then f (s.healths k) else s.healths k := by
  by_cases h : k = health
  · simp [onHealth, h]
  · simp [onHealth, h]

theorem settled_onHealth {health : ℕ} {f : PlaybackHealth → PlaybackHealth}
    (h : ∀ k, (s.healths k).Settled) (hf : (f (s.healths health)).Settled) (k : ℕ) :
    ((s.onHealth health f).healths k).Settled := by
  rw [healths_onHealth]
  split
  · next heq => exact heq ▸ hf
  · exact h k

theorem ages_of_healths (hh : s'.healths = s.healths) (hc : s'.healthCount = s.healthCount) :
    Ages s s' :=
  ⟨Nat.le_of_eq hc.symm, fun _ _ => by rw [hh], fun _ _ => by rw [hh]; exact id⟩

theorem ages_onHealth {health : ℕ} {f : PlaybackHealth → PlaybackHealth}
    (hg : (f (s.healths health)).generation = (s.healths health).generation)
    (ha : (s.healths health).active = false → (f (s.healths health)).active = false)
    (hh : s'.healths = (s.onHealth health f).healths) (hc : s'.healthCount = s.healthCount) :
    Ages s s' := by
  refine ⟨Nat.le_of_eq hc.symm, fun k _ => ?_, fun k _ hdown => ?_⟩
  · rw [hh, healths_onHealth]
    split
    · next heq => rw [heq, hg]
    · rfl
  · rw [hh, healths_onHealth]
    split
    · next heq =>
      rw [heq] at hdown ⊢
      exact ha hdown
    · exact hdown

/-- A step of the gate's holder that changes no health record. -/
theorem Records.move (h : s.Records) (hh : s'.healths = s.healths)
    (hc : s'.healthCount = s.healthCount) (hp : s'.playbackHealth = s.playbackHealth)
    (hw : s'.Watch s'.gate) : s'.Records where
  settled k := by
    rw [hh]
    exact h.settled k
  allocated k hk := by
    rw [hc]
    exact h.allocated k (hp ▸ hk)
  watch := hw

/-- A step that changes one health record. -/
theorem Records.change {health : ℕ} {f : PlaybackHealth → PlaybackHealth} (h : s.Records)
    (hf : (f (s.healths health)).Settled) (hh : s'.healths = (s.onHealth health f).healths)
    (hc : s'.healthCount = s.healthCount) (hp : s'.playbackHealth = s.playbackHealth)
    (hw : s'.Watch s'.gate) : s'.Records where
  settled k := by
    rw [hh]
    exact settled_onHealth h.settled hf k
  allocated k hk := by
    rw [hc]
    exact h.allocated k (hp ▸ hk)
  watch := hw

theorem settled_failAttempt {h : PlaybackHealth} {generation : UInt64} {fault : PlaybackFault}
    (hg : h.generation = generation) (now : ℕ) :
    ((h.recordFault generation fault).scheduleRecovery now).Settled := by
  apply PlaybackHealth.settled_of_inactive
  rw [PlaybackHealth.scheduleRecovery_active]
  exact PlaybackHealth.recordFault_inactive hg

/-- Every record follows from what it was. -/
def Drifts (s s' : Host) : Prop := ∀ health, (s.healths health).Follows (s'.healths health)

theorem drifts_onHealth {health : ℕ} {f : PlaybackHealth → PlaybackHealth}
    (hf : (s.healths health).Follows (f (s.healths health))) : Drifts s (s.onHealth health f) := by
  intro k
  rw [healths_onHealth]
  split
  · next heq => exact heq ▸ hf
  · exact PlaybackHealth.follows_refl

theorem Drifts.trans {s₁ : Host} (h : Drifts s s₁) (h' : Drifts s₁ s') : Drifts s s' :=
  fun health => (h health).trans (h' health)

theorem Drifts.ages (h : Drifts s s') (hc : s'.healthCount = s.healthCount) : Ages s s' :=
  ⟨Nat.le_of_eq hc.symm, fun k _ => (h k).generation, fun k _ => (h k).active⟩

theorem Records.drift (h : s.Records) (hd : Drifts s s') (hc : s'.healthCount = s.healthCount)
    (hp : s'.playbackHealth = s.playbackHealth) (hw : s'.Watch s'.gate) : s'.Records where
  settled k := (h.settled k).follows (hd k)
  allocated k hk := by
    rw [hc]
    exact h.allocated k (hp ▸ hk)
  watch := hw

/-- A health check changes the record of the pipeline alone. -/
theorem checkHealth_eq (s : Host) (a : Attempt) (pipeline : Option ℕ) :
    ∃ healths, s.checkHealth a pipeline =
        { s with healths := healths, gate := .compare a pipeline (healths a.health) } ∧
      ∀ k, (s.healths k).Follows (healths k) := by
  cases pipeline with
  | none => exact ⟨s.healths, rfl, fun _ => PlaybackHealth.follows_refl⟩
  | some p =>
    have hd : Drifts s (s.onHealth (s.pipelines p).health fun h =>
        (h.watchdog s.now STALL_THRESHOLD).2) := drifts_onHealth PlaybackHealth.follows_watchdog
    exact ⟨_, rfl, hd⟩

theorem updateReadiness_eq (s : Host) (a : Attempt) (pipeline : Option ℕ)
    (result : Except String (Option ReadyPath)) :
    ∃ healths ready, s.updateReadiness a pipeline result =
        { s with healths := healths, playbackReady := ready } ∧
      ∀ k, (s.healths k).Follows (healths k) := by
  -- one more change of the attempt's record
  have hmore : ∀ {s₁ : Host} (f : PlaybackHealth → PlaybackHealth),
      (∃ healths ready, s₁ = { s with healths := healths, playbackReady := ready } ∧
        ∀ k, (s.healths k).Follows (healths k)) → (∀ h : PlaybackHealth, h.Follows (f h)) →
      ∃ healths ready, s₁.onHealth a.health f =
          { s with healths := healths, playbackReady := ready } ∧
        ∀ k, (s.healths k).Follows (healths k) := by
    rintro s₁ f ⟨healths, ready, rfl, hd⟩ hf
    refine ⟨_, ready, rfl, fun k => (hd k).trans ?_⟩
    exact drifts_onHealth (s := { s with healths := healths, playbackReady := ready }) (hf _) k
  have hready : ∀ ready, ∃ healths ready', { s with playbackReady := ready } =
        { s with healths := healths, playbackReady := ready' } ∧
      ∀ k, (s.healths k).Follows (healths k) :=
    fun ready => ⟨s.healths, ready, rfl, fun _ => PlaybackHealth.follows_refl⟩
  have hwake : ∀ (c : Bool) (h : PlaybackHealth), h.Follows (if c then h.wakeReady s.now else h) := by
    intro c h
    cases c
    · exact PlaybackHealth.follows_refl
    · exact PlaybackHealth.follows_wakeReady
  unfold updateReadiness
  dsimp only
  split
  · exact hmore _ (hready _) (hwake _)
  · exact hmore _ (hmore _ (hready _) (hwake _)) fun _ => PlaybackHealth.follows_recordFault

theorem beginDue_quiet {a : Attempt} {snap : PlaybackHealth} (hup : snap.active = true)
    (hnext : (s.healths a.health).nextRetry = none) :
    s.beginDue a snap = { s with gate := .idle } := by
  unfold beginDue
  split
  · rfl
  · simp [hup, PlaybackHealth.due, hnext]

/-- The step ends, or an attempt begins. -/
theorem beginDue_eq {a : Attempt} {snap : PlaybackHealth} (h : s.Records) (hseen : s.Seen a snap) :
    ∃ healths gate, s.beginDue a snap = { s with healths := healths, gate := gate } ∧
      (∀ k, (healths k).Settled) ∧
      (gate = .idle ∨ ∃ generation, gate = .attempt a generation ∧
        (healths a.health).generation = generation) := by
  unfold beginDue
  split
  · exact ⟨s.healths, .idle, rfl, h.settled, .inl rfl⟩
  · -- a recovery is scheduled only for a record that is not active
    have hs : ∀ k, (((if snap.active = false ∧ snap.nextRetry = none then
        s.onHealth a.health (·.scheduleRecovery s.now) else s).healths) k).Settled := by
      split
      · next hdown =>
        refine settled_onHealth h.settled (PlaybackHealth.settled_of_inactive ?_)
        rw [PlaybackHealth.scheduleRecovery_active]
        exact hseen.2 hdown.1
      · exact h.settled
    have hsame : ∃ healths, (if snap.active = false ∧ snap.nextRetry = none then
        s.onHealth a.health (·.scheduleRecovery s.now) else s) =
          { s with healths := healths } := by
      split
      · exact ⟨_, rfl⟩
      · exact ⟨_, rfl⟩
    obtain ⟨healths, heq⟩ := hsame
    rw [heq] at hs ⊢
    dsimp only
    split
    · refine ⟨_, _, rfl, ?_, .inr ⟨_, rfl, rfl⟩⟩
      exact settled_onHealth (s := { s with healths := healths }) hs
        PlaybackHealth.settled_beginAttempt
    · exact ⟨healths, .idle, rfl, hs, .inl rfl⟩

/-! ### What a step of the gate's holder does -/

/-- The slot, the recording and the pipelines stay as they are. -/
structure SameSlot (s s' : Host) : Prop where
  playback : s'.playback = s.playback
  placed : s'.playbackInstance = s.playbackInstance
  recording : s'.recording = s.recording
  recordingPath : s'.recordingPath = s.recordingPath
  recordingOn : s'.recordingOn = s.recordingOn
  attached : s'.attached = s.attached
  reported : s'.reported = s.reported
  alive : ∀ p, (s'.pipelines p).alive = (s.pipelines p).alive

/-- The intent and the calls that wait stay as they are. -/
structure SameIntent (s s' : Host) : Prop where
  epoch : s'.epoch = s.epoch
  intent : s'.playbackIntentEpoch = s.playbackIntentEpoch
  settings : s'.playbackSettings = s.playbackSettings
  pending : s'.pending = s.pending
  startedSince : s'.startedSince = s.startedSince

end Host

/-- What goes on after a pipeline is retired. -/
def Gated.afterRetired : Gated → Bool
  | .stopSource | .retired .. => true
  | _ => false

def Gated.stops : Gated → Bool
  | .stopCheck _ | .retireTake _ => true
  | _ => false

namespace Host

variable {s s' : Host} {input : Input}

inductive Advances (s : Host) : Host → Prop where
  | keep {s' : Host} (hslot : SameSlot s s') (hintent : SameIntent s s')
      (hholds : s'.gate.holds = s.gate.holds) (hpath : s'.gate.heldPath = s.gate.heldPath)
      (hempty : s'.gate.emptied = true → s.gate.emptied = true ∨ s.playback = none)
      (hroll : s'.gate ≠ .rollback) (hstops : s.gate.stops = false) : Advances s s'
  | checkStop {stopEpoch : ℕ} {gate : Gated} (hgate : s.gate = .stopCheck stopEpoch)
      (hnext : gate = .retireTake .stop ∨
        gate = .stopSource ∧ ∃ e g, s.playbackInstance = some (e, g) ∧ stopEpoch ≤ e) :
      Advances s { s with gate := gate }
  | takeRecording {after : After} (hgate : s.gate = .retireTake after)
      (hrecording : s.recording = true) : Advances s { s with
        recording := false
        recordingPath := none
        playbackInstance := none
        playback := none
        gate := .retireDetach after s.playback s.recordingPath }
  | take {after : After} {gate : Gated} (hgate : s.gate = .retireTake after)
      (hrecording : s.recording = false) (hnext : gate.afterRetired = true) :
      Advances s { s.stopPipeline s.playback with
        recording := false
        recordingPath := none
        playbackInstance := none
        playback := none
        gate := gate }
  | detach {after : After} {pipeline : Option ℕ} {path : Option String}
      {finalized : Except String Unit} (hgate : s.gate = .retireDetach after pipeline path) :
      Advances s { s.stopPipeline pipeline with gate := .retireReport after path finalized }
  | tell {after : After} {path report : Option String} {finalized : Except String Unit}
      {gate : Gated} (hgate : s.gate = .retireReport after path finalized)
      (hnext : gate.afterRetired = true) : Advances s { s with
        recordingReport := report
        recordingFinalizedPath := path
        reported := path.toList ++ s.reported
        gate := gate }
  | reserve {path : String} {p : ℕ} (hgate : s.gate = .reserve path)
      (hrecording : s.recording = false) (hp : s.playback = some p) :
      Advances s { s.onPipeline p ({ · with branch := some path }) with
        recordingReport := none
        recordingFinalizedPath := none
        recording := true
        recordingPath := some path
        recordingOn := some p
        gate := .idle
        attached := path :: s.attached }
  | reserveFailed {path : String} {p : ℕ} (hgate : s.gate = .reserve path)
      (hrecording : s.recording = false) (hp : s.playback = some p) : Advances s { s with
        recordingReport := none
        recordingFinalizedPath := none
        recording := true
        recordingPath := some path
        recordingOn := some p
        gate := .rollback }
  | rollback (hgate : s.gate = .rollback) :
      Advances s { s with gate := .idle, recording := false, recordingPath := none }
  | clear {path : String} (hgate : s.gate = .clearRecording path)
      (hpath : ∀ held, s.recordingPath = some held → held = path) : Advances s { s with
        gate := .idle
        recording := false
        recordingPath := none
        reported := path :: s.reported }
  | adapterChanged {a : Attempt} {identity : AdapterIdentity} {healths : ℕ → PlaybackHealth}
      (hgate : s.gate = .adapter a identity) (hepoch : s.epoch = a.epoch)
      (hintent : s.playbackIntentEpoch = some a.epoch) : Advances s { s with
        healths := healths
        epoch := nextEpoch a.epoch
        playbackIntentEpoch := some (nextEpoch a.epoch)
        playbackAdapter := some identity
        gate := .installed { a with epoch := nextEpoch a.epoch } }
  | build {a : Attempt} {generation : UInt64} {path : Option ReadyPath}
      (hgate : s.gate = .build a generation path) : Advances s { s with
        pipelines := Function.update s.pipelines s.pipelineCount
          ⟨a.health, generation, s.epoch, true, none⟩
        pipelineCount := s.pipelineCount + 1
        gate := .finalPath a generation path s.pipelineCount }
  | discard {p : ℕ} {healths : ℕ → PlaybackHealth} (hholds : s.gate.holds = some p)
      (hpath : s.gate.heldPath = none) (hstops : s.gate.stops = false) : Advances s
        { s.stopPipeline (some p) with healths := healths, gate := .idle }
  | install {a : Attempt} {generation : UInt64} {path : Option ReadyPath} {p : ℕ}
      {target : Option CameraTarget} (hgate : s.gate = .install a generation path p)
      (hepoch : s.epoch = a.epoch) (hintent : s.playbackIntentEpoch = some a.epoch)
      (hbuilt : (s.pipelines p).builtEpoch = a.epoch) :
      Advances s { s.stopPipeline s.playback with
        playbackTarget := target
        playback := some p
        playbackInstance := some (a.epoch, generation)
        gate := .idle }

/-- A step that moves the gate and touches only what no invariant reads. -/
theorem Advances.of_eq {g g' : Gated} {healths : ℕ → PlaybackHealth}
    {ready : Option (UInt32 × Ipv4Addr)} {adapter : Option AdapterIdentity}
    {source : Option SourceMode} {report finalized : Option String} (hgate : s.gate = g)
    (heq : s' = { s with
      healths := healths
      playbackReady := ready
      playbackAdapter := adapter
      source := source
      recordingReport := report
      recordingFinalizedPath := finalized
      gate := g' })
    (hholds : g'.holds = g.holds) (hpath : g'.heldPath = g.heldPath)
    (hempty : g'.emptied = true → g.emptied = true ∨ s.playback = none) (hroll : g' ≠ .rollback)
    (hstops : g.stops = false) : Advances s s' := by
  subst heq hgate
  exact .keep ⟨rfl, rfl, rfl, rfl, rfl, rfl, rfl, fun _ => rfl⟩ ⟨rfl, rfl, rfl, rfl, rfl⟩ hholds hpath
    hempty hroll hstops

/-- A step after which the gate is free again. -/
theorem Advances.free {g : Gated} {healths : ℕ → PlaybackHealth} (hgate : s.gate = g)
    (heq : s' = { s with healths := healths, gate := .idle }) (hholds : g.holds = none)
    (hpath : g.heldPath = none) (hstops : g.stops = false) : Advances s s' :=
  .of_eq hgate heq hholds.symm hpath.symm nofun nofun hstops

theorem stop_step {stopEpoch : ℕ} (h : s.Records) (hgate : s.gate = .stopCheck stopEpoch) :
    let gate := if s.playbackInstance.all (·.1 < stopEpoch) then Gated.retireTake .stop
      else .stopSource
    Records { s with gate := gate } ∧ Advances s { s with gate := gate } := by
  dsimp only
  split
  · exact ⟨h.move rfl rfl rfl trivial, .checkStop hgate (.inl rfl)⟩
  · next hnot =>
    refine ⟨h.move rfl rfl rfl trivial, .checkStop hgate (.inr ⟨rfl, ?_⟩)⟩
    cases hi : s.playbackInstance with
    | none => simp [hi] at hnot
    | some i => exact ⟨i.1, i.2, rfl, by simpa [hi] using hnot⟩

theorem afterRetire_eq (s : Host) (after : After) :
    ∃ gate, s.afterRetire after = { s with gate := gate } ∧ gate.afterRetired = true ∧
      (s.SeenAfter after → s.Watch gate) := by
  cases after with
  | stop => exact ⟨_, rfl, rfl, fun _ => trivial⟩
  | step a snap => exact ⟨_, rfl, rfl, id⟩

theorem isCurrent_epoch {a : Attempt} (h : s.isCurrent a = true) : s.epoch = a.epoch := by
  simp only [isCurrent, Bool.and_eq_true, beq_iff_eq] at h
  exact h.1.1.1

/-- The tail of a step, with the slot empty. -/
theorem due_step {a : Attempt} {snap : PlaybackHealth} {g : Gated} (h : s.Records)
    (hgate : s.gate = g) (hseen : s.Seen a snap) (hholds : g.holds = none)
    (hpath : g.heldPath = none) (hempty : g.emptied = true ∨ s.playback = none)
    (hstops : g.stops = false) :
    (s.beginDue a snap).Records ∧ Advances s (s.beginDue a snap) := by
  obtain ⟨healths, gate, heq, hsettled, hnext⟩ := beginDue_eq h hseen
  rw [heq]
  obtain rfl | ⟨generation, rfl, hgeneration⟩ := hnext
  · exact ⟨⟨hsettled, h.allocated, trivial⟩, .free hgate rfl hholds hpath hstops⟩
  · exact ⟨⟨hsettled, h.allocated, hseen.1, hgeneration⟩,
      .of_eq hgate rfl hholds.symm hpath.symm (fun _ => hempty) nofun hstops⟩

/-- A pipeline that stays installed has no attempt due. -/
theorem compare_step {a : Attempt} {pipeline : Option ℕ} {snap : PlaybackHealth} (h : s.Records)
    (hgate : s.gate = .compare a pipeline snap) (hseen : s.Seen a snap)
    (hpipeline : pipeline = s.playback) (hquiet : s.Quiet a pipeline snap)
    (hkept : ¬(pipeline.isSome ∧
      (s.playbackInstance ≠ some (a.epoch, snap.generation) ∨ snap.active = false))) :
    (s.beginDue a snap).Records ∧ Advances s (s.beginDue a snap) := by
  cases hp : pipeline with
  | none => exact due_step h hgate hseen rfl rfl (.inr (hpipeline.symm.trans hp)) rfl
  | some p =>
    have hsome : pipeline.isSome = true := by simp [hp]
    obtain ⟨hplaced, hup⟩ := not_or.mp fun hlost => hkept ⟨hsome, hlost⟩
    have hup : snap.active = true := by simpa using hup
    rw [beginDue_quiet hup (hquiet hsome (not_not.mp hplaced) hup)]
    exact ⟨h.move rfl rfl rfl trivial, .free hgate rfl rfl rfl rfl⟩

/-- An attempt of the generation meets a fault, and the gate is free again. -/
theorem Records.fail {a : Attempt} {generation : UInt64} {reason : String} (h : s.Records)
    (hbegun : s.Begun a generation) (hh : s'.healths = (s.failAttempt a generation reason).healths)
    (hc : s'.healthCount = s.healthCount) (hp : s'.playbackHealth = s.playbackHealth)
    (hgate : s'.gate = .idle) : s'.Records := by
  apply h.change _ hh hc hp
  · rw [hgate]
    trivial
  · exact settled_failAttempt hbegun.2 s.now

/-- A pipeline that was built is given up. -/
theorem discard_step {a : Attempt} {generation : UInt64} {p : ℕ} {reason : String} {g : Gated}
    (h : s.Records) (hgate : s.gate = g) (hholds : g.holds = some p) (hpath : g.heldPath = none)
    (hstops : g.stops = false) (hbegun : s.Begun a generation) :
    let s' := { (s.failAttempt a generation reason).stopPipeline (some p) with gate := .idle }
    s'.Records ∧ Advances s s' := by
  subst hgate
  exact ⟨h.fail hbegun rfl rfl rfl rfl, .discard hholds hpath hstops⟩

theorem play_step {a : Attempt} {generation : UInt64} {path : Option ReadyPath} {p : ℕ}
    {final : Except String (Option ReadyPath)} {result : Except String Unit} (h : s.Records)
    (hgate : s.gate = .play a generation path p final)
    (hwatch : s.Watch (.play a generation path p final)) :
    let started := s.onHealth a.health (·.pipelineStarted s.now generation)
    let played := match result with
      | .ok () => started
      | .error reason =>
        started.onHealth a.health (·.recordFault generation (configuration reason))
    let s' := { played with gate := .install a generation path p }
    s'.Records ∧ Advances s s' := by
  have hstarted : Drifts s (s.onHealth a.health (·.pipelineStarted s.now generation)) :=
    drifts_onHealth PlaybackHealth.follows_pipelineStarted
  cases result with
  | ok =>
    have hages := Drifts.ages hstarted rfl
    exact ⟨h.drift hstarted rfl rfl ⟨hages.begun hwatch.1, hwatch.2⟩,
      .of_eq hgate rfl rfl rfl (fun _ => .inl rfl) nofun rfl⟩
  | error reason =>
    have hfailed : Drifts _ ((s.onHealth a.health (·.pipelineStarted s.now generation)).onHealth
        a.health (·.recordFault generation (configuration reason))) :=
      drifts_onHealth PlaybackHealth.follows_recordFault
    have hd := hstarted.trans hfailed
    have hages := Drifts.ages hd rfl
    exact ⟨h.drift hd rfl rfl ⟨hages.begun hwatch.1, hwatch.2⟩,
      .of_eq hgate rfl rfl rfl (fun _ => .inl rfl) nofun rfl⟩

theorem advance_step (h : s.Records) (hs : s.advance input = some s') :
    s'.Records ∧ Advances s s' := by
  have hwatch := h.watch
  unfold advance at hs
  dsimp only at hs
  split at hs
  · next stopEpoch hgate =>
    obtain rfl := Option.some.inj hs
    exact stop_step h hgate
  · next hgate =>
    obtain rfl := Option.some.inj hs
    exact ⟨h.move rfl rfl rfl trivial, .of_eq hgate rfl rfl rfl nofun nofun rfl⟩
  · next after hgate =>
    rw [hgate] at hwatch
    obtain rfl := Option.some.inj hs
    split
    · next hrecording => exact ⟨h.move rfl rfl rfl hwatch, .takeRecording hgate hrecording⟩
    · next hnot =>
      obtain ⟨gate, heq, hafter, hseen⟩ := afterRetire_eq (stopPipeline { s with
        recording := false, recordingPath := none, playbackInstance := none, playback := none }
        s.playback) after
      rw [heq]
      exact ⟨h.move rfl rfl rfl (hseen hwatch), .take hgate (by simpa using hnot) hafter⟩
  · next after pipeline path result hgate =>
    rw [hgate] at hwatch
    obtain rfl := Option.some.inj hs
    exact ⟨h.move rfl rfl rfl hwatch, .detach hgate⟩
  · next after path finalized hgate =>
    rw [hgate] at hwatch
    obtain rfl := Option.some.inj hs
    obtain ⟨gate, heq, hafter, hseen⟩ := afterRetire_eq { s with
      recordingReport := some (finalizeReport after finalized)
      recordingFinalizedPath := path
      reported := path.toList ++ s.reported } after
    rw [heq]
    exact ⟨h.move rfl rfl rfl (hseen hwatch), .tell hgate hafter⟩
  · next path result hgate =>
    split at hs
    · obtain rfl := Option.some.inj hs
      exact ⟨h.move rfl rfl rfl trivial, .free hgate rfl rfl rfl rfl⟩
    · next hnot =>
      have hrecording : s.recording = false := by
        cases hr : s.recording <;> simp [hr] at hnot ⊢
      split at hs
      · obtain rfl := Option.some.inj hs
        exact ⟨h.move rfl rfl rfl trivial, .of_eq hgate rfl rfl rfl nofun nofun rfl⟩
      · next p hp =>
        split at hs <;> obtain rfl := Option.some.inj hs
        · exact ⟨h.move rfl rfl rfl trivial, .reserve hgate hrecording hp⟩
        · exact ⟨h.move rfl rfl rfl trivial, .reserveFailed hgate hrecording hp⟩
  · next hgate =>
    obtain rfl := Option.some.inj hs
    exact ⟨h.move rfl rfl rfl trivial, .rollback hgate⟩
  · next hgate =>
    split at hs
    · next p hrecording hp =>
      obtain rfl := Option.some.inj hs
      refine ⟨h.move rfl rfl rfl ?_, .of_eq hgate rfl rfl rfl nofun nofun rfl⟩
      intro held hheld
      simp [show s.recordingPath = some held from hheld]
    · obtain rfl := Option.some.inj hs
      exact ⟨h.move rfl rfl rfl trivial, .free hgate rfl rfl rfl rfl⟩
  · next p path result hgate =>
    rw [hgate] at hwatch
    split at hs <;> obtain rfl := Option.some.inj hs
    · exact ⟨h.move rfl rfl rfl trivial, .free hgate rfl rfl rfl rfl⟩
    · refine ⟨h.move rfl rfl rfl hwatch, .keep ⟨rfl, rfl, rfl, rfl, rfl, rfl, rfl, fun k => ?_⟩
        ⟨rfl, rfl, rfl, rfl, rfl⟩ ?_ ?_ nofun nofun ?_⟩
      · by_cases hk : k = p
        · simp [onPipeline, hk]
        · simp [onPipeline, hk]
      · rw [hgate]; rfl
      · rw [hgate]; rfl
      · rw [hgate]; rfl
  · next path hgate =>
    rw [hgate] at hwatch
    obtain rfl := Option.some.inj hs
    exact ⟨h.move rfl rfl rfl trivial, .clear hgate hwatch⟩
  · next hgate =>
    split at hs <;> obtain rfl := Option.some.inj hs
    · next epoch health settings hi hh hst =>
      exact ⟨h.move rfl rfl rfl (h.allocated health hh),
        .of_eq hgate rfl rfl rfl nofun nofun rfl⟩
    · exact ⟨h.move rfl rfl rfl trivial, .free hgate rfl rfl rfl rfl⟩
  · next a hgate =>
    rw [hgate] at hwatch
    obtain rfl := Option.some.inj hs
    split
    · split
      · exact ⟨h.move rfl rfl rfl hwatch, .of_eq hgate rfl rfl rfl nofun nofun rfl⟩
      · exact ⟨h.move rfl rfl rfl hwatch, .of_eq hgate rfl rfl rfl nofun nofun rfl⟩
    · exact ⟨h.move rfl rfl rfl trivial, .free hgate rfl rfl rfl rfl⟩
  · next a identity hgate =>
    rw [hgate] at hwatch
    obtain rfl := Option.some.inj hs
    split
    · exact ⟨h.move rfl rfl rfl hwatch, .of_eq hgate rfl rfl rfl nofun nofun rfl⟩
    · exact ⟨h.move rfl rfl rfl hwatch, .of_eq hgate rfl rfl rfl nofun nofun rfl⟩
  · next a identity hgate =>
    rw [hgate] at hwatch
    split at hs
    · obtain rfl := Option.some.inj hs
      exact ⟨h.move rfl rfl rfl trivial, .free hgate rfl rfl rfl rfl⟩
    · next hcurrent =>
      obtain ⟨hepoch, hintent⟩ := not_or.mp hcurrent
      split at hs <;> obtain rfl := Option.some.inj hs
      · refine ⟨?_, .adapterChanged hgate (not_not.mp hepoch) (not_not.mp hintent)⟩
        refine h.drift ?_ rfl rfl hwatch
        exact drifts_onHealth PlaybackHealth.follows_recordFault
      · exact ⟨h.move rfl rfl rfl hwatch, .of_eq hgate rfl rfl rfl nofun nofun rfl⟩
  · next a hgate =>
    rw [hgate] at hwatch
    obtain rfl := Option.some.inj hs
    split
    · exact ⟨h.move rfl rfl rfl ⟨hwatch, rfl⟩, .of_eq hgate rfl rfl rfl nofun nofun rfl⟩
    · obtain ⟨healths, heq, hd⟩ := checkHealth_eq s a s.playback
      rw [heq]
      refine ⟨h.drift hd rfl rfl ⟨⟨hwatch, id⟩, rfl, fun _ _ => ?_⟩,
        .of_eq hgate rfl rfl rfl nofun nofun rfl⟩
      exact (h.settled _).follows (hd _)
  · next a pipeline result hgate =>
    rw [hgate] at hwatch
    obtain rfl := Option.some.inj hs
    exact ⟨h.move rfl rfl rfl hwatch, .of_eq hgate rfl rfl rfl nofun nofun rfl⟩
  · next a pipeline result hgate =>
    rw [hgate] at hwatch
    obtain rfl := Option.some.inj hs
    split
    · exact ⟨h.move rfl rfl rfl hwatch, .of_eq hgate rfl rfl rfl nofun nofun rfl⟩
    · exact ⟨h.move rfl rfl rfl trivial, .free hgate rfl rfl rfl rfl⟩
  · next a pipeline result hgate =>
    rw [hgate] at hwatch
    obtain rfl := Option.some.inj hs
    obtain ⟨healths, ready, heq, hd⟩ := updateReadiness_eq s a pipeline result
    rw [heq]
    obtain ⟨healths', heq', hd'⟩ := checkHealth_eq
      { s with healths := healths, playbackReady := ready } a pipeline
    rw [heq']
    have hdrift := fun k => (hd k).trans (hd' k)
    refine ⟨h.drift hdrift rfl rfl ⟨⟨hwatch.1, id⟩, hwatch.2, fun _ _ => ?_⟩,
      .of_eq hgate rfl rfl rfl nofun nofun rfl⟩
    exact (h.settled _).follows (hdrift _)
  · next a pipeline snap hgate =>
    rw [hgate] at hwatch
    obtain ⟨hseen, hpipeline, hquiet⟩ := hwatch
    obtain rfl := Option.some.inj hs
    split
    · exact ⟨h.move rfl rfl rfl hseen, .of_eq hgate rfl rfl rfl nofun nofun rfl⟩
    · next hkept =>
      exact compare_step h hgate hseen hpipeline hquiet hkept
  · next a snap hgate =>
    rw [hgate] at hwatch
    obtain rfl := Option.some.inj hs
    split
    · exact due_step h hgate hwatch rfl rfl (.inl rfl) rfl
    · exact ⟨h.move rfl rfl rfl trivial, .free hgate rfl rfl rfl rfl⟩
  · next a generation result hgate =>
    rw [hgate] at hwatch
    obtain rfl := Option.some.inj hs
    split
    · exact ⟨h.fail hwatch rfl rfl rfl rfl, .free hgate rfl rfl rfl rfl⟩
    · exact ⟨h.move rfl rfl rfl hwatch, .of_eq hgate rfl rfl rfl (fun _ => .inl rfl) nofun rfl⟩
  · next a generation path result hgate =>
    rw [hgate] at hwatch
    split at hs
    · next hcurrent =>
      split at hs <;> obtain rfl := Option.some.inj hs
      · refine ⟨h.drift ?_ rfl rfl trivial, .free hgate rfl rfl rfl rfl⟩
        exact drifts_onHealth PlaybackHealth.follows_recordFault
      · exact ⟨h.move rfl rfl rfl ⟨hwatch, by simpa using isCurrent_epoch hcurrent⟩, .build hgate⟩
    · obtain rfl := Option.some.inj hs
      exact ⟨h.move rfl rfl rfl trivial, .free hgate rfl rfl rfl rfl⟩
  · next a generation path p result hgate =>
    rw [hgate] at hwatch
    obtain rfl := Option.some.inj hs
    exact ⟨h.move rfl rfl rfl hwatch, .of_eq hgate rfl rfl rfl (fun _ => .inl rfl) nofun rfl⟩
  · next a generation path p final stale result hgate =>
    rw [hgate] at hwatch
    split at hs
    · obtain rfl := Option.some.inj hs
      exact discard_step h hgate rfl rfl rfl hwatch.1
    · split at hs
      · obtain rfl := Option.some.inj hs
        exact discard_step h hgate rfl rfl rfl hwatch.1
      · obtain rfl := Option.some.inj hs
        exact play_step h hgate hwatch
  · next a generation path p stale hgate =>
    rw [hgate] at hwatch
    split at hs
    · obtain rfl := Option.some.inj hs
      exact discard_step h hgate rfl rfl rfl hwatch.1
    · next hcurrent =>
      obtain rfl := Option.some.inj hs
      obtain ⟨hepoch, hrest⟩ := not_or.mp hcurrent
      refine ⟨h.move rfl rfl rfl trivial, .install hgate (not_not.mp hepoch)
        (not_not.mp (not_or.mp hrest).1) hwatch.2⟩
  · cases hs

end Host

end Playback

end PocketStream
