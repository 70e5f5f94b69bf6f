import PocketStream.Streaming.PlaybackLifecycle

/-! # The owner of a pipeline

The calls outside the gate leave the slot alone, so whatever the holder of the
gate knows stays true, with one exception: a manual retry that reaches the health
record after the supervisor has read it. A pipeline that is alive is then installed
or in the hands of the gate's holder.
-/

namespace PocketStream

open Foundation

namespace Playback

/-- The stages at which a call or a step enters. -/
def Gated.entered : Gated → Bool
  | .stopCheck _ | .reserve _ | .stopRecording | .intent => true
  | _ => false

/-- The holder of the gate is a call, not the supervisor. -/
def Gated.serves : Gated → Bool
  | .stopCheck _ | .stopSource | .retireTake .stop | .retireDetach .stop .. | .retireReport .stop ..
  | .reserve _ | .rollback | .stopRecording | .detachRecording .. | .clearRecording _ => true
  | _ => false

namespace Host

variable {s s' : Host} {call : Call}

/-- A retry schedules an attempt for the pipeline that the supervisor is about to keep: it has
read the record while it was active, and a fault has come since. -/
def rearms (s : Host) (manual : Bool) (settings : Option AppSettings) : Bool :=
  match s.gate with
  | .compare a (some _) snap =>
    manual && snap.active && s.playbackHealth == some a.health &&
      s.playbackInstance == some (a.epoch, snap.generation) &&
      ((s.healths a.health).state == .failed || (s.healths a.health).state == .recovering) &&
      (s.corrections manual settings).isNone
  | _ => false

def Pending.withdraws (intent : Option ℕ) : Pending → Bool
  | .clear stopEpoch => intent.any (· < stopEpoch)
  | _ => false

/-- A retry publishes corrected settings while a stop is about to withdraw the old ones. -/
def revives (s : Host) (manual : Bool) (settings : Option AppSettings) : Bool :=
  (s.corrections manual settings).isSome && s.pending.any (Pending.withdraws s.playbackIntentEpoch)

/-- The next epoch would not be above the last. -/
def wraps (s : Host) : Bool := decide (2 ^ 64 ≤ s.epoch + 1)

def disturbs (s : Host) : Call → Bool
  | .stop | .advance _ => s.wraps
  | .resume (.retry requestedEpoch manual settings) _ =>
    s.wraps || s.epoch == requestedEpoch && (s.rearms manual settings || s.revives manual settings)
  | .resume _ _ => s.wraps
  | _ => false

/-! ### The calls outside the gate -/

/-- The slot stays, and the gate is left alone or entered. -/
structure Others (s s' : Host) : Prop where
  slot : SameSlot s s'
  pipelines : s'.pipelines = s.pipelines
  gate : s'.gate = s.gate ∨ s.gate = .idle ∧ s'.gate.entered = true

theorem resumeStart_cases (s : Host) (startEpoch : ℕ) (settings : AppSettings) (relay : RelayData) :
    s.resumeStart startEpoch settings relay = s ∨
    s.epoch = startEpoch ∧ s.resumeStart startEpoch settings relay =
      { s.publish settings (nextEpoch startEpoch) with
        playbackTarget := streamTarget settings
        playbackAdapter := none
        playbackReady := none
        source := some (playbackSource settings) } := by
  unfold resumeStart
  dsimp only
  split
  · exact .inl rfl
  · split
    · exact .inl rfl
    · split
      · exact .inl rfl
      · next heq => exact .inr ⟨not_not.mp heq, rfl⟩

theorem resumeRetry_cases (s : Host) (requestedEpoch : ℕ) (manual : Bool)
    (settings : Option AppSettings) :
    s.resumeRetry requestedEpoch manual settings = s ∨
    s.epoch = requestedEpoch ∧
      ((∃ desired, s.corrections manual settings = some desired ∧
          s.resumeRetry requestedEpoch manual settings =
            (s.publish desired (nextEpoch requestedEpoch)).onHealth s.healthCount
              fun h => if manual then h.retry s.now else h.wakeReady s.now) ∨
        ∃ health, s.corrections manual settings = none ∧ s.playbackHealth = some health ∧
          s.resumeRetry requestedEpoch manual settings =
            s.onHealth health fun h => if manual then h.retry s.now else h.wakeReady s.now) := by
  unfold resumeRetry
  split
  · exact .inl rfl
  · next heq =>
    cases hc : s.corrections manual settings with
    | some desired => exact .inr ⟨not_not.mp heq, .inl ⟨desired, rfl, rfl⟩⟩
    | none =>
      cases hh : s.playbackHealth with
      | none => simp [hh]
      | some health => exact .inr ⟨not_not.mp heq, .inr ⟨health, rfl, rfl, by simp [hh]⟩⟩

theorem resumeClear_cases (s : Host) (stopEpoch : ℕ) :
    (s.resumeClear stopEpoch = s ∧ ∃ e, s.playbackIntentEpoch = some e ∧ stopEpoch ≤ e) ∨
    s.resumeClear stopEpoch = { s.stopHealth with
      playbackHealth := none
      playbackSettings := none
      playbackIntentEpoch := none
      playbackTarget := none
      playbackAdapter := none
      playbackReady := none } := by
  unfold resumeClear
  split
  · exact .inr rfl
  · next hnot =>
    cases hi : s.playbackIntentEpoch with
    | none => simp [hi] at hnot
    | some e => exact .inl ⟨rfl, e, rfl, by simpa [hi] using hnot⟩

theorem sameSlot_of_eq (hplayback : s'.playback = s.playback)
    (hplaced : s'.playbackInstance = s.playbackInstance) (hrecording : s'.recording = s.recording)
    (hpath : s'.recordingPath = s.recordingPath) (hon : s'.recordingOn = s.recordingOn)
    (hattached : s'.attached = s.attached) (hreported : s'.reported = s.reported)
    (hpipelines : s'.pipelines = s.pipelines) (hgate : s'.gate = s.gate) : Others s s' :=
  ⟨⟨hplayback, hplaced, hrecording, hpath, hon, hattached, hreported, fun _ => by rw [hpipelines]⟩,
    hpipelines, .inl hgate⟩

theorem others_enter {stage : Gated} (hs : s.enter stage = some s')
    (hstage : stage.entered = true) : s' = { s with gate := stage } ∧ s.gate = .idle ∧
      Others s s' := by
  unfold enter at hs
  split at hs
  · next hidle =>
    obtain rfl := Option.some.inj hs
    exact ⟨rfl, hidle, ⟨rfl, rfl, rfl, rfl, rfl, rfl, rfl, fun _ => rfl⟩, rfl, .inr ⟨hidle, hstage⟩⟩
  · cases hs

/-- What a waiting call does to the state it finds. -/
theorem resume_cases {waiting : Pending} {relay : RelayData}
    (hs : s.resume waiting relay = some s') : waiting ∈ s.pending ∧
      let erased := { s with pending := s.pending.erase waiting }
      match waiting with
      | .start startEpoch settings => s' = erased.resumeStart startEpoch settings relay
      | .retry requestedEpoch manual settings =>
        s' = erased.resumeRetry requestedEpoch manual settings
      | .clear stopEpoch => s' = { erased.resumeClear stopEpoch with
          pending := .retire stopEpoch :: erased.pending }
      | .retire stopEpoch => s.gate = .idle ∧ s' = { erased with gate := .stopCheck stopEpoch } := by
  unfold resume at hs
  split at hs
  · next hmem =>
    refine ⟨hmem, ?_⟩
    cases waiting with
    | start | retry | clear => exact (Option.some.inj hs).symm
    | retire stopEpoch =>
      dsimp only at hs
      split at hs
      · next hidle => exact ⟨hidle, (Option.some.inj hs).symm⟩
      · cases hs
  · cases hs

theorem others_resumeStart (s : Host) (startEpoch : ℕ) (settings : AppSettings)
    (relay : RelayData) : Others s (s.resumeStart startEpoch settings relay) := by
  obtain heq | ⟨-, heq⟩ := resumeStart_cases s startEpoch settings relay
  · rw [heq]; exact sameSlot_of_eq rfl rfl rfl rfl rfl rfl rfl rfl rfl
  · rw [heq]; exact sameSlot_of_eq rfl rfl rfl rfl rfl rfl rfl rfl rfl

theorem others_resumeRetry (s : Host) (requestedEpoch : ℕ) (manual : Bool)
    (settings : Option AppSettings) :
    Others s (s.resumeRetry requestedEpoch manual settings) := by
  obtain heq | ⟨-, ⟨desired, -, heq⟩ | ⟨health, -, -, heq⟩⟩ :=
    resumeRetry_cases s requestedEpoch manual settings
  · rw [heq]; exact sameSlot_of_eq rfl rfl rfl rfl rfl rfl rfl rfl rfl
  · rw [heq]; exact sameSlot_of_eq rfl rfl rfl rfl rfl rfl rfl rfl rfl
  · rw [heq]; exact sameSlot_of_eq rfl rfl rfl rfl rfl rfl rfl rfl rfl

theorem others_resumeClear (s : Host) (stopEpoch : ℕ) : Others s (s.resumeClear stopEpoch) := by
  obtain ⟨heq, -⟩ | heq := resumeClear_cases s stopEpoch
  · rw [heq]; exact sameSlot_of_eq rfl rfl rfl rfl rfl rfl rfl rfl rfl
  · rw [heq]; exact sameSlot_of_eq rfl rfl rfl rfl rfl rfl rfl rfl rfl

theorem Others.erased {waiting : List Pending} (ho : Others { s with pending := waiting } s') :
    Others s s' :=
  ⟨⟨ho.slot.playback, ho.slot.placed, ho.slot.recording, ho.slot.recordingPath,
    ho.slot.recordingOn, ho.slot.attached, ho.slot.reported, ho.slot.alive⟩, ho.pipelines, ho.gate⟩

theorem Others.queued (ho : Others s s') (waiting : List Pending) :
    Others s { s' with pending := waiting } :=
  ⟨⟨ho.slot.playback, ho.slot.placed, ho.slot.recording, ho.slot.recordingPath,
    ho.slot.recordingOn, ho.slot.attached, ho.slot.reported, ho.slot.alive⟩, ho.pipelines, ho.gate⟩

theorem others_resume {waiting : Pending} {relay : RelayData}
    (hs : s.resume waiting relay = some s') : Others s s' := by
  obtain ⟨-, hcase⟩ := resume_cases hs
  cases waiting with
  | start startEpoch settings =>
    rw [show s' = _ from hcase]
    exact (others_resumeStart _ startEpoch settings relay).erased
  | retry requestedEpoch manual settings =>
    rw [show s' = _ from hcase]
    exact (others_resumeRetry _ requestedEpoch manual settings).erased
  | clear stopEpoch =>
    rw [show s' = _ from hcase]
    exact (others_resumeClear _ stopEpoch).erased.queued _
  | retire stopEpoch =>
    obtain ⟨hidle, rfl⟩ := hcase
    exact ⟨⟨rfl, rfl, rfl, rfl, rfl, rfl, rfl, fun _ => rfl⟩, rfl, .inr ⟨hidle, rfl⟩⟩

/-! ### The records -/

/-- The records change outside the gate, and a pipeline that is kept gets no attempt. -/
theorem Records.other (h : s.Records) (ho : Others s s') (hages : Ages s s')
    (hsettled : ∀ k, (s'.healths k).Settled)
    (hallocated : ∀ health, s'.playbackHealth = some health → health < s'.healthCount)
    (hnext : ∀ a pipeline snap, s.gate = .compare a pipeline snap → s.Seen a snap →
      s.Quiet a pipeline snap → s'.Quiet a pipeline snap) : s'.Records := by
  refine ⟨hsettled, hallocated, ?_⟩
  obtain hgate | ⟨-, hentered⟩ := ho.gate
  · rw [hgate]
    exact h.watch.mono hages ho.slot.playback ho.slot.recordingPath ho.pipelines hnext
  · revert hentered
    cases s'.gate <;> first | exact fun _ => trivial | exact nofun

/-- The records stay, or follow from what they were. -/
theorem Records.others (h : s.Records) (ho : Others s s') (hd : Drifts s s')
    (hc : s'.healthCount = s.healthCount)
    (hp : s'.playbackHealth = s.playbackHealth ∨ s'.playbackHealth = none) : s'.Records := by
  apply h.other ho (hd.ages hc)
  · exact fun k => (h.settled k).follows (hd k)
  · intro health hk
    rw [hc]
    obtain hsame | hnone := hp
    · exact h.allocated health (hsame ▸ hk)
    · cases hnone.symm.trans hk
  · exact fun a _ _ _ _ hq => hq.mono ho.slot.placed (hd _).nextRetry

theorem drifts_refl (hh : s'.healths = s.healths) : Drifts s s' :=
  fun _ => hh ▸ PlaybackHealth.follows_refl

theorem drifts_stopHealth (s : Host) : Drifts s s.stopHealth := by
  unfold stopHealth
  cases s.playbackHealth with
  | none => exact drifts_refl rfl
  | some health => exact drifts_onHealth PlaybackHealth.follows_stop

theorem healths_publish (s : Host) (settings : AppSettings) (epoch k : ℕ) :
    (s.publish settings epoch).healths k =
      if k = s.healthCount then .new s.now else s.stopHealth.healths k := by
  by_cases hk : k = s.healthCount
  · simp [publish, hk]
  · simp [publish, hk]

theorem ages_publish (s : Host) (settings : AppSettings) (epoch : ℕ) :
    Ages s (s.publish settings epoch) := by
  refine ⟨Nat.le_succ _, fun k hk => ?_, fun k hk hdown => ?_⟩
  · rw [healths_publish, if_neg (Nat.ne_of_lt hk)]
    exact (drifts_stopHealth s k).generation
  · rw [healths_publish, if_neg (Nat.ne_of_lt hk)]
    exact (drifts_stopHealth s k).active hdown

theorem settled_publish (h : s.Records) (settings : AppSettings) (epoch k : ℕ) :
    ((s.publish settings epoch).healths k).Settled := by
  rw [healths_publish]
  split
  · exact PlaybackHealth.settled_new
  · exact (h.settled k).follows (drifts_stopHealth s k)

/-- A new intent comes with a record of its own. -/
theorem Records.published {settings : AppSettings} {epoch : ℕ} (h : s.Records)
    (ho : Others s s') (hages : Ages (s.publish settings epoch) s')
    (hsettled : ∀ k, (s'.healths k).Settled)
    (hold : ∀ k < s.healthCount, s'.healths k = (s.publish settings epoch).healths k)
    (hp : s'.playbackHealth = some s.healthCount) : s'.Records := by
  have hfirst := ages_publish s settings epoch
  apply h.other ho
  · exact ⟨hfirst.count.trans hages.count,
      fun k hk => (hages.generation k (Nat.lt_of_lt_of_le hk hfirst.count)).trans
        (hfirst.generation k hk),
      fun k hk hdown => hages.active k (Nat.lt_of_lt_of_le hk hfirst.count)
        (hfirst.active k hk hdown)⟩
  · exact hsettled
  · intro health hk
    obtain rfl := Option.some.inj (hp.symm.trans hk)
    exact hages.count
  · intro a _ snap _ hseen hq
    refine hq.mono ho.slot.placed fun hnone => ?_
    rw [hold _ hseen.1, healths_publish, if_neg (Nat.ne_of_lt hseen.1)]
    exact (drifts_stopHealth s _).nextRetry hnone

theorem generation_prompt (h : PlaybackHealth) (manual : Bool) (now : ℕ) :
    (if manual then h.retry now else h.wakeReady now).generation = h.generation := by
  cases manual
  · exact PlaybackHealth.follows_wakeReady.generation
  · simp only [if_true, PlaybackHealth.retry]
    split <;> rfl

theorem active_prompt {h : PlaybackHealth} (manual : Bool) (now : ℕ) (hdown : h.active = false) :
    (if manual then h.retry now else h.wakeReady now).active = false := by
  cases manual
  · exact PlaybackHealth.follows_wakeReady.active hdown
  · simp only [if_true, PlaybackHealth.retry]
    split
    · rfl
    · exact hdown

theorem settled_prompt {h : PlaybackHealth} (manual : Bool) (now : ℕ) (hs : h.Settled) :
    (if manual then h.retry now else h.wakeReady now).Settled := by
  cases manual
  · exact hs.follows PlaybackHealth.follows_wakeReady
  · exact PlaybackHealth.settled_retry hs

theorem ages_prompt (s : Host) (health : ℕ) (manual : Bool) (now : ℕ) :
    Ages s (s.onHealth health fun h => if manual then h.retry now else h.wakeReady now) :=
  ages_onHealth (generation_prompt ..) (active_prompt manual now) rfl rfl

/-- A retry of the record in force gives no attempt to a pipeline that is kept, unless it
rearms it. -/
theorem quiet_prompt {a : Attempt} {pipeline : Option ℕ} {snap : PlaybackHealth} {manual : Bool}
    {settings : Option AppSettings} {health : ℕ} (hgate : s.gate = .compare a pipeline snap)
    (hc : s.corrections manual settings = none) (hp : s.playbackHealth = some health)
    (hcalm : s.rearms manual settings = false) (hq : s.Quiet a pipeline snap) :
    Quiet (s.onHealth health fun h => if manual then h.retry s.now else h.wakeReady s.now)
      a pipeline snap := by
  intro hsome hplaced hup
  rw [healths_onHealth]
  split
  · next heq =>
    subst heq
    cases manual with
    | false => exact PlaybackHealth.follows_wakeReady.nextRetry (hq hsome hplaced hup)
    | true =>
      obtain ⟨p, rfl⟩ := Option.isSome_iff_exists.mp hsome
      have hplaced : s.playbackInstance = some (a.epoch, snap.generation) := hplaced
      have hstill : ¬((s.healths a.health).state = .failed ∨
          (s.healths a.health).state = .recovering) := by
        simpa [rearms, hgate, hup, hp, hplaced, hc] using hcalm
      simp only [if_true, PlaybackHealth.retry, if_neg hstill]
      exact hq hsome hplaced hup
  · exact hq hsome hplaced hup

theorem records_resumeStart (h : s.Records) (startEpoch : ℕ) (settings : AppSettings)
    (relay : RelayData) : (s.resumeStart startEpoch settings relay).Records := by
  have ho := others_resumeStart s startEpoch settings relay
  obtain heq | ⟨-, heq⟩ := resumeStart_cases s startEpoch settings relay
  · rw [heq]
    exact h
  · rw [heq] at ho ⊢
    have hages : Ages (s.publish settings (nextEpoch startEpoch))
        { s.publish settings (nextEpoch startEpoch) with
          playbackTarget := streamTarget settings
          playbackAdapter := none
          playbackReady := none
          source := some (playbackSource settings) } := ages_of_healths rfl rfl
    have hsettled := settled_publish h settings (nextEpoch startEpoch)
    exact h.published ho hages hsettled (fun _ _ => rfl) rfl

theorem records_resumeRetry (h : s.Records) (requestedEpoch : ℕ) (manual : Bool)
    (settings : Option AppSettings)
    (hcalm : s.epoch = requestedEpoch → s.rearms manual settings = false) :
    (s.resumeRetry requestedEpoch manual settings).Records := by
  have ho := others_resumeRetry s requestedEpoch manual settings
  obtain heq | ⟨hepoch, ⟨desired, -, heq⟩ | ⟨health, hc, hp, heq⟩⟩ :=
    resumeRetry_cases s requestedEpoch manual settings
  · rw [heq]
    exact h
  · rw [heq] at ho ⊢
    have hfirst := settled_publish h desired (nextEpoch requestedEpoch)
    apply h.published ho (ages_prompt ..)
    · exact settled_onHealth hfirst (settled_prompt manual _ (hfirst _))
    · intro k hk
      rw [healths_onHealth, if_neg (Nat.ne_of_lt hk)]
    · rfl
  · rw [heq] at ho ⊢
    apply h.other ho (ages_prompt ..)
    · exact settled_onHealth h.settled (settled_prompt manual _ (h.settled _))
    · exact h.allocated
    · exact fun a pipeline snap hgate _ hq => quiet_prompt hgate hc hp (hcalm hepoch) hq

theorem records_resumeClear (h : s.Records) (stopEpoch : ℕ) :
    (s.resumeClear stopEpoch).Records := by
  have ho := others_resumeClear s stopEpoch
  obtain ⟨heq, -⟩ | heq := resumeClear_cases s stopEpoch
  · rw [heq]
    exact h
  · rw [heq] at ho ⊢
    exact h.others ho (drifts_stopHealth s) rfl (.inr rfl)

theorem Records.waits (h : s.Records) (waiting : List Pending) :
    Records { s with pending := waiting } :=
  h.others (sameSlot_of_eq rfl rfl rfl rfl rfl rfl rfl rfl rfl) (drifts_refl rfl) rfl (.inl rfl)

theorem records_resume {waiting : Pending} {relay : RelayData} (h : s.Records)
    (hcalm : s.disturbs (.resume waiting relay) = false)
    (hs : s.resume waiting relay = some s') : s'.Records := by
  have ho := others_resume hs
  obtain ⟨-, hcase⟩ := resume_cases hs
  have herased := h.waits (s.pending.erase waiting)
  cases waiting with
  | start startEpoch settings =>
    rw [show s' = _ from hcase]
    exact records_resumeStart herased startEpoch settings relay
  | retry requestedEpoch manual settings =>
    rw [show s' = _ from hcase]
    apply records_resumeRetry herased requestedEpoch manual settings
    intro hepoch
    have hepoch : s.epoch = requestedEpoch := hepoch
    simp only [disturbs, hepoch, BEq.rfl, Bool.true_and, Bool.or_eq_false_iff] at hcalm
    exact hcalm.2.1
  | clear stopEpoch =>
    rw [show s' = _ from hcase]
    exact (records_resumeClear herased stopEpoch).waits _
  | retire stopEpoch =>
    obtain ⟨-, rfl⟩ := hcase
    exact h.others ho (drifts_refl rfl) rfl (.inl rfl)

/-- A step that no retry disturbs keeps what the holder of the gate knows. -/
theorem Records.step (h : s.Records) (hcalm : s.disturbs call = false)
    (hs : s.step call = some s') : s'.Records := by
  cases call with
  | start | retry | stop | tick =>
    obtain rfl := Option.some.inj hs
    exact h.others (sameSlot_of_eq rfl rfl rfl rfl rfl rfl rfl rfl rfl) (drifts_refl rfl) rfl
      (.inl rfl)
  | startRecording | stopRecording | step =>
    obtain ⟨rfl, -, ho⟩ := others_enter hs rfl
    exact h.others ho (drifts_refl rfl) rfl (.inl rfl)
  | resume waiting relay => exact records_resume h hcalm hs
  | advance input => exact (advance_step h hs).1
  | buffer pipeline =>
    simp only [Host.step] at hs
    split at hs
    · obtain rfl := Option.some.inj hs
      exact h.others (sameSlot_of_eq rfl rfl rfl rfl rfl rfl rfl rfl rfl)
        (drifts_onHealth PlaybackHealth.follows_observeBuffer) rfl (.inl rfl)
    · cases hs
  | fault pipeline fault =>
    simp only [Host.step] at hs
    split at hs
    · obtain rfl := Option.some.inj hs
      exact h.others (sameSlot_of_eq rfl rfl rfl rfl rfl rfl rfl rfl rfl)
        (drifts_onHealth PlaybackHealth.follows_recordFault) rfl (.inl rfl)
    · cases hs

/-- The slot changes in the hands of the gate's holder alone. -/
theorem step_slot (h : s.Records) (hs : s.step call = some s') :
    Advances s s' ∨ Others s s' := by
  cases call with
  | start | retry | stop | tick =>
    obtain rfl := Option.some.inj hs
    exact .inr (sameSlot_of_eq rfl rfl rfl rfl rfl rfl rfl rfl rfl)
  | startRecording | stopRecording | step => exact .inr (others_enter hs rfl).2.2
  | resume waiting relay => exact .inr (others_resume hs)
  | advance input => exact .inl (advance_step h hs).2
  | buffer | fault =>
    simp only [Host.step] at hs
    split at hs
    · obtain rfl := Option.some.inj hs
      exact .inr (sameSlot_of_eq rfl rfl rfl rfl rfl rfl rfl rfl rfl)
    · cases hs

/-! ### The slot -/

/-- A pipeline that is alive is installed or in the hands of the gate's holder. -/
structure Owned (s : Host) : Prop where
  alive : ∀ p, (s.pipelines p).alive = true → s.playback = some p ∨ s.gate.holds = some p
  emptied : s.gate.emptied = true → s.playback = none
  placed : s.playbackInstance = none ↔ s.playback = none
  recording : s.recording = true → ∃ p, s.playback = some p ∧ s.recordingOn = some p
  named : s.recording = false → s.recordingPath = none
  attached : ∀ path ∈ s.attached,
    path ∈ s.reported ∨ s.recordingPath = some path ∨ s.gate.heldPath = some path
  rollback : s.gate = .rollback → ∀ path ∈ s.attached, path ∈ s.reported

theorem alive_stopPipeline {pipeline : Option ℕ} {p : ℕ} :
    ((s.stopPipeline pipeline).pipelines p).alive = true ↔
      (s.pipelines p).alive = true ∧ pipeline ≠ some p := by
  cases pipeline with
  | none => simp [stopPipeline]
  | some q =>
    by_cases h : p = q
    · simp [stopPipeline, onPipeline, h]
    · simp [stopPipeline, onPipeline, h, Ne.symm h]

theorem entered_holds {g : Gated} (h : g.entered = true) :
    g.holds = none ∧ g.heldPath = none ∧ g.emptied = false ∧ g ≠ .rollback := by
  revert h
  cases g <;> simp [Gated.entered, Gated.holds, Gated.heldPath, Gated.emptied]

theorem afterRetired_holds {g : Gated} (h : g.afterRetired = true) :
    g.holds = none ∧ g.heldPath = none ∧ g ≠ .rollback := by
  revert h
  cases g <;> simp [Gated.afterRetired, Gated.holds, Gated.heldPath]

/-- The slot stays, and what the holder of the gate holds. -/
theorem Owned.kept (h : s.Owned) (hslot : SameSlot s s') (hholds : s'.gate.holds = s.gate.holds)
    (hpath : s'.gate.heldPath = s.gate.heldPath)
    (hempty : s'.gate.emptied = true → s.playback = none)
    (hroll : s'.gate = .rollback → s.gate = .rollback) : s'.Owned where
  alive p hp := by
    rw [hslot.playback, hholds]
    exact h.alive p (hslot.alive p ▸ hp)
  emptied he := hslot.playback.trans (hempty he)
  placed := by
    rw [hslot.placed, hslot.playback]
    exact h.placed
  recording hr := by
    rw [hslot.playback, hslot.recordingOn]
    exact h.recording (hslot.recording ▸ hr)
  named hr := hslot.recordingPath.trans (h.named (hslot.recording ▸ hr))
  attached path hp := by
    rw [hslot.reported, hslot.recordingPath, hpath]
    exact h.attached path (hslot.attached ▸ hp)
  rollback hg path hp := by
    rw [hslot.reported]
    exact h.rollback (hroll hg) path (hslot.attached ▸ hp)

theorem Owned.others (h : s.Owned) (ho : Others s s') : s'.Owned := by
  obtain hgate | ⟨hidle, hentered⟩ := ho.gate
  · apply h.kept ho.slot
    · rw [hgate]
    · rw [hgate]
    · rw [hgate]; exact h.emptied
    · rw [hgate]; exact id
  · obtain ⟨hholds, hpath, hempty, hroll⟩ := entered_holds hentered
    apply h.kept ho.slot
    · rw [hholds, hidle]; rfl
    · rw [hpath, hidle]; rfl
    · rw [hempty]; exact nofun
    · exact fun hg => absurd hg hroll

/-- The slot is emptied. -/
theorem Owned.taken (h : s.Owned) {after : After} {gate : Gated}
    (hgate : s.gate = .retireTake after) (hrecording : s.recording = false)
    (hnext : gate.afterRetired = true) : Owned { s.stopPipeline s.playback with
      recording := false
      recordingPath := none
      playbackInstance := none
      playback := none
      gate := gate } where
  alive p hp := by
    obtain ⟨hup, hne⟩ := alive_stopPipeline.mp hp
    obtain hslot | hheld := h.alive p hup
    · exact absurd hslot hne
    · simp [hgate, Gated.holds] at hheld
  emptied _ := rfl
  placed := by simp
  recording := nofun
  named _ := rfl
  attached path hp := by
    have hpath := h.attached path hp
    rw [h.named hrecording, hgate] at hpath
    have hreported : path ∈ s.reported := by simpa [Gated.heldPath] using hpath
    exact .inl hreported
  rollback hg := absurd hg (afterRetired_holds hnext).2.2

theorem Owned.takenRecording (h : s.Owned) {after : After} (hgate : s.gate = .retireTake after) :
    Owned { s with
      recording := false
      recordingPath := none
      playbackInstance := none
      playback := none
      gate := .retireDetach after s.playback s.recordingPath } where
  alive p hp := by
    obtain hslot | hheld := h.alive p hp
    · exact .inr hslot
    · simp [hgate, Gated.holds] at hheld
  emptied _ := rfl
  placed := by simp
  recording := nofun
  named _ := rfl
  attached path hp := by
    obtain hreported | hpath | hheld := h.attached path hp
    · exact .inl hreported
    · exact .inr (.inr hpath)
    · simp [hgate, Gated.heldPath] at hheld
  rollback := nofun

theorem Owned.detached (h : s.Owned) {after : After} {pipeline : Option ℕ} {path : Option String}
    {finalized : Except String Unit} (hgate : s.gate = .retireDetach after pipeline path) :
    Owned { s.stopPipeline pipeline with gate := .retireReport after path finalized } where
  alive p hp := by
    obtain ⟨hup, hne⟩ := alive_stopPipeline.mp hp
    obtain hslot | hheld := h.alive p hup
    · exact .inl hslot
    · rw [hgate] at hheld
      exact absurd hheld hne
  emptied _ := h.emptied (by rw [hgate]; rfl)
  placed := h.placed
  recording := h.recording
  named := h.named
  attached := by
    have hattached := h.attached
    rw [hgate] at hattached
    exact hattached
  rollback := nofun

theorem Owned.told (h : s.Owned) {after : After} {path report : Option String}
    {finalized : Except String Unit} {gate : Gated}
    (hgate : s.gate = .retireReport after path finalized) (hnext : gate.afterRetired = true) :
    Owned { s with
      recordingReport := report
      recordingFinalizedPath := path
      reported := path.toList ++ s.reported
      gate := gate } where
  alive p hp := by
    obtain hslot | hheld := h.alive p hp
    · exact .inl hslot
    · simp [hgate, Gated.holds] at hheld
  emptied _ := h.emptied (by rw [hgate]; rfl)
  placed := h.placed
  recording := h.recording
  named := h.named
  attached held hheld := by
    obtain hreported | hpath | hpath := h.attached held hheld
    · exact .inl (List.mem_append_right _ hreported)
    · exact .inr (.inl hpath)
    · rw [hgate] at hpath
      have hpath : path = some held := hpath
      left
      simp [hpath]
  rollback hg := absurd hg (afterRetired_holds hnext).2.2

/-- The recording ends, and its path was told. -/
theorem Owned.ended (h : s.Owned) {gate : Gated} {reported : List String}
    (hholds : s.gate.holds = none) (hgate : gate = .idle)
    (htold : ∀ path ∈ s.attached, path ∈ reported) : Owned { s with
      gate := gate
      recording := false
      recordingPath := none
      reported := reported } where
  alive p hp := by
    obtain hslot | hheld := h.alive p hp
    · exact .inl hslot
    · cases hholds.symm.trans hheld
  emptied := by subst hgate; exact nofun
  placed := h.placed
  recording := nofun
  named _ := rfl
  attached path hp := .inl (htold path hp)
  rollback _ := htold

/-- Nothing that was attached is held while no recording is on. -/
theorem Owned.all_reported (h : s.Owned) (hrecording : s.recording = false)
    (hpath : s.gate.heldPath = none) : ∀ path ∈ s.attached, path ∈ s.reported := by
  intro path hp
  have hcases := h.attached path hp
  rw [h.named hrecording, hpath] at hcases
  simpa using hcases

theorem Owned.reserved (h : s.Owned) {path : String} {p : ℕ} {gate : Gated}
    {pipelines : ℕ → Pipeline} {attached : List String} (hgate : s.gate = .reserve path)
    (hp : s.playback = some p)
    (halive : ∀ q, (pipelines q).alive = true → (s.pipelines q).alive = true)
    (hnext : gate.holds = none ∧ gate.emptied = false ∧ gate.heldPath = none)
    (hattached : ∀ held ∈ attached, held ∈ s.reported ∨ some path = some held)
    (hroll : gate = .rollback → ∀ held ∈ attached, held ∈ s.reported) : Owned { s with
      pipelines := pipelines
      recordingReport := none
      recordingFinalizedPath := none
      recording := true
      recordingPath := some path
      recordingOn := some p
      gate := gate
      attached := attached } where
  alive q hq := by
    obtain hslot | hheld := h.alive q (halive q hq)
    · exact .inl hslot
    · simp [hgate, Gated.holds] at hheld
  emptied he := by cases hnext.2.1.symm.trans he
  placed := h.placed
  recording _ := ⟨p, hp, rfl⟩
  named := nofun
  attached held hheld := (hattached held hheld).imp_right .inl
  rollback := hroll

theorem Owned.built (h : s.Owned) {a : Attempt} {generation : UInt64} {path : Option ReadyPath}
    {pipeline : Pipeline} (hgate : s.gate = .build a generation path) : Owned { s with
      pipelines := Function.update s.pipelines s.pipelineCount pipeline
      pipelineCount := s.pipelineCount + 1
      gate := .finalPath a generation path s.pipelineCount } where
  alive p hp := by
    right
    by_cases hnew : p = s.pipelineCount
    · rw [hnew]
      rfl
    · -- no other pipeline is alive, since the slot is empty
      simp only [Function.update_of_ne hnew] at hp
      have hold := h.alive p hp
      rw [h.emptied (by rw [hgate]; rfl), hgate] at hold
      simp [Gated.holds] at hold
  emptied _ := h.emptied (by rw [hgate]; rfl)
  placed := h.placed
  recording := h.recording
  named := h.named
  attached := by
    have hattached := h.attached
    rw [hgate] at hattached
    exact hattached
  rollback := nofun

theorem Owned.discarded (h : s.Owned) {p : ℕ} {healths : ℕ → PlaybackHealth}
    (hholds : s.gate.holds = some p) (hpath : s.gate.heldPath = none) :
    Owned { s.stopPipeline (some p) with healths := healths, gate := .idle } where
  alive q hq := by
    have hq : ((s.stopPipeline (some p)).pipelines q).alive = true := hq
    obtain ⟨hup, hne⟩ := alive_stopPipeline.mp hq
    obtain hslot | hheld := h.alive q hup
    · exact .inl hslot
    · exact absurd (hholds.symm.trans hheld) hne
  emptied := nofun
  placed := h.placed
  recording := h.recording
  named := h.named
  attached := by
    have hattached := h.attached
    rw [hpath] at hattached
    exact hattached
  rollback := nofun

/-- A pipeline is installed into an empty slot, so nothing is being recorded. -/
theorem Owned.installed (h : s.Owned) {a : Attempt} {generation : UInt64}
    {path : Option ReadyPath} {p : ℕ} {target : Option CameraTarget}
    (hgate : s.gate = .install a generation path p) : Owned { s.stopPipeline s.playback with
      playbackTarget := target
      playback := some p
      playbackInstance := some (a.epoch, generation)
      gate := .idle } := by
  have hempty := h.emptied (by rw [hgate]; rfl)
  have hsilent : ¬s.recording = true := by
    intro hr
    obtain ⟨q, hq, -⟩ := h.recording hr
    cases hempty.symm.trans hq
  refine ⟨fun q hq => ?_, nofun, by simp, fun hr => absurd hr hsilent, h.named, ?_, nofun⟩
  · obtain hslot | hheld := h.alive q (alive_stopPipeline.mp hq).1
    · cases hempty.symm.trans hslot
    · rw [hgate] at hheld
      exact .inl hheld
  · have hattached := h.attached
    rw [hgate] at hattached
    exact hattached

theorem Owned.advance (h : s.Owned) (ha : Advances s s') : s'.Owned := by
  cases ha with
  | keep hslot _ hholds hpath hempty hroll _ =>
    apply h.kept hslot hholds hpath
    · exact fun he => (hempty he).elim h.emptied id
    · exact fun hg => absurd hg hroll
  | checkStop hgate hnext =>
    apply Owned.kept h
    · exact ⟨rfl, rfl, rfl, rfl, rfl, rfl, rfl, fun _ => rfl⟩
    · rw [hgate]; obtain rfl | ⟨rfl, -⟩ := hnext <;> rfl
    · rw [hgate]; obtain rfl | ⟨rfl, -⟩ := hnext <;> rfl
    · obtain rfl | ⟨rfl, -⟩ := hnext <;> exact fun he => by cases he
    · obtain rfl | ⟨rfl, -⟩ := hnext <;> exact fun he => by cases he
  | takeRecording hgate _ => exact h.takenRecording hgate
  | take hgate hrecording hnext => exact h.taken hgate hrecording hnext
  | detach hgate => exact h.detached hgate
  | tell hgate hnext => exact h.told hgate hnext
  | @reserve path p hgate hrecording hp =>
    have hreported := h.all_reported hrecording (by rw [hgate]; rfl)
    apply h.reserved hgate hp
    · intro q
      by_cases hq : q = p
      · simp [onPipeline, hq]
      · simp [onPipeline, hq]
    · exact ⟨rfl, rfl, rfl⟩
    · intro held hheld
      obtain rfl | hheld := List.mem_cons.mp hheld
      · exact .inr rfl
      · exact .inl (hreported held hheld)
    · exact fun he => by cases he
  | reserveFailed hgate hrecording hp =>
    have hreported := h.all_reported hrecording (by rw [hgate]; rfl)
    exact h.reserved hgate hp (fun _ => id) ⟨rfl, rfl, rfl⟩
      (fun held hheld => .inl (hreported held hheld)) fun _ => hreported
  | rollback hgate => exact h.ended (by rw [hgate]; rfl) rfl (h.rollback hgate)
  | @clear path hgate hpath =>
    apply h.ended (by rw [hgate]; rfl) rfl
    intro held hheld
    obtain hreported | hrecorded | hcarried := h.attached held hheld
    · exact List.mem_cons_of_mem _ hreported
    · rw [hpath held hrecorded]
      exact List.mem_cons_self
    · simp [hgate, Gated.heldPath] at hcarried
  | adapterChanged hgate =>
    apply Owned.kept h
    · exact ⟨rfl, rfl, rfl, rfl, rfl, rfl, rfl, fun _ => rfl⟩
    · rw [hgate]; rfl
    · rw [hgate]; rfl
    · exact fun he => by cases he
    · exact fun he => by cases he
  | build hgate => exact h.built hgate
  | discard hholds hpath _ => exact h.discarded hholds hpath
  | install hgate => exact h.installed hgate

theorem holds_emptied {g : Gated} {p : ℕ} (h : g.holds = some p) : g.emptied = true := by
  revert h
  cases g <;> simp [Gated.holds, Gated.emptied]

theorem Owned.single (h : s.Owned) {p q : ℕ} (hp : (s.pipelines p).alive = true)
    (hq : (s.pipelines q).alive = true) : p = q := by
  obtain hslot | hheld := h.alive p hp
  · obtain hslot' | hheld' := h.alive q hq
    · exact Option.some.inj (hslot.symm.trans hslot')
    · cases (h.emptied (holds_emptied hheld')).symm.trans hslot
  · obtain hslot' | hheld' := h.alive q hq
    · cases (h.emptied (holds_emptied hheld)).symm.trans hslot'
    · exact Option.some.inj (hheld.symm.trans hheld')

end Host

end Playback

end PocketStream
