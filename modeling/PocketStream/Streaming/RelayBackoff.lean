import PocketStream.Foundation.Arrivals
import PocketStream.Foundation.Machine
import PocketStream.Streaming.RelayFaults

/-! # The backoff of a relay

The backoff starts over after a long healthy time, and the healthy time is a
timestamp: the first buffer sets it, and the watchdog clears it when it finds that
no buffer has come for a stall window. A gap that the watchdog does not look into
leaves it as it is.
-/

namespace PocketStream

open Foundation

/-- The record of an RTSP source, the buffers of its current data generation with their times, the
newest first, and when its first-buffer deadline was last armed. -/
structure RelayWatch where
  health : RelayHealth
  buffers : List ℕ
  armed : Option ℕ

namespace RelayWatch

variable (w : RelayWatch)

def initial (serverGeneration : UInt64) : RelayWatch := ⟨.new serverGeneration .rtsp, [], none⟩

/-- The buffers and the arming after a call. -/
def hear : RelayRuntimeCall → List ℕ × Option ℕ
  | .report (.callback i (.observeBuffer g now)) =>
    if w.health.isCurrentData i g then (now :: w.buffers, w.armed) else (w.buffers, w.armed)
  | .report (.callback i (.armFirstBuffer g now)) =>
    (w.buffers, if w.health.isCurrentData i g then some now else w.armed)
  | .report (.callback i (.disarmFirstBuffer g)) =>
    (w.buffers, if w.health.isCurrentData i g then none else w.armed)
  | .report (.callback i (.endDataGeneration g)) =>
    if w.health.isCurrentData i g then ([], none) else (w.buffers, w.armed)
  | .report (.callback i .beginDataGeneration) =>
    if (w.health.beginDataGeneration i).1.isSome then ([], none) else (w.buffers, w.armed)
  | .beginServerInstance _ | .stop => ([], none)
  | _ => (w.buffers, w.armed)

/-- Only a UDP source reports that it streams without a buffer. -/
def step (call : RelayRuntimeCall) : Option RelayWatch :=
  match call with
  | .report (.callback _ (.reportStreaming ..)) => none
  | _ => some ⟨w.health.call call, (w.hear call).1, (w.hear call).2⟩

def machine (serverGeneration : UInt64) : Machine RelayWatch RelayRuntimeCall where
  initial := initial serverGeneration
  step := step

/-- An evaluation starts the backoff over. -/
def Resets (now : ℕ) : Prop :=
  w.health.recoveryAttempt ≠ 0 ∧ (w.health.evaluateWatchdog now).2.recoveryAttempt = 0

/-- No buffer has come for a stall window. -/
def silent (now : ℕ) : Bool := w.health.lastBufferAt.any fun last => STALL_WINDOW ≤ now - last

/-- The healthy time is long enough for an evaluation to start the backoff over. -/
def due (now : ℕ) : Bool :=
  w.health.state == .streaming &&
    w.health.healthySince.any fun since => HEALTHY_RESET_WINDOW ≤ now - since

/-- The gap that a buffer ends was not seen by the watchdog, or the watchdog starts the backoff
over within a gap. -/
def overlooks : RelayRuntimeCall → Bool
  | .report (.callback i (.observeBuffer g now)) =>
    w.health.isCurrentData i g && w.health.healthySince.isSome && w.silent now
  | .report (.evaluateWatchdog now) => w.health.recoveryAttempt != 0 && w.due now && w.silent now
  | _ => false

/-- The record agrees with what was heard. -/
structure Heard (w : RelayWatch) : Prop where
  kind : w.health.ingestKind = .rtsp
  last : w.health.lastBufferAt = w.buffers.head?
  armed : w.health.firstFault = none → w.buffers = [] → w.health.firstBufferArmedAt = w.armed

/-- The healthy time began with a stretch of buffers without a gap. -/
def Healthy (w : RelayWatch) : Prop :=
  ∀ since, w.health.healthySince = some since → SteadySince STALL_WINDOW since w.buffers

variable {w} {w' : RelayWatch} {call : RelayRuntimeCall} {now : ℕ}

/-- A change of the record that no buffer and no arming goes with. -/
structure Quiet (h h' : RelayHealth) : Prop where
  kind : h'.ingestKind = h.ingestKind
  last : h'.lastBufferAt = h.lastBufferAt
  fault : h'.firstFault = none → h.firstFault = none
  armed : h'.firstFault = none → h'.firstBufferArmedAt = h.firstBufferArmedAt
  healthy : h'.healthySince = h.healthySince ∨ h'.healthySince = none

theorem quiet_refl (h : RelayHealth) : Quiet h h := ⟨rfl, rfl, id, fun _ => rfl, .inl rfl⟩

theorem Quiet.trans {h h₁ h' : RelayHealth} (hq : Quiet h h₁) (hq' : Quiet h₁ h') :
    Quiet h h' where
  kind := hq'.kind.trans hq.kind
  last := hq'.last.trans hq.last
  fault hf := hq.fault (hq'.fault hf)
  armed hf := (hq'.armed hf).trans (hq.armed (hq'.fault hf))
  healthy := by
    obtain hsame | hnone := hq'.healthy
    · rw [hsame]
      exact hq.healthy
    · exact .inr hnone

theorem Heard.quiet (h : w.Heard) {health : RelayHealth} (hq : Quiet w.health health) :
    Heard ⟨health, w.buffers, w.armed⟩ where
  kind := hq.kind.trans h.kind
  last := hq.last.trans h.last
  armed hf hb := (hq.armed hf).trans (h.armed (hq.fault hf) hb)

theorem Healthy.quiet (h : w.Healthy) {health : RelayHealth} (hq : Quiet w.health health) :
    Healthy ⟨health, w.buffers, w.armed⟩ := by
  intro since hs
  obtain hsame | hnone := hq.healthy
  · exact h since (hsame ▸ hs)
  · cases hnone.symm.trans hs

/-- Nothing is heard, and the record forgets what was. -/
theorem heard_empty {h : RelayHealth} (hkind : h.ingestKind = .rtsp) (hlast : h.lastBufferAt = none)
    (harmed : h.firstBufferArmedAt = none) (hhealthy : h.healthySince = none) :
    Heard ⟨h, [], none⟩ ∧ Healthy ⟨h, [], none⟩ :=
  ⟨⟨hkind, hlast, fun _ _ => harmed⟩, fun _ hs => by cases hhealthy.symm.trans hs⟩

theorem quiet_recordFault (h : RelayHealth) (kind : RelayFaultKind) (reason : String) (g : UInt64) :
    Quiet h (h.recordFaultLocked kind reason g).2 := by
  unfold RelayHealth.recordFaultLocked
  split
  · exact quiet_refl h
  · exact ⟨rfl, rfl, nofun, nofun, .inl rfl⟩

theorem quiet_watchdog (h : RelayHealth) (now : ℕ) : Quiet h (h.evaluateWatchdog now).2 := by
  have hreset : Quiet h (h.resetBackoff now) := by
    unfold RelayHealth.resetBackoff
    split
    · exact ⟨rfl, rfl, id, fun _ => rfl, .inl rfl⟩
    · exact quiet_refl h
  refine hreset.trans ?_
  unfold RelayHealth.evaluateWatchdog
  generalize h.resetBackoff now = h₁
  dsimp only
  split
  · exact quiet_refl h₁
  · split
    · unfold RelayHealth.checkStall
      have hwarned : Quiet h₁ { h₁ with stallWarningEmitted := true, healthySince := none } :=
        ⟨rfl, rfl, id, fun _ => rfl, .inr rfl⟩
      dsimp only
      split_ifs
      · exact hwarned.trans (quiet_recordFault ..)
      · exact quiet_recordFault ..
      · exact hwarned
      · exact quiet_refl h₁
    · unfold RelayHealth.checkFirstBuffer
      split
      · exact quiet_recordFault ..
      · exact quiet_refl h₁
    · exact quiet_refl h₁

/-- What a call does to what is heard. -/
inductive Hears (w : RelayWatch) : RelayRuntimeCall → RelayWatch → Prop where
  | quiet {call : RelayRuntimeCall} {health : RelayHealth} (hq : Quiet w.health health) :
      Hears w call ⟨health, w.buffers, w.armed⟩
  | buffer {i g : UInt64} {now : ℕ} (hcurrent : w.health.isCurrentData i g = true) :
      Hears w (.report (.callback i (.observeBuffer g now)))
        ⟨(w.health.observeBuffer i g now).2, now :: w.buffers, w.armed⟩
  | arm {i g : UInt64} {now : ℕ} (hcurrent : w.health.isCurrentData i g = true) :
      Hears w (.report (.callback i (.armFirstBuffer g now)))
        ⟨w.health.armFirstBuffer i g now, w.buffers, some now⟩
  | disarm {i g : UInt64} (hcurrent : w.health.isCurrentData i g = true) :
      Hears w (.report (.callback i (.disarmFirstBuffer g)))
        ⟨w.health.disarmFirstBuffer i g, w.buffers, none⟩
  | forget {call : RelayRuntimeCall} {health : RelayHealth}
      (hkind : health.ingestKind = w.health.ingestKind) (hlast : health.lastBufferAt = none)
      (harmed : health.firstBufferArmedAt = none) (hhealthy : health.healthySince = none) :
      Hears w call ⟨health, [], none⟩

theorem hears_callback {i : UInt64} {c : RelayCallback}
    (hs : w.step (.report (.callback i c)) = some w') : Hears w (.report (.callback i c)) w' := by
  cases c with
  | reportStreaming => cases hs
  | loopStarted =>
    obtain rfl := Option.some.inj hs
    apply Hears.quiet
    simp only [RelayHealth.call, RelayHealth.report, RelayHealth.callback, RelayHealth.loopStarted]
    split
    · exact ⟨rfl, rfl, id, fun _ => rfl, .inl rfl⟩
    · exact quiet_refl _
  | loopExited intentional reason =>
    obtain rfl := Option.some.inj hs
    apply Hears.quiet
    simp only [RelayHealth.call, RelayHealth.report, RelayHealth.callback, RelayHealth.loopExited]
    have hdown : Quiet w.health { w.health with loopAlive := false } :=
      ⟨rfl, rfl, id, fun _ => rfl, .inl rfl⟩
    split
    · exact quiet_refl _
    · split
      · exact hdown
      · exact hdown.trans (quiet_recordFault ..)
  | markListenerBound =>
    obtain rfl := Option.some.inj hs
    apply Hears.quiet
    simp only [RelayHealth.call, RelayHealth.report, RelayHealth.callback,
      RelayHealth.markListenerBound]
    split_ifs
    · exact quiet_refl _
    · exact ⟨rfl, rfl, id, fun _ => rfl, .inl rfl⟩
    · exact ⟨rfl, rfl, id, fun _ => rfl, .inl rfl⟩
    · exact ⟨rfl, rfl, id, fun _ => rfl, .inl rfl⟩
  | reportFault g kind reason =>
    obtain rfl := Option.some.inj hs
    apply Hears.quiet
    simp only [RelayHealth.call, RelayHealth.report, RelayHealth.callback, RelayHealth.reportFault]
    split
    · exact quiet_refl _
    · exact quiet_recordFault ..
  | beginDataGeneration =>
    simp only [step, hear, RelayHealth.call, RelayHealth.report, RelayHealth.callback,
      RelayHealth.beginDataGeneration] at hs
    split at hs <;> obtain rfl := Option.some.inj hs
    · exact .quiet (quiet_refl _)
    · exact .forget rfl rfl rfl rfl
  | armFirstBuffer g now =>
    by_cases hcurrent : w.health.isCurrentData i g = true
    · simp only [step, hear, hcurrent, if_true] at hs
      obtain rfl := Option.some.inj hs
      exact .arm hcurrent
    · simp [step, hear, RelayHealth.call, RelayHealth.report, RelayHealth.callback,
        RelayHealth.armFirstBuffer, hcurrent] at hs
      subst hs
      exact .quiet (quiet_refl _)
  | disarmFirstBuffer g =>
    by_cases hcurrent : w.health.isCurrentData i g = true
    · simp only [step, hear, hcurrent, if_true] at hs
      obtain rfl := Option.some.inj hs
      exact .disarm hcurrent
    · simp [step, hear, RelayHealth.call, RelayHealth.report, RelayHealth.callback,
        RelayHealth.disarmFirstBuffer, hcurrent] at hs
      subst hs
      exact .quiet (quiet_refl _)
  | endDataGeneration g =>
    by_cases hcurrent : w.health.isCurrentData i g = true
    · simp [step, hear, RelayHealth.call, RelayHealth.report, RelayHealth.callback,
        RelayHealth.endDataGeneration, hcurrent] at hs
      subst hs
      exact .forget rfl rfl rfl rfl
    · simp [step, hear, RelayHealth.call, RelayHealth.report, RelayHealth.callback,
        RelayHealth.endDataGeneration, hcurrent] at hs
      subst hs
      exact .quiet (quiet_refl _)
  | observeBuffer g now =>
    by_cases hcurrent : w.health.isCurrentData i g = true
    · simp only [step, hear, hcurrent, if_true] at hs
      obtain rfl := Option.some.inj hs
      exact .buffer hcurrent
    · simp [step, hear, RelayHealth.call, RelayHealth.report, RelayHealth.callback,
        RelayHealth.observeBuffer, hcurrent] at hs
      subst hs
      exact .quiet (quiet_refl _)

theorem hears_step (hs : w.step call = some w') : Hears w call w' := by
  cases call with
  | beginServerInstance | stop =>
    obtain rfl := Option.some.inj hs
    exact .forget rfl rfl rfl rfl
  | report r =>
    cases r with
    | callback i c => exact hears_callback hs
    | evaluateWatchdog now =>
      obtain rfl := Option.some.inj hs
      exact .quiet (quiet_watchdog ..)
    | acceptFault fault =>
      obtain rfl := Option.some.inj hs
      apply Hears.quiet
      simp only [RelayHealth.call, RelayHealth.report, RelayHealth.acceptFault]
      split
      · exact quiet_refl _
      · next hown =>
        -- the fault is recorded, so no deadline counts
        obtain ⟨-, hheld⟩ := not_or.mp hown
        have hheld : w.health.firstFault = some fault := not_not.mp hheld
        refine ⟨rfl, rfl, id, fun hf => ?_, .inr rfl⟩
        cases hheld.symm.trans hf
    | markBuildFailed =>
      obtain rfl := Option.some.inj hs
      apply Hears.quiet
      simp only [RelayHealth.call, RelayHealth.report, RelayHealth.markBuildFailed]
      split
      · exact quiet_refl _
      · exact ⟨rfl, rfl, id, fun _ => rfl, .inl rfl⟩
    | scheduleRecoveryAttempt | markRecoveryInProgress | markResolutionFailed | forceMaxBackoff =>
      obtain rfl := Option.some.inj hs
      exact .quiet ⟨rfl, rfl, id, fun _ => rfl, .inl rfl⟩

theorem Heard.step (h : w.Heard) (hs : w.step call = some w') : w'.Heard := by
  cases hears_step hs with
  | quiet hq => exact h.quiet hq
  | buffer hcurrent =>
    simp only [RelayHealth.observeBuffer, hcurrent, Bool.not_true, Bool.false_eq_true, if_false]
    exact ⟨h.kind, rfl, by simp⟩
  | arm hcurrent =>
    simp only [RelayHealth.armFirstBuffer, hcurrent, Bool.not_true, Bool.false_or]
    split
    · next hseen =>
      refine ⟨h.kind, h.last, fun _ hb => ?_⟩
      rw [h.last, show w.buffers = [] from hb] at hseen
      cases hseen
    · exact ⟨h.kind, h.last, fun _ _ => rfl⟩
  | disarm hcurrent =>
    simp only [RelayHealth.disarmFirstBuffer, hcurrent, Bool.true_and]
    split
    · exact ⟨h.kind, h.last, fun _ _ => rfl⟩
    · next hseen =>
      refine ⟨h.kind, h.last, fun _ hb => ?_⟩
      rw [h.last, show w.buffers = [] from hb] at hseen
      exact absurd rfl hseen
  | forget hkind hlast harmed hhealthy =>
    exact (heard_empty (hkind.trans h.kind) hlast harmed hhealthy).1

/-- The buffer that ends a gap finds no healthy time, unless the gap was overlooked. -/
theorem Healthy.step (hy : w.Healthy) (h : w.Heard) (hcalm : w.overlooks call = false)
    (hs : w.step call = some w') : w'.Healthy := by
  cases hears_step hs with
  | quiet hq => exact hy.quiet hq
  | @buffer i g now hcurrent =>
    intro since hsince
    simp only [RelayHealth.observeBuffer, hcurrent, Bool.not_true, Bool.false_eq_true, if_false]
      at hsince
    obtain rfl := Option.some.inj hsince
    cases hold : w.health.healthySince with
    | none => exact steadySince_single
    | some since =>
      have hsteady := hy since hold
      obtain ⟨last, hlast⟩ := hsteady.head
      have hsilent : w.silent now = false := by
        simpa [overlooks, hcurrent, hold] using hcalm
      apply hsteady.cons hlast
      simp only [silent, h.last, hlast, Option.any_some, decide_eq_false_iff_not] at hsilent
      unfold STALL_WINDOW at *
      omega
  | @arm i g now hcurrent =>
    have hsame : (w.health.armFirstBuffer i g now).healthySince = w.health.healthySince := by
      unfold RelayHealth.armFirstBuffer
      split <;> rfl
    exact fun since hsince => hy since (hsame ▸ hsince)
  | @disarm i g hcurrent =>
    have hsame : (w.health.disarmFirstBuffer i g).healthySince = w.health.healthySince := by
      unfold RelayHealth.disarmFirstBuffer
      split <;> rfl
    exact fun since hsince => hy since (hsame ▸ hsince)
  | forget hkind hlast harmed hhealthy => exact fun _ hs => by cases hhealthy.symm.trans hs

/-! ### The evaluations -/

theorem attempt_recordFault (h : RelayHealth) (kind : RelayFaultKind) (reason : String)
    (g : UInt64) : (h.recordFaultLocked kind reason g).2.recoveryAttempt = h.recoveryAttempt := by
  unfold RelayHealth.recordFaultLocked
  split <;> rfl

theorem attempt_watchdog (h : RelayHealth) (now : ℕ) :
    (h.evaluateWatchdog now).2.recoveryAttempt = (h.resetBackoff now).recoveryAttempt := by
  unfold RelayHealth.evaluateWatchdog
  generalize h.resetBackoff now = h₁
  dsimp only
  split
  · rfl
  · split
    · unfold RelayHealth.checkStall
      dsimp only
      split_ifs
      · exact attempt_recordFault ..
      · exact attempt_recordFault ..
      · rfl
      · rfl
    · unfold RelayHealth.checkFirstBuffer
      split
      · exact attempt_recordFault ..
      · rfl
    · rfl

theorem resets_iff : w.Resets now ↔ w.health.recoveryAttempt ≠ 0 ∧ w.due now = true := by
  unfold Resets due
  rw [attempt_watchdog]
  refine and_congr_right fun hne => ?_
  unfold RelayHealth.resetBackoff
  simp only [Bool.and_eq_true, beq_iff_eq]
  split
  · next hdue => simp [hdue.1, hdue.2]
  · next hdue => exact iff_of_false hne hdue

/-- The backoff starts over after buffers without a gap. -/
theorem Healthy.resets (hy : w.Healthy) (h : w.Heard)
    (hcalm : w.overlooks (.report (.evaluateWatchdog now)) = false) (hr : w.Resets now) :
    ArrivingFor STALL_WINDOW HEALTHY_RESET_WINDOW w.buffers now := by
  obtain ⟨hne, hdue⟩ := resets_iff.mp hr
  have hsilent : w.silent now = false := by simpa [overlooks, hne, hdue] using hcalm
  simp only [due, Bool.and_eq_true, Option.any_eq_true, decide_eq_true_eq] at hdue
  obtain ⟨-, since, hsince, hlong⟩ := hdue
  have hsteady := hy since hsince
  obtain ⟨last, hlast⟩ := hsteady.head
  simp only [silent, h.last, hlast, Option.any_some, decide_eq_false_iff_not] at hsilent
  apply hsteady.arrivingFor hlast
  · unfold STALL_WINDOW at *
    omega
  · unfold HEALTHY_RESET_WINDOW at *
    omega

theorem checkStall_event (h : RelayHealth) (last now : ℕ) : (h.checkStall last now).1 =
    if STALL_CONFIRMATION ≤ now - last then
      if h.firstFault.isSome then none else some ⟨.bufferStall,
        s!"Re-stream output produced no buffers for {RelayHealth.secondsText (now - last)}s (two windows)",
        h.serverGeneration, h.activeDataGeneration.getD 0⟩
    else none := by
  unfold RelayHealth.checkStall RelayHealth.recordFaultLocked
  by_cases hwarn : STALL_WINDOW ≤ now - last ∧ h.stallWarningEmitted = false
  · simp only [if_pos hwarn]
    split_ifs <;> rfl
  · simp only [if_neg hwarn]
    split_ifs <;> rfl

theorem checkFirstBuffer_event (h : RelayHealth) (started now : ℕ) :
    (h.checkFirstBuffer started now).1 =
      if FIRST_BUFFER_TIMEOUT ≤ now - started then
        if h.firstFault.isSome then none else some ⟨.firstBufferTimeout,
          s!"Re-stream output produced no first buffer for {(now - started) / 1000}s",
          h.serverGeneration, h.activeDataGeneration.getD 0⟩
      else none := by
  unfold RelayHealth.checkFirstBuffer RelayHealth.recordFaultLocked
  split_ifs <;> rfl

/-- What an evaluation of an RTSP source's record returns. -/
theorem watchdog_event {h : RelayHealth} (hkind : h.ingestKind = .rtsp) (now : ℕ) :
    (h.evaluateWatchdog now).1 =
      if h.firstFault.isSome ∨ h.activeDataGeneration.isNone then none
      else match h.lastBufferAt, h.firstBufferArmedAt with
        | some last, _ => (h.checkStall last now).1
        | none, some started => (h.checkFirstBuffer started now).1
        | none, none => none := by
  -- starting the backoff over changes nothing that is looked at next
  have hsame : h.resetBackoff now = h ∨ h.resetBackoff now = { h with recoveryAttempt := 0 } := by
    unfold RelayHealth.resetBackoff
    split
    · exact .inr rfl
    · exact .inl rfl
  unfold RelayHealth.evaluateWatchdog
  obtain heq | heq := hsame
  · simp only [heq, hkind, ne_eq, not_true_eq_false, false_or]
    split
    · rfl
    · cases h.lastBufferAt <;> cases h.firstBufferArmedAt <;> rfl
  · simp only [heq, hkind, ne_eq, not_true_eq_false, false_or]
    split
    · rfl
    · cases h.lastBufferAt <;> cases h.firstBufferArmedAt <;>
        simp [checkStall_event, checkFirstBuffer_event]

theorem Heard.raises_stall (h : w.Heard) :
    (∃ fault, (w.health.evaluateWatchdog now).1 = some fault ∧ fault.kind = .bufferStall) ↔
      w.health.firstFault = none ∧ w.health.activeDataGeneration.isSome = true ∧
        ∃ last, w.buffers.head? = some last ∧ last + STALL_CONFIRMATION ≤ now := by
  rw [watchdog_event h.kind, ← h.last]
  cases hf : w.health.firstFault with
  | some fault => simp
  | none =>
    cases ha : w.health.activeDataGeneration with
    | none => simp
    | some g =>
      cases hl : w.health.lastBufferAt with
      | none =>
        cases w.health.firstBufferArmedAt with
        | none => simp
        | some armed => simp [checkFirstBuffer_event, hf]
      | some last =>
        simp only [checkStall_event, hf]
        unfold STALL_CONFIRMATION
        by_cases hlong : 10000 ≤ now - last
        · simp [hlong]
          omega
        · simp [hlong]
          omega

theorem Heard.raises_timeout (h : w.Heard) :
    (∃ fault, (w.health.evaluateWatchdog now).1 = some fault ∧ fault.kind = .firstBufferTimeout) ↔
      w.health.firstFault = none ∧ w.health.activeDataGeneration.isSome = true ∧ w.buffers = [] ∧
        ∃ armed, w.armed = some armed ∧ armed + FIRST_BUFFER_TIMEOUT ≤ now := by
  rw [watchdog_event h.kind]
  cases hf : w.health.firstFault with
  | some fault => simp
  | none =>
    cases ha : w.health.activeDataGeneration with
    | none => simp
    | some g =>
      cases hb : w.buffers with
      | cons last older =>
        have hl : w.health.lastBufferAt = some last := by rw [h.last, hb]; rfl
        simp [hl, checkStall_event, hf]
      | nil =>
        have hl : w.health.lastBufferAt = none := by rw [h.last, hb]; rfl
        simp only [hl, ← h.armed hf hb]
        cases w.health.firstBufferArmedAt with
        | none => simp
        | some armed =>
          simp only [checkFirstBuffer_event, hf]
          unfold FIRST_BUFFER_TIMEOUT
          by_cases hlong : 15000 ≤ now - armed
          · simp [hlong]
            omega
          · simp [hlong]
            omega

theorem heard_run {g : UInt64} (h : (machine g).Reachable w) : w.Heard := by
  induction h with
  | initial => exact ⟨rfl, rfl, fun _ _ => rfl⟩
  | step _ _ hs ih => exact ih.step hs

/-- In a run that overlooks no gap, an evaluation starts the backoff over only after buffers
without a gap; and an evaluation raises a stall, or a missing first buffer, exactly when it is the
first to find the deadline passed. -/
theorem backoff_resets_on_health {g : UInt64}
    (h : (machine g).Reaches (fun w call => w.overlooks call = false) w) (now : ℕ) :
    (w.overlooks (.report (.evaluateWatchdog now)) = false → w.Resets now →
      ArrivingFor STALL_WINDOW HEALTHY_RESET_WINDOW w.buffers now) ∧
    ((∃ fault, (w.health.evaluateWatchdog now).1 = some fault ∧ fault.kind = .bufferStall) ↔
      w.health.firstFault = none ∧ w.health.activeDataGeneration.isSome = true ∧
        ∃ last, w.buffers.head? = some last ∧ last + STALL_CONFIRMATION ≤ now) ∧
    ((∃ fault, (w.health.evaluateWatchdog now).1 = some fault ∧
        fault.kind = .firstBufferTimeout) ↔
      w.health.firstFault = none ∧ w.health.activeDataGeneration.isSome = true ∧ w.buffers = [] ∧
        ∃ armed, w.armed = some armed ∧ armed + FIRST_BUFFER_TIMEOUT ≤ now) ∧
    ∀ fault, (w.health.evaluateWatchdog now).1 = some fault →
      (w.health.evaluateWatchdog now).2.firstFault = some fault := by
  have hheard := heard_run h.reachable
  have hhealthy : w.Healthy := by
    apply Machine.Reaches.invariant (fun w => heard_run) _ _ h
    · exact nofun
    · exact fun w call w' hh hy hcalm hs => hy.step hh hcalm hs
  refine ⟨hhealthy.resets hheard, hheard.raises_stall, hheard.raises_timeout, fun fault hf => ?_⟩
  rw [RelayHealth.watchdog_latches, hf]
  have hnone : w.health.firstFault = none := by
    by_contra hsome
    have hsilent := RelayHealth.watchdog_silent (Option.ne_none_iff_isSome.mp hsome) now
    cases hsilent.symm.trans hf
  rw [hnone, Option.none_or]

section Example

/-- A relay that recovers, to its first buffer. -/
def recovered : List RelayRuntimeCall :=
  [.report .scheduleRecoveryAttempt, .beginServerInstance true, .report (.callback 1 .loopStarted),
    .report (.callback 1 .markListenerBound), .report (.callback 1 .beginDataGeneration),
    .report (.callback 1 (.armFirstBuffer 1 0)), .report (.callback 1 (.observeBuffer 1 0))]

def buffersAt (times : List ℕ) : List RelayRuntimeCall :=
  times.map fun now => .report (.callback 1 (.observeBuffer 1 now))

theorem backoff_resets_steady :
    ∃ w, (machine 1).run (initial 1) (recovered ++
        buffersAt [4000, 8000, 12000, 16000, 20000, 24000, 28000]) = some w ∧ w.Resets 30000 ∧
      ArrivingFor STALL_WINDOW HEALTHY_RESET_WINDOW w.buffers 30000 := by
  have hadmits : (machine 1).Admits (fun w call => w.overlooks call = false) (initial 1)
      (recovered ++ buffersAt [4000, 8000, 12000, 16000, 20000, 24000, 28000]) := by
    decide
  have hreaches := Machine.Reaches.run .initial hadmits rfl
  obtain ⟨hresets, -⟩ := backoff_resets_on_health hreaches 30000
  exact ⟨_, rfl, ⟨by decide, by decide⟩, hresets (by decide) ⟨by decide, by decide⟩⟩

/-- The watchdog looks 4.9 seconds after the first buffer, and the next one comes after 5.5. -/
theorem unseen_gap_resets :
    ∃ w, (machine 1).run (initial 1) (recovered ++ [.report (.evaluateWatchdog 4900)] ++
        buffersAt [5500, 9500, 13500, 17500, 21500, 25500, 29500]) = some w ∧ w.Resets 30000 ∧
      ¬ArrivingFor STALL_WINDOW HEALTHY_RESET_WINDOW w.buffers 30000 :=
  ⟨_, rfl, ⟨by decide, by decide⟩, by decide⟩

end Example

end RelayWatch

end PocketStream
