import PocketStream.Foundation.Arrivals
import PocketStream.Foundation.Latch
import PocketStream.Foundation.Machine
import PocketStream.Streaming.PlaybackHealth

/-! # The recovery of a playback

The bus thread, the frame thread, the supervisor and the user share one health
record. The supervisor begins an attempt only when it is due and schedules a
recovery only while no attempt is active; the others may report at any time, for
any generation.
-/

namespace PocketStream

open Foundation

inductive PlaybackCall where
  | beginAttempt (now : ℕ)
  | pipelineStarted (generation : UInt64) (now : ℕ)
  | observeBuffer (generation : UInt64) (now : ℕ)
  | recordFault (generation : UInt64) (fault : PlaybackFault)
  | watchdog (now : ℕ)
  | scheduleRecovery (now : ℕ)
  | wakeReady (now : ℕ)
  | retry (now : ℕ)
  | stop
  deriving DecidableEq

def PlaybackCall.begins : PlaybackCall → Bool
  | .beginAttempt _ => true
  | _ => false

namespace PlaybackHealth

variable (h : PlaybackHealth)

def call : PlaybackCall → PlaybackHealth
  | .beginAttempt _ => h.beginAttempt
  | .pipelineStarted generation now => h.pipelineStarted now generation
  | .observeBuffer generation now => h.observeBuffer now generation
  | .recordFault generation fault => h.recordFault generation fault
  | .watchdog now => (h.watchdog now STALL_THRESHOLD).2
  | .scheduleRecovery now => h.scheduleRecovery now
  | .wakeReady now => h.wakeReady now
  | .retry now => h.retry now
  | .stop => h.stop

/-- The fault that a call records. -/
def recorded : PlaybackCall → Option PlaybackFault
  | .recordFault generation fault =>
    if h.active ∧ h.generation = generation then some fault else none
  | .watchdog now => if h.active ∧ h.firstFault = none then (h.watchdog now STALL_THRESHOLD).1 else none
  | _ => none

def faultReporter : Reporter PlaybackHealth PlaybackCall PlaybackFault :=
  ⟨fun h c => (h.recorded c, h.call c)⟩

end PlaybackHealth

/-- `recovery_delay` of the n-th recovery. -/
def recoveryDelayOf (n : ℕ) : ℕ := RECOVERY_DELAYS.getD (min (n - 1) (RECOVERY_DELAYS.length - 1)) 0

/-- The record, the frames of its generation with their times, the newest first, the recoveries
scheduled since the attempts were last reset, and when the retry that is pending was planned for,
unless it was woken. -/
structure PlaybackTrack where
  health : PlaybackHealth
  frames : List ℕ
  recoveries : ℕ
  planned : Option ℕ

namespace PlaybackTrack

variable (p : PlaybackTrack)

def initial (now : ℕ) : PlaybackTrack := ⟨.new now, [], 0, none⟩

/-- A watchdog call resets the attempts. -/
def resets (now : ℕ) : Bool :=
  p.health.firstFault.isNone && p.health.active &&
    (p.health.watchdog now STALL_THRESHOLD).1.isNone &&
    p.health.healthySince.any fun t => HEALTHY_RESET_WINDOW ≤ now - t

def note (call : PlaybackCall) : PlaybackTrack :=
  let p' := { p with health := p.health.call call }
  match call with
  | .beginAttempt _ => { p' with frames := [], planned := none }
  | .observeBuffer generation now =>
    if p.health.active ∧ p.health.generation = generation then { p' with frames := now :: p.frames }
    else p'
  | .watchdog now => { p' with recoveries := if p.resets now then 0 else p.recoveries }
  | .scheduleRecovery now =>
    if p.health.state = .recovering ∧ p.health.nextRetry = none then
      { p' with
        recoveries := p.recoveries + 1
        planned := some (now + recoveryDelayOf (p.recoveries + 1)) }
    else p'
  | .wakeReady _ | .retry _ | .stop => { p' with planned := none }
  | .pipelineStarted .. | .recordFault .. => p'

/-- The supervisor begins what is due, and schedules a recovery while nothing is active. -/
def step (call : PlaybackCall) : Option PlaybackTrack :=
  match call with
  | .beginAttempt now => if p.health.due now then some (p.note call) else none
  | .scheduleRecovery _ => if p.health.active then none else some (p.note call)
  | _ => some (p.note call)

def machine (now : ℕ) : Machine PlaybackTrack PlaybackCall where
  initial := initial now
  step := step

end PlaybackTrack

namespace PlaybackHealth

variable {h : PlaybackHealth} {generation : UInt64} {fault : PlaybackFault} {now : ℕ}
  {made : PlaybackCall}

theorem nextInstance_toNat {n : UInt64} (hn : n.toNat + 1 < 2 ^ 64) :
    (nextInstance n).toNat = n.toNat + 1 := by
  have hsucc : (n + 1).toNat = n.toNat + 1 := by
    rw [UInt64.toNat_add]
    exact Nat.mod_eq_of_lt hn
  have hmax : nextInstance n = if n + 1 ≤ 1 then 1 else n + 1 := rfl
  rw [hmax]
  split
  · next hle =>
    have hle : (n + 1).toNat ≤ 1 := UInt64.le_iff_toNat_le.mp hle
    have hone : (1 : UInt64).toNat = 1 := rfl
    omega
  · exact hsucc

theorem pipelineStarted_other (hg : h.generation ≠ generation) :
    h.pipelineStarted now generation = h :=
  if_neg fun hcurrent => hg hcurrent.2

theorem observeBuffer_other (hg : h.generation ≠ generation) :
    h.observeBuffer now generation = h :=
  if_neg fun hcurrent => hg hcurrent.2

theorem recordFault_other (hg : h.generation ≠ generation) :
    h.recordFault generation fault = h :=
  if_neg fun hcurrent => hg hcurrent.2

theorem watchdog_inactive (ha : h.active = false) : (h.watchdog now STALL_THRESHOLD).2 = h := by
  unfold watchdog
  cases h.firstFault with
  | some fault => rfl
  | none => simp [ha]

/-- Only an attempt makes the record active. -/
theorem call_inactive (hb : made.begins = false) (ha : h.active = false) :
    (h.call made).active = false := by
  cases made with
  | beginAttempt => cases hb
  | pipelineStarted generation now => exact follows_pipelineStarted.active ha
  | observeBuffer generation now => exact follows_observeBuffer.active ha
  | recordFault generation fault => exact follows_recordFault.active ha
  | watchdog now => exact follows_watchdog.active ha
  | scheduleRecovery now => exact scheduleRecovery_active.trans ha
  | wakeReady now => exact follows_wakeReady.active ha
  | retry now =>
    simp only [call, retry]
    split
    · rfl
    · exact ha
  | stop => rfl

theorem call_generation (hb : made.begins = false) : (h.call made).generation = h.generation := by
  cases made with
  | beginAttempt => cases hb
  | pipelineStarted generation now => exact follows_pipelineStarted.generation
  | observeBuffer generation now => exact follows_observeBuffer.generation
  | recordFault generation fault => exact follows_recordFault.generation
  | watchdog now => exact follows_watchdog.generation
  | scheduleRecovery now => exact scheduleRecovery_generation
  | wakeReady now => exact follows_wakeReady.generation
  | retry now =>
    simp only [call, retry]
    split <;> rfl
  | stop => rfl

/-- A watchdog leaves the record, records a fault, or resets the attempts. -/
theorem watchdog_cases (h : PlaybackHealth) (now : ℕ) :
    (h.watchdog now STALL_THRESHOLD).2 = h ∨
    (∃ fault, (h.watchdog now STALL_THRESHOLD).2 = h.recordFault h.generation fault) ∨
    (h.watchdog now STALL_THRESHOLD).2 = { h with attempt := 0 } ∧
      (h.watchdog now STALL_THRESHOLD).1 = none ∧ h.firstFault = none ∧ h.active = true ∧
      (h.healthySince.any fun t => HEALTHY_RESET_WINDOW ≤ now - t) = true := by
  unfold watchdog
  cases h.firstFault with
  | some fault => exact .inl rfl
  | none =>
    dsimp only
    split
    · exact .inl rfl
    · next hup =>
      split
      · next fault _ => exact .inr (.inl ⟨fault, rfl⟩)
      · dsimp only
        split
        · next hlong => exact .inr (.inr ⟨rfl, rfl, rfl, by simpa using hup, hlong⟩)
        · exact .inl rfl

/-- A watchdog that finds a fault of an active record retires it. -/
theorem watchdog_records (ha : h.active = true) (hf : h.firstFault = none)
    (hw : (h.watchdog now STALL_THRESHOLD).1 = some fault) :
    (h.watchdog now STALL_THRESHOLD).2 = h.recordFault h.generation fault := by
  unfold watchdog at hw ⊢
  simp only [hf, ha, Bool.not_true, Bool.false_eq_true, if_false] at hw ⊢
  split at hw
  · next found heq =>
    obtain rfl := Option.some.inj hw
    rfl
  · cases hw

theorem faults_spend :
    faultReporter.Spends (fun h => h.active = false) PlaybackCall.begins where
  report h c fault hb ho := by
    cases c with
    | recordFault generation fault' =>
      simp only [faultReporter, recorded] at ho
      split at ho
      · next hcurrent =>
        refine ⟨by simp [hcurrent.1], ?_⟩
        exact recordFault_inactive hcurrent.2
      · cases ho
    | watchdog now =>
      simp only [faultReporter, recorded] at ho
      split at ho
      · next hactive =>
        refine ⟨by simp [hactive.1], ?_⟩
        simp only [faultReporter, call]
        rw [watchdog_records hactive.1 hactive.2 ho]
        exact recordFault_inactive rfl
      · cases ho
    | _ => cases ho
  keep h c hb ha := call_inactive hb ha

end PlaybackHealth

namespace PlaybackTrack

variable {p p' : PlaybackTrack} {made : PlaybackCall} {now : ℕ}

theorem step_health (hs : p.step made = some p') : p'.health = p.health.call made := by
  have hnote : (p.note made).health = p.health.call made := by
    cases made with
    | observeBuffer | scheduleRecovery =>
      simp only [note]
      split <;> rfl
    | _ => rfl
  unfold step at hs
  split at hs
  · split at hs
    · exact Option.some.inj hs ▸ hnote
    · cases hs
  · split at hs
    · cases hs
    · exact Option.some.inj hs ▸ hnote
  · exact Option.some.inj hs ▸ hnote

theorem step_note (hs : p.step made = some p') : p' = p.note made := by
  unfold step at hs
  split at hs
  · split at hs
    · exact (Option.some.inj hs).symm
    · cases hs
  · split at hs
    · cases hs
    · exact (Option.some.inj hs).symm
  · exact (Option.some.inj hs).symm

/-- The record between the calls. -/
structure Ordered (h : PlaybackHealth) : Prop where
  settled : h.Settled
  playing : h.state = .playing → h.active = true
  failed : h.state = .failed → h.active = false ∧ h.nextRetry = none
  faulted : h.firstFault.isSome = true → h.active = false

theorem ordered_recordFault {h : PlaybackHealth} {generation : UInt64} {fault : PlaybackFault}
    (ho : Ordered h) : Ordered (h.recordFault generation fault) := by
  unfold PlaybackHealth.recordFault
  split
  · refine ⟨nofun, fun hs => ?_, fun _ => ⟨rfl, rfl⟩, fun _ => rfl⟩
    simp only at hs
    split at hs <;> cases hs
  · exact ho

theorem ordered_watchdog {h : PlaybackHealth} (ho : Ordered h) :
    Ordered (h.watchdog now STALL_THRESHOLD).2 := by
  obtain heq | ⟨fault, heq⟩ | ⟨heq, -⟩ := h.watchdog_cases now
  · rw [heq]
    exact ho
  · rw [heq]
    exact ordered_recordFault ho
  · rw [heq]
    exact ⟨ho.settled, ho.playing, ho.failed, ho.faulted⟩

/-- The supervisor's discipline keeps the record in order. -/
theorem Ordered.step (ho : Ordered p.health) (hs : p.step made = some p') :
    Ordered p'.health := by
  rw [step_health hs]
  cases made with
  | beginAttempt now =>
    have hdue : p.health.due now = true := by
      by_contra hnot
      simp [PlaybackTrack.step, hnot] at hs
    refine ⟨fun _ => rfl, fun _ => rfl, fun hf => ?_, nofun⟩
    -- a failed record has no retry that could be due
    have hnone := (ho.failed hf).2
    simp [PlaybackHealth.due, hnone] at hdue
  | pipelineStarted generation now =>
    simp only [PlaybackHealth.call, PlaybackHealth.pipelineStarted]
    split
    · exact ⟨ho.settled, ho.playing, ho.failed, ho.faulted⟩
    · exact ho
  | observeBuffer generation now =>
    simp only [PlaybackHealth.call, PlaybackHealth.observeBuffer]
    split
    · next hcurrent => exact ⟨ho.settled, fun _ => hcurrent.1, nofun, ho.faulted⟩
    · exact ho
  | recordFault generation fault => exact ordered_recordFault ho
  | watchdog now => exact ordered_watchdog ho
  | scheduleRecovery now =>
    have hdown : p.health.active = false := by
      by_contra hup
      simp [PlaybackTrack.step, hup] at hs
    simp only [PlaybackHealth.call, PlaybackHealth.scheduleRecovery]
    split
    · exact ho
    · next hrecovering =>
      have hstate : p.health.state = .recovering := not_not.mp (not_or.mp hrecovering).1
      refine ⟨PlaybackHealth.settled_of_inactive hdown, fun hp => ?_, fun hf => ?_, ho.faulted⟩
      · cases hstate.symm.trans hp
      · cases hstate.symm.trans hf
  | wakeReady now =>
    simp only [PlaybackHealth.call, PlaybackHealth.wakeReady]
    split
    · next hwoken =>
      refine ⟨fun hup => ?_, ho.playing, fun hf => ?_, ho.faulted⟩
      · rw [ho.settled hup] at hwoken
        cases hwoken.2
      · cases hwoken.1.symm.trans hf
    · exact ho
  | retry now =>
    simp only [PlaybackHealth.call, PlaybackHealth.retry]
    split
    · exact ⟨nofun, nofun, nofun, nofun⟩
    · exact ho
  | stop => exact ⟨nofun, nofun, nofun, nofun⟩

theorem ordered_run {t : ℕ} (h : (machine t).Reachable p) : Ordered p.health := by
  induction h with
  | initial => exact ⟨nofun, nofun, nofun, nofun⟩
  | step _ _ hs ih => exact ih.step hs

/-- A failed record waits for the user. -/
theorem Ordered.leaves_failed (ho : Ordered p.health) (hf : p.health.state = .failed)
    (hs : p.step made = some p') :
    p'.health.state = .failed ∨ (∃ now, made = .retry now) ∨ made = .stop := by
  obtain ⟨hdown, hnone⟩ := ho.failed hf
  rw [step_health hs]
  cases made with
  | retry now => exact .inr (.inl ⟨now, rfl⟩)
  | stop => exact .inr (.inr rfl)
  | beginAttempt now =>
    simp [PlaybackTrack.step, PlaybackHealth.due, hnone] at hs
  | watchdog now =>
    left
    simp only [PlaybackHealth.call]
    rw [PlaybackHealth.watchdog_inactive hdown]
    exact hf
  | pipelineStarted | observeBuffer | recordFault =>
    left
    simp [PlaybackHealth.call, PlaybackHealth.pipelineStarted, PlaybackHealth.observeBuffer,
      PlaybackHealth.recordFault, hdown, hf]
  | scheduleRecovery | wakeReady =>
    left
    simp [PlaybackHealth.call, PlaybackHealth.scheduleRecovery, PlaybackHealth.wakeReady, hf]

/-- The record agrees with the frames, the recoveries and the plan. -/
structure Tracked (p : PlaybackTrack) : Prop where
  last : p.health.lastBuffer = p.frames.head?
  healthy : ∀ since, p.health.healthySince = some since → SteadySince STALL_THRESHOLD since p.frames
  recoveries : p.health.attempt.toNat = min p.recoveries (2 ^ 32 - 1)
  planned : ∀ t, p.planned = some t → p.health.active = false ∧ p.health.nextRetry = some t

theorem saturatingSucc_toNat {n : UInt32} {k : ℕ} (hn : n.toNat = min k (2 ^ 32 - 1)) :
    (saturatingSucc n).toNat = min (k + 1) (2 ^ 32 - 1) := by
  have hlt : n.toNat < 2 ^ 32 := n.toNat_lt
  have hadd : (n + 1).toNat = (n.toNat + 1) % 2 ^ 32 := UInt32.toNat_add n 1
  unfold saturatingSucc
  split
  · next hzero =>
    have hwrap : (n + 1).toNat = 0 := by rw [hzero]; rfl
    omega
  · next hpos =>
    have hne : (n + 1).toNat ≠ 0 := by
      intro hzero
      exact hpos (UInt32.toNat_inj.mp hzero)
    omega

theorem recoveryDelay_eq {n : UInt32} {k : ℕ} (hn : n.toNat = min k (2 ^ 32 - 1)) :
    recoveryDelay n = recoveryDelayOf k := by
  unfold recoveryDelay recoveryDelayOf
  have hlen : RECOVERY_DELAYS.length = 6 := rfl
  rw [hlen, hn]
  congr 1
  omega

theorem tracked_recordFault {generation : UInt64} {fault : PlaybackFault} (ht : p.Tracked) :
    Tracked { p with health := p.health.recordFault generation fault } := by
  unfold PlaybackHealth.recordFault
  split
  · next hcurrent =>
    refine ⟨ht.last, nofun, ht.recoveries, fun t hp => ?_⟩
    -- nothing is planned while an attempt is active
    cases hcurrent.1.symm.trans (ht.planned t hp).1
  · exact ht

theorem watchdog_resets (hr : p.resets now = true) :
    (p.health.watchdog now STALL_THRESHOLD).2 = { p.health with attempt := 0 } := by
  simp only [resets, Bool.and_eq_true, Option.isNone_iff_eq_none] at hr
  obtain ⟨⟨⟨hfault, hup⟩, hnone⟩, hlong⟩ := hr
  unfold PlaybackHealth.watchdog at hnone ⊢
  simp only [hfault, hup, Bool.not_true, Bool.false_eq_true, if_false] at hnone ⊢
  split at hnone
  · cases hnone
  · dsimp only
    rw [if_pos hlong]

theorem Tracked.watchdog (ht : p.Tracked) : (p.note (.watchdog now)).Tracked := by
  simp only [note, PlaybackHealth.call]
  by_cases hr : p.resets now = true
  · rw [watchdog_resets hr, if_pos hr]
    exact ⟨ht.last, ht.healthy, rfl, ht.planned⟩
  · rw [if_neg hr]
    obtain heq | ⟨fault, heq⟩ | ⟨-, hnone, hfault, hup, hlong⟩ := p.health.watchdog_cases now
    · rw [heq]
      exact ht
    · rw [heq]
      exact tracked_recordFault ht
    · simp [resets, hnone, hfault, hup, hlong] at hr

theorem Tracked.observeBuffer {generation : UInt64} (ht : p.Tracked) :
    (p.note (.observeBuffer generation now)).Tracked := by
  simp only [note, PlaybackHealth.call, PlaybackHealth.observeBuffer]
  split
  · next hcurrent =>
    refine ⟨rfl, fun since hs => ?_, ht.recoveries, fun t hp => ?_⟩
    · cases hold : p.health.healthySince with
      | none =>
        simp only [hold, ite_self, Option.none_or, Option.some.injEq] at hs
        subst hs
        exact steadySince_single
      | some since' =>
        have hsteady := ht.healthy since' hold
        obtain ⟨last, hlast⟩ := hsteady.head
        simp only [hold, ht.last, hlast, Option.any_some] at hs
        split at hs
        · obtain rfl := Option.some.inj hs
          exact steadySince_single
        · next hgap =>
          obtain rfl := Option.some.inj hs
          apply hsteady.cons hlast
          unfold STALL_THRESHOLD
          simp only [decide_eq_true_eq] at hgap
          omega
    · cases hcurrent.1.symm.trans (ht.planned t hp).1
  · exact ht

theorem Tracked.scheduleRecovery (ht : p.Tracked) (hdown : p.health.active = false) :
    (p.note (.scheduleRecovery now)).Tracked := by
  simp only [note, PlaybackHealth.call, PlaybackHealth.scheduleRecovery]
  split
  · next hwaits =>
    have hgo : ¬(p.health.state ≠ .recovering ∨ p.health.nextRetry.isSome = true) := by
      simp [hwaits.1, hwaits.2]
    have hattempt := saturatingSucc_toNat ht.recoveries
    rw [if_neg hgo]
    refine ⟨ht.last, ht.healthy, hattempt, fun t hp => ⟨hdown, ?_⟩⟩
    obtain rfl := Option.some.inj hp
    rw [recoveryDelay_eq hattempt]
  · next hnot =>
    have hstay : p.health.state ≠ .recovering ∨ p.health.nextRetry.isSome = true := by
      by_contra hgo
      apply hnot
      simpa using hgo
    rw [if_pos hstay]
    exact ht

theorem Tracked.step (ht : p.Tracked) (hs : p.step made = some p') : p'.Tracked := by
  have hnote := step_note hs
  cases made with
  | beginAttempt now =>
    rw [hnote]
    exact ⟨rfl, nofun, ht.recoveries, nofun⟩
  | pipelineStarted generation now =>
    rw [hnote]
    simp only [note, PlaybackHealth.call, PlaybackHealth.pipelineStarted]
    split
    · exact ⟨ht.last, ht.healthy, ht.recoveries, ht.planned⟩
    · exact ht
  | observeBuffer generation now =>
    rw [hnote]
    exact ht.observeBuffer
  | recordFault generation fault =>
    rw [hnote]
    exact tracked_recordFault ht
  | watchdog now =>
    rw [hnote]
    exact ht.watchdog
  | scheduleRecovery now =>
    rw [hnote]
    have hdown : p.health.active = false := by
      by_contra hup
      simp [PlaybackTrack.step, hup] at hs
    exact ht.scheduleRecovery hdown
  | wakeReady now =>
    rw [hnote]
    simp only [note, PlaybackHealth.call, PlaybackHealth.wakeReady]
    split <;> exact ⟨ht.last, ht.healthy, ht.recoveries, nofun⟩
  | retry now =>
    rw [hnote]
    simp only [note, PlaybackHealth.call, PlaybackHealth.retry]
    split <;> exact ⟨ht.last, ht.healthy, ht.recoveries, nofun⟩
  | stop =>
    rw [hnote]
    exact ⟨ht.last, ht.healthy, ht.recoveries, nofun⟩

theorem tracked_run {t : ℕ} (h : (machine t).Reachable p) : p.Tracked := by
  induction h with
  | initial => exact ⟨rfl, nofun, rfl, nofun⟩
  | step _ _ hs ih => exact ih.step hs

/-- The attempts are reset after frames without a gap. -/
theorem Tracked.resets (ht : p.Tracked) (hne : p.health.attempt ≠ 0)
    (hr : (p.health.watchdog now STALL_THRESHOLD).2.attempt = 0) :
    ArrivingFor STALL_THRESHOLD HEALTHY_RESET_WINDOW p.frames now := by
  obtain heq | ⟨fault, heq⟩ | ⟨-, hnone, hfault, hup, hlong⟩ := p.health.watchdog_cases now
  · rw [heq] at hr
    exact absurd hr hne
  · have hsame : (p.health.recordFault p.health.generation fault).attempt = p.health.attempt := by
      unfold PlaybackHealth.recordFault
      split <;> rfl
    rw [heq, hsame] at hr
    exact absurd hr hne
  · simp only [Option.any_eq_true, decide_eq_true_eq] at hlong
    obtain ⟨since, hsince, hlong⟩ := hlong
    have hsteady := ht.healthy since hsince
    obtain ⟨last, hlast⟩ := hsteady.head
    -- no fault was found, so the last frame is not a stall ago
    have hfresh : ¬now - last ≥ STALL_THRESHOLD := by
      intro hstall
      unfold PlaybackHealth.watchdog at hnone
      simp [hfault, hup, ht.last, hlast, hstall] at hnone
    apply hsteady.arrivingFor hlast
    · omega
    · unfold HEALTHY_RESET_WINDOW at *
      omega

theorem generation_step (hs : p.step made = some p') :
    p'.health.generation = p.health.generation ∨
      p'.health.generation = nextInstance p.health.generation := by
  rw [step_health hs]
  cases hb : made.begins with
  | false => exact .inl (PlaybackHealth.call_generation hb)
  | true =>
    cases made with
    | beginAttempt now => exact .inr rfl
    | _ => cases hb

theorem nextInstance_lt {n : UInt64} (hn : n.toNat + 1 < 2 ^ 64) : n < nextInstance n := by
  rw [UInt64.lt_iff_toNat_lt, PlaybackHealth.nextInstance_toNat hn]
  exact Nat.lt_succ_self _

theorem inactive_step (hb : made.begins = false) (hdown : p.health.active = false)
    (hs : p.step made = some p') : p'.health.active = false := by
  rw [step_health hs]
  exact PlaybackHealth.call_inactive hb hdown

theorem inactive_run {t : ℕ} {span : List PlaybackCall} (hb : ∀ c ∈ span, c.begins = false)
    (hdown : p.health.active = false) (hr : (machine t).run p span = some p') :
    p'.health.active = false := by
  induction span generalizing p with
  | nil => exact Option.some.inj hr ▸ hdown
  | cons c span ih =>
    obtain ⟨p₁, hs, hr⟩ := Option.bind_eq_some_iff.mp hr
    have hfirst := inactive_step (hb c List.mem_cons_self) hdown hs
    exact ih (fun c' hc' => hb c' (List.mem_cons_of_mem _ hc')) hfirst hr

/-- A fault or a stop ends the attempt. -/
theorem ended (hs : p.step made = some p')
    (he : (p.health.recorded made).isSome = true ∨ made = .stop) :
    made.begins = false ∧ p'.health.active = false := by
  rw [step_health hs]
  obtain hrecorded | rfl := he
  · obtain ⟨fault, hf⟩ := Option.isSome_iff_exists.mp hrecorded
    have hb : made.begins = false := by
      cases made with
      | beginAttempt => cases hf
      | _ => rfl
    exact ⟨hb, (PlaybackHealth.faults_spend.report _ made fault hb hf).2⟩
  · exact ⟨rfl, rfl⟩

def lostStream : PlaybackFault := ⟨.busError, "stream lost", true⟩

/-- One attempt, its fault and the recovery that follows. -/
theorem next_attempt {t now : ℕ} (h : (machine t).Reachable p)
    (hdue : p.health.nextRetry = some now) : ∃ p', (machine t).Reachable p' ∧
      p'.health.generation = nextInstance p.health.generation ∧
      p'.health.nextRetry.isSome = true := by
  let p₁ := p.note (.beginAttempt now)
  let p₂ := p₁.note (.recordFault (nextInstance p.health.generation) lostStream)
  have hbegin : (machine t).step p (.beginAttempt now) = some p₁ := by
    simp [machine, step, PlaybackHealth.due, hdue, p₁]
  have hfault : (machine t).step p₁ (.recordFault (nextInstance p.health.generation) lostStream) =
      some p₂ := rfl
  have hlost : p₂.health = { p.health.beginAttempt with
      active := false
      firstFault := some lostStream
      state := .recovering
      fault := some lostStream } := by
    simp [p₂, p₁, note, PlaybackHealth.call, PlaybackHealth.recordFault,
      PlaybackHealth.beginAttempt, lostStream]
  have hschedule : (machine t).step p₂ (.scheduleRecovery 0) = some (p₂.note (.scheduleRecovery 0)) := by
    simp [machine, step, hlost]
  have hlast : p₂.step (.scheduleRecovery 0) = some (p₂.note (.scheduleRecovery 0)) := hschedule
  refine ⟨_, .step (.step (.step h trivial hbegin) trivial hfault) trivial hschedule, ?_, ?_⟩
  · rw [step_health hlast]
    simp only [PlaybackHealth.call, PlaybackHealth.scheduleRecovery_generation, hlost]
    rfl
  · rw [step_health hlast, hlost]
    simp [PlaybackHealth.call, PlaybackHealth.scheduleRecovery, PlaybackHealth.beginAttempt]

theorem reaches_generation (n : ℕ) (hn : n < 2 ^ 64) : ∃ p, (machine 0).Reachable p ∧
    p.health.generation.toNat = n ∧ p.health.nextRetry.isSome = true := by
  induction n with
  | zero => exact ⟨initial 0, .initial, rfl, rfl⟩
  | succ n ih =>
    obtain ⟨p, hp, rfl, hnext⟩ := ih (by omega)
    obtain ⟨now, hdue⟩ := Option.isSome_iff_exists.mp hnext
    obtain ⟨p', hp', hgeneration, hnext'⟩ := next_attempt hp hdue
    exact ⟨p', hp', by rw [hgeneration, PlaybackHealth.nextInstance_toNat hn], hnext'⟩

def badSettings : PlaybackFault := ⟨.configuration, "Check camera settings", false⟩

end PlaybackTrack

end PocketStream
