import PocketStream.Foundation.Latch
import PocketStream.Streaming.RelayRetirement

/-! # The faults of a relay

The main loop, the callbacks of the media and the watchdog report faults of one
listener, each on its own thread. The first one is latched: nothing but the next
instance or a stop clears it, and only it is accepted.
-/

namespace PocketStream

open Foundation

/-- The data generation that a callback carries. -/
def RelayCallback.dataGeneration : RelayCallback → Option UInt64
  | .armFirstBuffer g _ | .disarmFirstBuffer g | .endDataGeneration g | .observeBuffer g _
  | .reportStreaming g _ | .reportFault g _ _ => some g
  | .loopStarted | .loopExited .. | .markListenerBound | .beginDataGeneration => none

namespace RelayHealth

/-- The fault event that a report returns. -/
def reportEvent (h : RelayHealth) : RelayReport → Option RelayFault
  | .callback serverInstance c => (h.callback serverInstance c).1
  | .evaluateWatchdog now => (h.evaluateWatchdog now).1
  | _ => none

def callEvent (h : RelayHealth) : RelayRuntimeCall → Option RelayFault
  | .report r => h.reportEvent r
  | .beginServerInstance _ | .stop => none

/-- The calls on a health record, with the fault events they return. -/
def faultReporter : Reporter RelayHealth RelayRuntimeCall RelayFault :=
  ⟨fun h c => (h.callEvent c, h.call c)⟩

end RelayHealth

/-- A new instance or a stop clears the record. -/
def RelayRuntimeCall.renews : RelayRuntimeCall → Bool
  | .beginServerInstance _ | .stop => true
  | .report _ => false

namespace RelayHealth

/-- The call carries an instance or a data generation that is not the current one. -/
def foreign (h : RelayHealth) : RelayRuntimeCall → Bool
  | .report (.callback serverInstance c) =>
    serverInstance != h.serverInstance ||
      c.dataGeneration.any fun g => h.activeDataGeneration != some g
  | .report (.markBuildFailed serverInstance _ _) => serverInstance != h.serverInstance
  | .report (.acceptFault fault) =>
    fault.serverGeneration != h.serverGeneration || fault.dataGeneration != h.dataGeneration
  | _ => false

variable {h : RelayHealth} {i : UInt64} {c : RelayCallback} {made : RelayRuntimeCall}

theorem recordFaultLocked_latches (h : RelayHealth) (kind : RelayFaultKind) (reason : String)
    (g : UInt64) : (h.recordFaultLocked kind reason g).2.firstFault =
      h.firstFault.or (h.recordFaultLocked kind reason g).1 := by
  unfold recordFaultLocked
  cases hf : h.firstFault with
  | none => rfl
  | some fault => exact hf

/-- A callback keeps the first fault, or its event becomes it. -/
theorem callback_latches (h : RelayHealth) (i : UInt64) (c : RelayCallback) :
    (h.callback i c).2.firstFault = h.firstFault.or (h.callback i c).1 := by
  cases c with
  | loopExited intentional reason =>
    simp only [callback, loopExited]
    split
    · simp
    · split
      · simp
      · exact recordFaultLocked_latches ..
  | reportFault g kind reason =>
    simp only [callback, reportFault]
    split
    · simp
    · exact recordFaultLocked_latches ..
  | beginDataGeneration =>
    simp only [callback, beginDataGeneration]
    split
    · simp
    · next hnot =>
      have hnone : h.firstFault = none := by simpa using (not_or.mp hnot).2
      simp [hnone]
  | _ =>
    simp only [callback, loopStarted, markListenerBound, armFirstBuffer, disarmFirstBuffer,
      endDataGeneration, observeBuffer, reportStreamingWithoutBuffer, Option.or_none]
    split_ifs <;> rfl

theorem firstFault_resetBackoff (h : RelayHealth) (now : ℕ) :
    (h.resetBackoff now).firstFault = h.firstFault := by
  unfold resetBackoff
  split <;> rfl

theorem checkStall_latches (h : RelayHealth) (last now : ℕ) :
    (h.checkStall last now).2.firstFault = h.firstFault.or (h.checkStall last now).1 := by
  unfold checkStall
  dsimp only
  split
  · rw [recordFaultLocked_latches]
    split <;> rfl
  · split <;> simp

theorem checkFirstBuffer_latches (h : RelayHealth) (started now : ℕ) :
    (h.checkFirstBuffer started now).2.firstFault =
      h.firstFault.or (h.checkFirstBuffer started now).1 := by
  unfold checkFirstBuffer
  split
  · exact recordFaultLocked_latches ..
  · simp

theorem watchdog_latches (h : RelayHealth) (now : ℕ) :
    (h.evaluateWatchdog now).2.firstFault = h.firstFault.or (h.evaluateWatchdog now).1 := by
  unfold evaluateWatchdog
  rw [← firstFault_resetBackoff h now]
  dsimp only
  split
  · simp
  · split
    · exact checkStall_latches ..
    · exact checkFirstBuffer_latches ..
    · simp

theorem report_latches (h : RelayHealth) (r : RelayReport) :
    (h.report r).firstFault = h.firstFault.or (h.reportEvent r) := by
  cases r with
  | callback i c => exact callback_latches h i c
  | evaluateWatchdog now => exact watchdog_latches h now
  | markBuildFailed => simp [report, reportEvent, markBuildFailed]; split <;> rfl
  | acceptFault => simp [report, reportEvent, acceptFault]; split <;> rfl
  | scheduleRecoveryAttempt | markRecoveryInProgress | markResolutionFailed | forceMaxBackoff =>
    simp [report, reportEvent, scheduleRecoveryAttempt, markRecoveryInProgress,
      markResolutionFailed, forceMaxBackoff]

theorem faults_latched : faultReporter.Latches firstFault RelayRuntimeCall.renews where
  keep h c hc := by
    cases c with
    | beginServerInstance | stop => cases hc
    | report r => exact report_latches h r
  renew h c hc := by
    cases c with
    | beginServerInstance | stop => rfl
    | report r => cases hc

theorem callback_silent (hf : h.firstFault.isSome = true) (i : UInt64) (c : RelayCallback) :
    (h.callback i c).1 = none := by
  cases c <;> simp only [callback, loopExited, recordFaultLocked, reportFault] <;> grind

theorem watchdog_silent (hf : h.firstFault.isSome = true) (now : ℕ) :
    (h.evaluateWatchdog now).1 = none := by
  simp only [evaluateWatchdog, resetBackoff]
  grind

theorem faults_spend :
    faultReporter.Spends (fun h => h.firstFault.isSome = true) RelayRuntimeCall.renews where
  report h c fault hc ho := by
    have hkeep := faults_latched.keep h c hc
    rw [ho] at hkeep
    refine ⟨fun hf => ?_, by rw [hkeep]; simp⟩
    cases c with
    | beginServerInstance | stop => cases hc
    | report r =>
      cases r with
      | callback i c => cases (callback_silent hf i c).symm.trans ho
      | evaluateWatchdog now => cases (watchdog_silent hf now).symm.trans ho
      | _ => cases ho
  keep h c hc hf := by
    rw [faults_latched.keep h c hc]
    simp [hf]

/-- A callback of another instance, or for other data, changes nothing. -/
theorem callback_foreign (hf : h.foreign (.report (.callback i c)) = true) :
    h.callback i c = (none, h) := by
  by_cases hi : h.serverInstance = i
  · have hdata : ∃ g, c.dataGeneration = some g ∧ h.activeDataGeneration ≠ some g := by
      simpa [foreign, hi, Option.any_eq_true] using hf
    obtain ⟨g, hg, hne⟩ := hdata
    have hcurrent : h.isCurrentData i g = false := by simp [isCurrentData, hne]
    cases c with
    | loopStarted | loopExited | markListenerBound | beginDataGeneration => cases hg
    | _ =>
      obtain rfl := Option.some.inj hg
      simp [callback, armFirstBuffer, disarmFirstBuffer, endDataGeneration, observeBuffer,
        reportStreamingWithoutBuffer, reportFault, hcurrent]
  · exact callback_other hi c

/-- The active data are those of the last generation, and so is the fault. -/
structure Attributed (h : RelayHealth) : Prop where
  active : ∀ g, h.activeDataGeneration = some g → h.dataGeneration = g
  fault : ∀ fault, h.firstFault = some fault →
    fault.serverGeneration = h.serverGeneration ∧ fault.dataGeneration = h.dataGeneration

theorem Attributed.foreign (ha : h.Attributed) (hf : h.foreign made = true) :
    h.callEvent made = none ∧ h.call made = h := by
  cases made with
  | beginServerInstance | stop => cases hf
  | report r =>
    cases r with
    | callback i c =>
      have hc := callback_foreign hf
      exact ⟨congrArg Prod.fst hc, congrArg Prod.snd hc⟩
    | markBuildFailed i reason bindFailure =>
      have hi : i ≠ h.serverInstance := by simpa [RelayHealth.foreign] using hf
      exact ⟨rfl, if_pos hi.symm⟩
    | acceptFault fault =>
      refine ⟨rfl, congrArg Prod.snd (if_pos ?_)⟩
      by_contra hown
      obtain ⟨hgeneration, hlatched⟩ := not_or.mp hown
      obtain ⟨-, hdata⟩ := ha.fault fault (not_not.mp hlatched)
      simp [RelayHealth.foreign, not_not.mp hgeneration, hdata] at hf
    | _ => cases hf

theorem attributed_recordFault {kind : RelayFaultKind} {reason : String} {g : UInt64}
    (ha : h.Attributed) (hg : g = h.dataGeneration) :
    (h.recordFaultLocked kind reason g).2.Attributed := by
  unfold recordFaultLocked
  split
  · exact ha
  · refine ⟨ha.active, fun fault hfault => ?_⟩
    obtain rfl := Option.some.inj hfault
    exact ⟨rfl, hg⟩

/-- The record changes in what is not attributed, or the data end. -/
theorem Attributed.change {h' : RelayHealth} (ha : h.Attributed)
    (hserver : h'.serverGeneration = h.serverGeneration)
    (hdata : h'.dataGeneration = h.dataGeneration)
    (hactive : h'.activeDataGeneration = h.activeDataGeneration ∨ h'.activeDataGeneration = none)
    (hfault : h'.firstFault = h.firstFault ∨ h'.firstFault = none) : h'.Attributed := by
  constructor
  · intro g hg
    obtain hsame | hnone := hactive
    · rw [hdata]
      exact ha.active g (hsame ▸ hg)
    · cases hnone.symm.trans hg
  · intro fault hf
    obtain hsame | hnone := hfault
    · rw [hserver, hdata]
      exact ha.fault fault (hsame ▸ hf)
    · cases hnone.symm.trans hf

theorem Attributed.getD (ha : h.Attributed) :
    h.activeDataGeneration.getD h.dataGeneration = h.dataGeneration := by
  cases hg : h.activeDataGeneration with
  | none => rfl
  | some g => exact (ha.active g hg).symm

theorem Attributed.callback (ha : h.Attributed) (i : UInt64) (c : RelayCallback) :
    (h.callback i c).2.Attributed := by
  cases c with
  | loopExited intentional reason =>
    simp only [RelayHealth.callback, loopExited]
    have hdown : Attributed { h with loopAlive := false } :=
      ha.change rfl rfl (.inl rfl) (.inl rfl)
    split
    · exact ha
    · split
      · exact hdown
      · exact attributed_recordFault hdown ha.getD
  | reportFault g kind reason =>
    simp only [RelayHealth.callback, reportFault]
    split
    · exact ha
    · next hcurrent =>
      have hg : h.activeDataGeneration = some g := by
        simp [isCurrentData] at hcurrent
        exact hcurrent.1.2
      exact attributed_recordFault ha (ha.active g hg).symm
  | beginDataGeneration =>
    simp only [RelayHealth.callback, beginDataGeneration]
    split
    · exact ha
    · exact ⟨fun g hg => Option.some.inj hg, by simp⟩
  | _ =>
    simp only [RelayHealth.callback, loopStarted, markListenerBound, armFirstBuffer,
      disarmFirstBuffer, endDataGeneration, observeBuffer, reportStreamingWithoutBuffer]
    split_ifs
    all_goals first
      | exact ha
      | exact ha.change rfl rfl (.inl rfl) (.inl rfl)
      | exact ha.change rfl rfl (.inr rfl) (.inl rfl)

theorem Attributed.watchdog (ha : h.Attributed) (now : ℕ) :
    (h.evaluateWatchdog now).2.Attributed := by
  have hreset : (h.resetBackoff now).Attributed := by
    unfold resetBackoff
    split
    · exact ha.change rfl rfl (.inl rfl) (.inl rfl)
    · exact ha
  unfold evaluateWatchdog
  generalize h.resetBackoff now = h₁ at hreset ⊢
  dsimp only
  split
  · exact hreset
  · next hactive =>
    -- the data are active, so the default of the generation is not used
    have hg : h₁.activeDataGeneration.getD 0 = h₁.dataGeneration := by
      obtain ⟨-, hrest⟩ := not_or.mp hactive
      cases hd : h₁.activeDataGeneration with
      | none => simp [hd] at hrest
      | some g => exact (hreset.active g hd).symm
    split
    · next last _ =>
      unfold checkStall
      have hwarned : Attributed { h₁ with stallWarningEmitted := true, healthySince := none } :=
        hreset.change rfl rfl (.inl rfl) (.inl rfl)
      dsimp only
      split_ifs
      · exact attributed_recordFault hwarned hg
      · exact attributed_recordFault hreset hg
      · exact hwarned
      · exact hreset
    · unfold checkFirstBuffer
      split
      · exact attributed_recordFault hreset hg
      · exact hreset
    · exact hreset

theorem Attributed.call (ha : h.Attributed) (made : RelayRuntimeCall) :
    (h.call made).Attributed := by
  cases made with
  | beginServerInstance | stop => exact ha.change rfl rfl (.inr rfl) (.inr rfl)
  | report r =>
    cases r with
    | callback i c => exact ha.callback i c
    | evaluateWatchdog now => exact ha.watchdog now
    | markBuildFailed | acceptFault =>
      simp only [RelayHealth.call, RelayHealth.report, markBuildFailed, acceptFault]
      split
      all_goals first
        | exact ha
        | exact ha.change rfl rfl (.inl rfl) (.inl rfl)
        | exact ha.change rfl rfl (.inr rfl) (.inl rfl)
    | _ => exact ha.change rfl rfl (.inl rfl) (.inl rfl)

theorem attributed_calls (generation : UInt64) (kind : RelayIngestKind)
    (before : List RelayRuntimeCall) : ((new generation kind).calls before).Attributed := by
  induction before using List.reverseRecOn with
  | nil => exact ⟨nofun, nofun⟩
  | append_singleton before call ih =>
    simp only [calls, List.foldl_append, List.foldl_cons, List.foldl_nil]
    exact ih.call call

/-- Nothing that a faulted listener reports reaches the record. -/
theorem callback_after_fault (hf : h.firstFault.isSome = true) (i : UInt64) (c : RelayCallback) :
    (h.callback i c).1 = none ∧ (h.callback i c).2.firstFault = h.firstFault ∧
      (h.callback i c).2.error = h.error ∧ (h.callback i c).2.state = h.state := by
  obtain ⟨hfault, hstate⟩ := callback_faulted hf i c
  refine ⟨callback_silent hf i c, hfault, ?_, hstate⟩
  cases c <;> simp only [callback, loopStarted, loopExited, recordFaultLocked, markListenerBound,
    beginDataGeneration, armFirstBuffer, disarmFirstBuffer, endDataGeneration, observeBuffer,
    reportStreamingWithoutBuffer, reportFault, isCurrentData] <;> grind

theorem instance_call (hc : made.renews = false) :
    (h.call made).serverInstance = h.serverInstance := by
  cases made with
  | beginServerInstance | stop => cases hc
  | report r =>
    cases r with
    | callback i c => exact (callback_identity h i c).2
    | evaluateWatchdog now => exact (watchdog_keeps h now).2.1
    | markBuildFailed | acceptFault =>
      simp only [RelayHealth.call, report, markBuildFailed, acceptFault]
      split <;> rfl
    | _ => rfl

theorem instance_calls {later : List RelayRuntimeCall} (hl : ∀ c ∈ later, c.renews = false) :
    (h.calls later).serverInstance = h.serverInstance := by
  induction later generalizing h with
  | nil => rfl
  | cons call later ih =>
    have hfirst := instance_call (h := h) (hl call List.mem_cons_self)
    exact (ih fun c hc => hl c (List.mem_cons_of_mem _ hc)).trans hfirst

/-- Only the current instance's callbacks report. -/
theorem event_current (hi : i ≠ h.serverInstance) : (h.callback i c).1 = none :=
  congrArg Prod.fst (callback_other (Ne.symm hi) c)

theorem acceptFault_held {fault : RelayFault} (ha : (h.acceptFault fault).1 = true) :
    h.firstFault = some fault := by
  obtain hno | ⟨-, hheld, -⟩ := acceptFault_cases h fault
  · rw [hno] at ha
    cases ha
  · exact hheld

/-- Between two renewals of the record one fault event at most is returned, a call for another
instance or other data changes nothing, a callback after the fault leaves fault, error and state
alone, and the fault that is accepted was recorded by the current instance. -/
theorem relay_faults_coalesced (generation : UInt64) (kind : RelayIngestKind)
    (before : List RelayRuntimeCall) :
    let h := (new generation kind).calls before
    (∀ span : List RelayRuntimeCall, (∀ c ∈ span, c.renews = false) →
      (faultReporter.reports h span).length ≤ 1) ∧
    (∀ call, h.foreign call = true → h.callEvent call = none ∧ h.call call = h) ∧
    (h.firstFault.isSome = true → ∀ i c, (h.callback i c).2.firstFault = h.firstFault ∧
      (h.callback i c).2.error = h.error ∧ (h.callback i c).2.state = h.state) ∧
    (∀ fault, (h.acceptFault fault).1 = true → ∃ earlier call later,
      before = earlier ++ call :: later ∧
      ((new generation kind).calls earlier).callEvent call = some fault ∧
      (∀ c ∈ call :: later, c.renews = false) ∧
      ∀ i c, call = .report (.callback i c) → i = h.serverInstance) := by
  intro h
  refine ⟨fun span hs => faults_spend.once hs,
    fun call hf => (attributed_calls generation kind before).foreign hf,
    fun hf i c => (callback_after_fault hf i c).2, fun fault hf => ?_⟩
  obtain ⟨earlier, call, later, rfl, hevent, hstill⟩ :=
    faults_latched.origin (s := new generation kind) rfl (acceptFault_held hf)
  refine ⟨earlier, call, later, rfl, hevent, hstill, ?_⟩
  rintro i c rfl
  have hsame : h.serverInstance = ((new generation kind).calls earlier).serverInstance := by
    have hrun : h = ((new generation kind).calls earlier).calls (.report (.callback i c) :: later) :=
      List.foldl_append
    rw [hrun]
    exact instance_calls hstill
  rw [hsame]
  by_contra hother
  cases (event_current hother).symm.trans hevent

/-- A stop lets the main loop of the same instance report a second fault. -/
theorem stop_admits_second_fault :
    let (serverInstance, begun) := (new 7 .rtsp).beginServerInstance false
    faultReporter.reports begun [.report (.callback serverInstance .loopStarted),
      .report (.callback serverInstance (.loopExited false "first")), .stop,
      .report (.callback serverInstance (.loopExited false "second"))] =
        [⟨.mainLoopExited, "first", 7, 0⟩, ⟨.mainLoopExited, "second", 7, 0⟩] :=
  rfl

end RelayHealth

end PocketStream
