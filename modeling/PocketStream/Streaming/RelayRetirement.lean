import PocketStream.Config.Settings
import PocketStream.Streaming.RelayHealth

/-! # Retired relays

Stop retires the health record before its listener is torn down, while the
callbacks of that listener still report. Stop leaves the instance as it is, so
a report for the last instance is taken for a current one. Which reports bring
a stopped relay back is decided here, and a run in which none of them comes
keeps the relay stopped and its camera connections refused.
-/

namespace PocketStream

/-- The calls on a health record that neither begin an instance nor stop it. -/
inductive RelayReport where
  | callback (serverInstance : UInt64) (c : RelayCallback)
  | markBuildFailed (serverInstance : UInt64) (reason : String) (bindFailure : Bool)
  | scheduleRecoveryAttempt
  | markRecoveryInProgress
  | markResolutionFailed (reason : String)
  | forceMaxBackoff
  | acceptFault (fault : RelayFault)
  | evaluateWatchdog (now : ℕ)

inductive RelayRuntimeCall where
  | beginServerInstance (recovering : Bool)
  | stop
  | report (r : RelayReport)

/-- The gate of a listener's camera connections; `ready` is what the camera path answers. -/
def guardRelayUpstream {α : Type} (h : RelayHealth) (generation expectedGeneration : UInt64)
    (ready : Fallible α) : Fallible α :=
  if generation ≠ expectedGeneration ∨ !h.upstreamAllowed then
    .error (.stream "Relay connection superseded or retired")
  else ready

namespace RelayHealth

def report (h : RelayHealth) : RelayReport → RelayHealth
  | .callback serverInstance c => (h.callback serverInstance c).2
  | .markBuildFailed serverInstance reason bindFailure =>
    h.markBuildFailed serverInstance reason bindFailure
  | .scheduleRecoveryAttempt => h.scheduleRecoveryAttempt.2
  | .markRecoveryInProgress => h.markRecoveryInProgress
  | .markResolutionFailed reason => h.markResolutionFailed reason
  | .forceMaxBackoff => h.forceMaxBackoff
  | .acceptFault fault => (h.acceptFault fault).2
  | .evaluateWatchdog now => (h.evaluateWatchdog now).2

def reports (h : RelayHealth) (late : List RelayReport) : RelayHealth := late.foldl report h

def call (h : RelayHealth) : RelayRuntimeCall → RelayHealth
  | .beginServerInstance recovering => (h.beginServerInstance recovering).2
  | .stop => h.stop
  | .report r => h.report r

def calls (h : RelayHealth) (before : List RelayRuntimeCall) : RelayHealth := before.foldl call h

/-- Whether a report brings a stopped relay back. -/
def revives (h : RelayHealth) : RelayReport → Bool
  | .callback serverInstance .markListenerBound | .callback serverInstance .beginDataGeneration =>
    h.serverInstance == serverInstance && h.firstFault.isNone
  | .markBuildFailed serverInstance _ _ => h.serverInstance == serverInstance
  | .markRecoveryInProgress | .markResolutionFailed _ => true
  | .acceptFault fault =>
    h.serverGeneration == fault.serverGeneration && h.firstFault == some fault
  | _ => false

/-- Stopped, and every camera connection of the listener is refused. -/
structure Refuses (h : RelayHealth) : Prop where
  stopped : h.state = .stopped
  upstream : h.upstreamAllowed = false
  connection : ∀ (generation expectedGeneration : UInt64) (ready : Fallible Unit),
    ∃ reason, guardRelayUpstream h generation expectedGeneration ready = .error reason

/-- What a stop leaves: no data generation is current any more. -/
structure Retired (h : RelayHealth) : Prop where
  stopped : h.state = .stopped
  dataless : h.activeDataGeneration = none

variable {h : RelayHealth} {late : List RelayReport}

theorem retired_stop (h : RelayHealth) : h.stop.Retired := ⟨rfl, rfl⟩

theorem refuses_iff : h.Refuses ↔ h.state = .stopped := by
  constructor
  · exact fun hr => hr.stopped
  · intro hs
    have hu : h.upstreamAllowed = false := by simp [upstreamAllowed, hs]
    exact ⟨hs, hu, fun _ _ _ => ⟨_, if_pos (by simp [hu])⟩⟩

theorem Retired.not_current (hr : h.Retired) (i d : UInt64) : h.isCurrentData i d = false := by
  simp [isCurrentData, hr.dataless]

/-- A callback of the listener brings the relay back by a bound or by new data. -/
theorem Retired.callback (hr : h.Retired) (i : UInt64) (c : RelayCallback)
    (hc : h.revives (.callback i c) = false) : (h.callback i c).2.Retired := by
  obtain ⟨hs, hd⟩ := hr
  cases c with
  | loopStarted =>
    simp only [RelayHealth.callback, loopStarted]
    split <;> exact ⟨hs, hd⟩
  | loopExited intentional reason =>
    simp only [RelayHealth.callback, loopExited, recordFaultLocked]
    split_ifs <;> exact ⟨hs, hd⟩
  | markListenerBound =>
    simp only [RelayHealth.callback, markListenerBound]
    split_ifs with hi hf
    · exact ⟨hs, hd⟩
    · exact ⟨hs, hd⟩
    all_goals simp_all [revives]
  | beginDataGeneration =>
    simp only [RelayHealth.callback, beginDataGeneration]
    split_ifs with hi
    · exact ⟨hs, hd⟩
    · simp_all [revives]
  | _ => constructor <;> simp [RelayHealth.callback, armFirstBuffer, disarmFirstBuffer,
      endDataGeneration, observeBuffer, reportStreamingWithoutBuffer, reportFault,
      Retired.not_current ⟨hs, hd⟩, hs, hd]

theorem Retired.report (hr : h.Retired) (r : RelayReport) (hc : h.revives r = false) :
    (h.report r).Retired := by
  obtain ⟨hs, hd⟩ := id hr
  cases r with
  | callback i c => exact hr.callback i c hc
  | markBuildFailed i reason bindFailure =>
    have hi : h.serverInstance ≠ i := by simpa [revives] using hc
    simp [RelayHealth.report, markBuildFailed, hi, hr]
  | scheduleRecoveryAttempt => exact ⟨hs, hd⟩
  | markRecoveryInProgress => cases hc
  | markResolutionFailed reason => cases hc
  | forceMaxBackoff => exact ⟨hs, hd⟩
  | acceptFault fault =>
    have hf : h.serverGeneration = fault.serverGeneration → h.firstFault ≠ some fault := by
      simpa [revives] using hc
    have : h.serverGeneration ≠ fault.serverGeneration ∨ h.firstFault ≠ some fault := by tauto
    simp [RelayHealth.report, acceptFault, this, hr]
  | evaluateWatchdog now =>
    have hb : h.resetBackoff now = h := by simp [resetBackoff, hs]
    simp [RelayHealth.report, evaluateWatchdog, hb, hd, hr]

/-- Every report that revives a stopped relay leaves the state it stopped in. -/
theorem Retired.revived (hr : h.Retired) {r : RelayReport} (hc : h.revives r = true) :
    (h.report r).state ≠ .stopped := by
  cases r with
  | callback i c =>
    cases c <;> simp only [revives, Bool.false_eq_true] at hc
    · simp_all [RelayHealth.report, RelayHealth.callback, markListenerBound, hr.dataless]
    · simp_all [RelayHealth.report, RelayHealth.callback, beginDataGeneration]
  | markBuildFailed i reason bindFailure =>
    simp_all [RelayHealth.report, markBuildFailed, revives]
  | markRecoveryInProgress => simp [RelayHealth.report, markRecoveryInProgress]
  | markResolutionFailed reason => simp [RelayHealth.report, markResolutionFailed]
  | acceptFault fault =>
    have : h.serverGeneration = fault.serverGeneration ∧ h.firstFault = some fault := by
      simpa [revives] using hc
    simp only [RelayHealth.report, acceptFault, this.1, this.2, ne_eq, not_true_eq_false, or_self,
      ↓reduceIte]
    split <;> simp
  | scheduleRecoveryAttempt => cases hc
  | forceMaxBackoff => cases hc
  | evaluateWatchdog now => cases hc

theorem Retired.reports (hr : h.Retired)
    (hl : ∀ done r rest, late = done ++ r :: rest → (h.reports done).revives r = false) :
    (h.reports late).Retired := by
  induction late generalizing h with
  | nil => exact hr
  | cons r late ih =>
    have hfirst : h.revives r = false := hl [] r late rfl
    refine ih (hr.report r hfirst) fun done r' rest he => ?_
    exact hl (r :: done) r' rest (congrArg (r :: ·) he)

theorem Retired.unrevived (hr : h.Retired)
    (hs : ∀ done rest, late = done ++ rest → (h.reports done).state = .stopped) :
    ∀ done r rest, late = done ++ r :: rest → (h.reports done).revives r = false := by
  induction late generalizing h with
  | nil => simp
  | cons first late ih =>
    have hfirst : h.revives first = false := by
      by_contra hc
      exact hr.revived (Bool.not_eq_false _ ▸ hc) (hs [first] late rfl)
    intro done r rest he
    cases done with
    | nil =>
      obtain ⟨rfl, -⟩ := List.cons.inj he
      exact hfirst
    | cons r' done =>
      obtain ⟨rfl, hlate⟩ := List.cons.inj he
      refine ih (hr.report first hfirst) (fun done rest hd => ?_) done r rest hlate
      exact hs (first :: done) rest (congrArg (first :: ·) hd)

/-- After a stop, and until an instance begins, the relay is stopped and refuses every camera
connection in all states of a run exactly when no report of the run revives it. -/
theorem stopped_relay_stays_stopped (generation : UInt64) (kind : RelayIngestKind)
    (before : List RelayRuntimeCall) (late : List RelayReport) :
    (∀ done rest, late = done ++ rest →
      ((((new generation kind).calls before).stop).reports done).Refuses) ↔
    ∀ done r rest, late = done ++ r :: rest →
      ((((new generation kind).calls before).stop).reports done).revives r = false := by
  have hstop := retired_stop ((new generation kind).calls before)
  constructor
  · intro hkept
    exact hstop.unrevived fun done rest he => (hkept done rest he).stopped
  · intro hl done rest he
    refine refuses_iff.mpr (hstop.reports fun d r rest' hd => ?_).stopped
    exact hl d r (rest' ++ rest) (by rw [he, hd]; simp)

/-- A viewer that connects during the teardown is refused, and the refusal is reported for the
stopped instance: the relay is then failed, and camera connections are allowed again. -/
theorem refused_viewer_revives_stopped_relay :
    let (serverInstance, begun) := (new 41 .rtsp).beginServerInstance false
    let bound := (begun.loopStarted serverInstance).markListenerBound serverInstance
    let late := bound.stop.markBuildFailed serverInstance "Relay instance retired" false
    bound.stop.Refuses ∧ bound.stop.loopAliveFor serverInstance = false ∧
      late.state = .failed ∧ late.upstreamAllowed = true ∧
      guardRelayUpstream late 41 41 (.ok ()) = .ok () := by
  exact ⟨refuses_iff.mpr rfl, rfl, rfl, rfl, rfl⟩

end RelayHealth

end PocketStream
