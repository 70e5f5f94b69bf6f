import PocketStream.Network.CaptureOwnership

/-! # The listener that a start retains

A start keeps the installed listener when the recorded identity is active. A
flag that is down stays down. While it is up, somebody awaits the activation of
its thread, or the identity describes it and its handle is in the slot.
-/

namespace PocketStream

open Foundation

namespace Capture

/-- The thread whose activation the operation has yet to see or to record. -/
def Lifecycle.awaited : Lifecycle → Option ℕ
  | .ensure _ (.install handle) | .ensure _ (.activation handle)
  | .ensure _ (.identify handle _) => some handle
  | _ => none

def LadderStage.awaited : LadderStage → Option ℕ
  | .install handle | .adopt handle | .activation (.thread handle) => some handle
  | _ => none

/-- The listener that the watchdog has restarted, while it waits for its activation. -/
def LadderStage.restarted : LadderStage → Option ℕ
  | .activation (.thread handle) => some handle
  | _ => none

/-- The restarted listener is not in the recorded identity yet. -/
def LadderStage.installing : LadderStage → Bool
  | .install _ | .adopt _ => true
  | _ => false

namespace CaptureHost

variable {s s' : CaptureHost} {input : Input}

/-- The flags that are down stay down, and their threads have no frame merged. -/
structure Fades (s s' : CaptureHost) : Prop where
  started : s.started ≤ s'.started
  active : ∀ handle < s.started, (s.threads handle).active = false →
    (s'.threads handle).active = false
  merged : ∀ handle < s.started, (s.threads handle).active = false →
    s'.merged.count handle = s.merged.count handle

theorem Fades.trans {s₁ : CaptureHost} (h : Fades s s₁) (h' : Fades s₁ s') : Fades s s' := by
  have hlt' : ∀ handle < s.started, handle < s₁.started := fun handle hlt =>
    Nat.lt_of_lt_of_le hlt h.started
  constructor
  · exact Nat.le_trans h.started h'.started
  · intro handle hlt hdown
    exact h'.active handle (hlt' handle hlt) (h.active handle hlt hdown)
  · intro handle hlt hdown
    rw [h'.merged handle (hlt' handle hlt) (h.active handle hlt hdown), h.merged handle hlt hdown]

theorem SameThreads.fades (h : SameThreads s s') : Fades s s' where
  started := Nat.le_of_eq h.started.symm
  active handle _ := h.active handle
  merged := by simp [h.merged]

theorem Handoff.fades {owned owned' : List ℕ} (h : Handoff s s' owned owned') : Fades s s' := by
  cases h with
  | keep _ _ hthreads | take _ _ _ hthreads | park _ _ hthreads | reap _ _ _ hthreads
  | join _ _ _ hthreads | install _ _ _ hthreads => exact hthreads.fades
  | start _ _ _ _ hstarted hmerged _ hactive =>
    constructor
    · omega
    · exact hactive
    · simp [hmerged]

theorem fades_of_step {call : Call} (h : s.Placed) (hs : s.step call = some s') : Fades s s' := by
  cases moves_of_step h hs with
  | same hstarted _ hactive hmerged =>
    constructor
    · omega
    · exact fun handle _ => hactive handle
    · exact fun handle _ => hmerged handle
  | operation _ hm => exact hm.handoff.fades
  | watchdog _ hm => exact hm.handoff.fades
  | stopped _ _ heq =>
    subst heq
    apply SameThreads.fades
    cases ‹Purpose› <;> exact .of_eq rfl rfl rfl
  | aborted _ heq =>
    subst heq
    apply SameThreads.fades
    have hthreads := (abortWatchdog_same s).1
    cases ‹Purpose› <;> exact hthreads.congr rfl rfl rfl

/-- In every later state the flags that are down are still down. -/
theorem fades_of_run {calls : List Call} (h : machine.Reachable s)
    (hrun : machine.run s calls = some s') : Fades s s' := by
  induction calls generalizing s with
  | nil =>
    cases hrun
    exact (SameThreads.of_eq rfl rfl rfl).fades
  | cons call calls ih =>
    obtain ⟨s₁, hs, hrest⟩ := Option.bind_eq_some_iff.mp hrun
    exact (fades_of_step (placed_of_reachable h) hs).trans (ih (.step h trivial hs) hrest)

/-- The incarnation that the recorded identity describes. -/
def incarnation (s : CaptureHost) : Option ℕ := s.captureIdentity.map (·.incarnation)

def Awaited (s : CaptureHost) (handle : ℕ) : Prop :=
  s.lifecycle.awaited = some handle ∨ ∃ w, s.watchdog = some w ∧ w.stage.awaited = some handle

/-- The thread has confirmed its activation, and the identity describes its incarnation. -/
def Recorded (s : CaptureHost) (handle : ℕ) : Prop :=
  (s.threads handle).activation.isConfirmed = true ∧ s.arpListenerHandle = some handle ∧
    s.incarnation = some handle

/-- The thread is not told to stop, and its activation is awaited or recorded. -/
def Attended (s : CaptureHost) (handle : ℕ) : Prop :=
  (s.threads handle).stopped = false ∧ (s.Awaited handle ∨ s.Recorded handle)

/-- The flag of the recorded incarnation is down. -/
def Muted (s : CaptureHost) : Prop :=
  ∀ handle, s.incarnation = some handle → (s.threads handle).active = false

/-- Every flag is down. -/
def Silent (s : CaptureHost) : Prop := ∀ handle, (s.threads handle).active = false

def Operation (s : CaptureHost) : Lifecycle → Prop
  | .ensure _ (.retained .keep) =>
    ∃ handle, s.incarnation = some handle ∧ (s.threads handle).active = true
  | .ensure _ .deactivate | .ensure _ .takeOld | .ensure _ (.parkOld _) | .ensure _ .drain
  | .ensure _ .takeFailed | .ensure _ (.parkFailed _) | .stopCapture .deactivate
  | .stopCapture .take | .stopCapture (.park _) => s.incarnation = none
  | .ensure _ (.install handle) => s.incarnation = none ∧ handle < s.started
  | .ensure _ (.activation handle) =>
    s.incarnation = none ∧ handle < s.started ∧ s.arpListenerHandle = some handle
  | .ensure _ (.identify handle _) =>
    s.incarnation = none ∧ handle < s.started ∧ s.arpListenerHandle = some handle ∧
      (s.threads handle).activation.isConfirmed = true
  | .ensure _ (.announce _) => s.incarnation ≠ none
  | _ => True

def Ladder (s : CaptureHost) : LadderStage → Prop
  | .activation (.thread handle) =>
    s.arpListenerHandle = some handle ∧ s.incarnation = some handle
  | .takeUnconfirmed | .parkUnconfirmed _ => False
  | .deactivate _ | .takeDeaf _ | .join .. | .parkWedged _ | .drain _ | .parkStale _ => s.Muted
  | .install handle => s.Muted ∧ handle < s.started
  | .adopt handle => s.Muted ∧ handle < s.started ∧ s.arpListenerHandle = some handle
  | _ => True

structure Tended (s : CaptureHost) : Prop where
  live : ∀ handle, (s.threads handle).active = true → handle < s.started ∧ s.Attended handle
  fresh : ∀ handle, s.incarnation = some handle → handle < s.started
  operation : s.Operation s.lifecycle
  ladder : ∀ w, s.watchdog = some w → s.incarnation ≠ none ∧ s.Ladder w.stage

theorem not_awaited (hl : s.lifecycle.awaited = none)
    (hw : ∀ w, s.watchdog = some w → w.stage.awaited = none) (handle : ℕ) :
    ¬ s.Awaited handle := by
  rintro (h | ⟨w, h, hstage⟩)
  · cases hl.symm.trans h
  · cases (hw w h).symm.trans hstage

/-- When nobody awaits an activation, only the recorded flag may be up. -/
theorem Tended.silent (h : s.Tended) (hm : s.Muted) (ha : ∀ handle, ¬ s.Awaited handle) :
    s.Silent := by
  intro handle
  by_contra hup
  rcases (h.live handle (by simpa using hup)).2.2 with hawaited | ⟨-, -, hi⟩
  · exact ha handle hawaited
  · exact hup (hm handle hi)

theorem muted_of_none (h : s.incarnation = none) : s.Muted := by
  intro handle hi
  cases h.symm.trans hi

theorem Silent.tended (h : s.Silent) (hfresh : ∀ handle, s.incarnation = some handle →
    handle < s.started) (hop : s.Operation s.lifecycle)
    (hladder : ∀ w, s.watchdog = some w → s.incarnation ≠ none ∧ s.Ladder w.stage) : s.Tended where
  live handle hup := absurd (h handle) (by simp [hup])
  fresh := hfresh
  operation := hop
  ladder := hladder

/-- A step that stops no live thread and leaves the slot and the recorded incarnation alone. -/
theorem Tended.carry (h : s.Tended) (hn : s'.started = s.started)
    (hactive : ∀ handle, (s'.threads handle).active = true → (s.threads handle).active = true)
    (hstopped : ∀ handle, (s'.threads handle).active = true →
      (s'.threads handle).stopped = (s.threads handle).stopped)
    (hconfirmed : ∀ handle, (s.threads handle).activation.isConfirmed = true →
      (s'.threads handle).activation.isConfirmed = true)
    (hslot : s'.arpListenerHandle = s.arpListenerHandle) (hi : s'.incarnation = s.incarnation)
    (ha : ∀ handle, s.Awaited handle → s'.Awaited handle ∨ s'.Recorded handle)
    (hop : s'.Operation s'.lifecycle)
    (hladder : ∀ w, s'.watchdog = some w → s'.incarnation ≠ none ∧ s'.Ladder w.stage) :
    s'.Tended where
  live handle hup := by
    obtain ⟨hlt, hstop, hattended⟩ := h.live handle (hactive handle hup)
    refine ⟨hn ▸ hlt, (hstopped handle hup).trans hstop, ?_⟩
    rcases hattended with hawaited | ⟨hconf, hs, hr⟩
    · exact ha handle hawaited
    · exact .inr ⟨hconfirmed handle hconf, hslot.trans hs, hi.trans hr⟩
  fresh handle hr := hn ▸ h.fresh handle (hi ▸ hr)
  operation := hop
  ladder := hladder

/-- A step of an operation that moves no handle. -/
theorem Tended.proceed {l : Lifecycle} (h : s.Tended) (hl : s.lifecycle = l)
    (hnone : s.watchdog = none) (hw : s'.watchdog = s.watchdog) (ht : s'.threads = s.threads)
    (hn : s'.started = s.started) (hslot : s'.arpListenerHandle = s.arpListenerHandle)
    (hi : s'.captureIdentity = s.captureIdentity)
    (ha : ∀ handle, l.awaited = some handle → s'.lifecycle.awaited = some handle)
    (hop : s'.Operation s'.lifecycle) : s'.Tended := by
  apply h.carry hn
  · simp [ht]
  · simp [ht]
  · simp [ht]
  · exact hslot
  · simp [incarnation, hi]
  · rintro handle (hawaited | ⟨w, hsome, -⟩)
    · exact .inl (.inl (ha handle (hl ▸ hawaited)))
    · cases hnone.symm.trans hsome
  · exact hop
  · intro w hsome
    cases hnone.symm.trans (hw.symm.trans hsome)

theorem Tended.startSession (h : s.Tended) (hnone : s.watchdog = none)
    (hl : s.lifecycle.awaited = none) (hi : s.incarnation ≠ none) (request : CaptureRequest)
    (outcome : ScopeOutcome) : (s.startSession request outcome).Tended := by
  unfold CaptureHost.startSession
  split
  · refine h.carry rfl (fun _ => id) (fun _ _ => rfl) (fun _ => id) rfl rfl ?_ trivial ?_
    · rintro handle (hawaited | ⟨w, hsome, -⟩)
      · cases hl.symm.trans hawaited
      · cases hnone.symm.trans hsome
    · rintro w ⟨⟩
      exact ⟨hi, trivial⟩
  · exact h.proceed rfl hnone rfl rfl rfl rfl rfl (by simp [hl]) trivial

theorem keep_active {current : Option CaptureIdentity} {active : ℕ → Bool} {hasListener : Bool}
    {desiredIface : String} {desiredMac : Option (List UInt8)} {live : LiveSourceId}
    {preserve : Bool}
    (h : modeCaptureAction (listenerAction current active hasListener desiredIface desiredMac live)
      preserve = .keep) :
    ∃ c, current = some c ∧ active c.incarnation = true := by
  cases current with
  | none => simp [modeCaptureAction, listenerAction] at h
  | some c =>
    refine ⟨c, rfl, ?_⟩
    by_contra hdown
    rw [Bool.not_eq_true] at hdown
    cases hasListener <;> simp [modeCaptureAction, listenerAction, hdown] at h

theorem retireIdentity_thread (s : CaptureHost) (handle : ℕ) :
    (s.retireIdentity.threads handle).stopped = (s.threads handle).stopped ∧
      (s.retireIdentity.threads handle).activation = (s.threads handle).activation := by
  cases hi : s.captureIdentity with
  | none => simp [retireIdentity, hi]
  | some c =>
    by_cases hk : handle = c.incarnation
    · simp [retireIdentity, hi, retire, update, hk]
    · simp [retireIdentity, hi, retire, update, Function.update_of_ne hk]

theorem silent_retireIdentity (h : s.Tended) (ha : ∀ handle, ¬ s.Awaited handle) :
    s.retireIdentity.Silent := by
  intro handle
  by_contra hup
  have hthreads := (sameThreads_retireIdentity s).active handle
  obtain ⟨-, -, hattended⟩ := h.live handle (by
    by_contra hdown
    exact hup (hthreads (by simpa using hdown)))
  rcases hattended with hawaited | ⟨-, -, hi⟩
  · exact ha handle hawaited
  · obtain ⟨c, hc, rfl⟩ := Option.map_eq_some_iff.mp hi
    simp [retireIdentity, hc, retire, update] at hup

theorem Silent.of_threads (h : s.Silent) (ht : s'.threads = s.threads) : s'.Silent := by
  intro handle
  rw [ht]
  exact h handle

theorem Silent.of_same (h : s.Silent) (hthreads : SameThreads s s') : s'.Silent :=
  fun handle => hthreads.active handle (h handle)

/-- A step of an operation after which every flag is down and no identity is recorded. -/
theorem tended_of_silent (hnone : s'.watchdog = none) (hi : s'.incarnation = none)
    (hop : s'.Operation s'.lifecycle) (h : s'.Silent) : s'.Tended := by
  apply h.tended
  · intro handle hrecorded
    cases hi.symm.trans hrecorded
  · exact hop
  · intro w hw
    cases hnone.symm.trans hw

/-- Without a recorded identity only the awaited flag of the operation may be up. -/
theorem Tended.only_awaited (h : s.Tended) (hnone : s.watchdog = none) (hi : s.incarnation = none)
    {handle : ℕ} (hup : (s.threads handle).active = true) :
    s.lifecycle.awaited = some handle ∧ (s.threads handle).stopped = false := by
  obtain ⟨-, hstop, (hawaited | ⟨w, hw, -⟩) | ⟨-, -, hrecorded⟩⟩ := h.live handle hup
  · exact ⟨hawaited, hstop⟩
  · cases hnone.symm.trans hw
  · cases hi.symm.trans hrecorded

theorem silent_retire {handle : ℕ} (h : ∀ k, (s.threads k).active = true → k = handle) :
    (s.retire handle).Silent := by
  intro k
  by_contra hup
  rw [Bool.not_eq_false] at hup
  by_cases hk : k = handle
  · simp [hk, retire, update] at hup
  · exact hk (h k (by simpa [retire, update, Function.update_of_ne hk] using hup))

/-- The one flag that is up is that of the thread that just started. -/
theorem Silent.startThread (h : s.Silent) {handle : ℕ}
    (hup : (s.startThread.threads handle).active = true) : handle = s.started := by
  by_contra hne
  have hdown := h handle
  simp [CaptureHost.startThread, Function.update_of_ne hne, hdown] at hup

theorem operation_retained {request : CaptureRequest} {action : ListenerAction}
    (h : action = .keep → ∃ handle, s.incarnation = some handle ∧
      (s.threads handle).active = true) : s.Operation (.ensure request (.retained action)) := by
  cases action with
  | keep => exact h rfl
  | attach | replace => trivial

theorem ensureStep_tended {request : CaptureRequest} {stage : EnsureStage} (h : s.Tended)
    (hl : s.lifecycle = .ensure request stage) (hnone : s.watchdog = none)
    (hs : s.ensureStep request stage input = some s') : s'.Tended := by
  have hop := h.operation
  have hna : s.lifecycle.awaited = none → ∀ handle, ¬ s.Awaited handle := fun ha =>
    not_awaited ha fun w hw => by cases hnone.symm.trans hw
  have hsilent : s.lifecycle.awaited = none → s.incarnation = none → s.Silent := fun ha hi =>
    h.silent (muted_of_none hi) (hna ha)
  rw [hl] at hop hna hsilent
  unfold ensureStep takeHandle at hs
  dsimp only at hs
  split at hs
  · obtain rfl := Option.some.inj hs
    exact h.proceed hl hnone rfl rfl rfl rfl rfl (fun _ he => by cases he) trivial
  · obtain rfl := Option.some.inj hs
    split <;> exact h.proceed hl hnone rfl rfl rfl rfl rfl (fun _ he => by cases he) trivial
  · obtain rfl := Option.some.inj hs
    exact h.proceed hl hnone rfl rfl rfl rfl rfl (fun _ he => by cases he) trivial
  · obtain rfl := Option.some.inj hs
    refine h.proceed hl hnone rfl rfl rfl rfl rfl (fun _ he => by cases he) (operation_retained fun hkeep => ?_)
    obtain ⟨c, hc, hup⟩ := keep_active hkeep
    exact ⟨c.incarnation, by simp [incarnation, hc], hup⟩
  · split at hs
    · obtain rfl := Option.some.inj hs
      obtain ⟨handle, hi, -⟩ := hop
      exact h.startSession hnone (by rw [hl]; rfl) (by simp [hi]) request _
    · obtain rfl := Option.some.inj hs
      exact h.proceed hl hnone rfl rfl rfl rfl rfl (fun _ he => by cases he) trivial
  · obtain rfl := Option.some.inj hs
    exact tended_of_silent hnone rfl rfl (.of_threads (silent_retireIdentity h (hna rfl)) rfl)
  · obtain rfl := Option.some.inj hs
    exact h.proceed hl hnone rfl rfl rfl rfl rfl (fun _ he => by cases he) hop
  · obtain rfl := Option.some.inj hs
    split
    · exact h.proceed hl hnone rfl rfl rfl rfl rfl (fun _ he => by cases he) hop
    · exact tended_of_silent hnone hop hop (.of_threads (hsilent rfl hop) rfl)
  · next handle =>
    obtain rfl := Option.some.inj hs
    have hthreads := sameThreads_stopThread s handle
    have hdown := (hsilent rfl hop).of_same hthreads
    exact tended_of_silent hnone hop hop (.of_threads hdown rfl)
  · split at hs
    · obtain rfl := Option.some.inj hs
      exact h.proceed hl hnone rfl rfl rfl rfl rfl (fun _ he => by cases he) (hl ▸ hop)
    · cases hs
  · split at hs
    · obtain rfl := Option.some.inj hs
      have hold := hsilent rfl hop
      constructor
      · intro handle hup
        obtain rfl := hold.startThread hup
        refine ⟨Nat.lt_succ_self _, ?_, .inl (.inl rfl)⟩
        simp [CaptureHost.startThread]
      · intro handle hi
        cases Eq.trans (Eq.symm hop) hi
      · exact ⟨hop, Nat.lt_succ_self _⟩
      · intro w hw
        cases Eq.trans (Eq.symm hnone) hw
    · cases hs
  · split at hs
    · cases hs
    · obtain rfl := Option.some.inj hs
      exact h.proceed hl hnone rfl rfl rfl rfl rfl (fun _ he => by cases he) trivial
  · next handle =>
    obtain rfl := Option.some.inj hs
    constructor
    · intro k hup
      obtain ⟨hawaited, hstop⟩ := h.only_awaited hnone hop.1 hup
      rw [hl] at hawaited
      exact ⟨(h.live k hup).1, hstop, .inl (.inl hawaited)⟩
    · exact h.fresh
    · exact ⟨hop.1, hop.2, rfl⟩
    · intro w hw
      cases Eq.trans (Eq.symm hnone) hw
  · next handle =>
    obtain ⟨hi, hlt, hslot⟩ := hop
    have hmuted : (s.retire handle).Silent := silent_retire fun k hup => by
      have hk := (h.only_awaited hnone hi hup).1
      rw [hl] at hk
      exact (Option.some.inj hk).symm
    split at hs
    · cases hs
    · next hconf =>
      split at hs <;> obtain rfl := Option.some.inj hs
      · refine h.proceed hl hnone rfl rfl rfl rfl rfl (fun _ => id) ⟨hi, hlt, hslot, ?_⟩
        rw [hconf]
        rfl
      · exact tended_of_silent hnone hi hi (.of_threads hmuted rfl)
    · obtain rfl := Option.some.inj hs
      exact tended_of_silent hnone hi hi (.of_threads hmuted rfl)
    · obtain rfl := Option.some.inj hs
      exact tended_of_silent hnone hi hi (.of_threads hmuted rfl)
  · next handle =>
    obtain ⟨hi, hlt, hslot⟩ := hop
    have hmuted : (s.retire handle).Silent := silent_retire fun k hup => by
      have hk := (h.only_awaited hnone hi hup).1
      rw [hl] at hk
      exact (Option.some.inj hk).symm
    split at hs
    · obtain rfl := Option.some.inj hs
      exact tended_of_silent hnone hi hi (.of_threads hmuted rfl)
    · cases hs
  · obtain rfl := Option.some.inj hs
    split
    · exact h.proceed hl hnone rfl rfl rfl rfl rfl (fun _ he => by cases he) trivial
    · exact tended_of_silent hnone hop hop (.of_threads (hsilent rfl hop) rfl)
  · next handle =>
    obtain rfl := Option.some.inj hs
    have hthreads := sameThreads_stopThread s handle
    have hdown := (hsilent rfl hop).of_same hthreads
    exact tended_of_silent hnone hop trivial (.of_threads hdown rfl)
  · next handle outcome =>
    obtain rfl := Option.some.inj hs
    obtain ⟨hi, hlt, hslot, hconf⟩ := hop
    constructor
    · intro k hup
      obtain ⟨hawaited, hstop⟩ := h.only_awaited hnone hi hup
      obtain rfl : handle = k := Option.some.inj (by rw [hl] at hawaited; exact hawaited)
      exact ⟨hlt, hstop, .inr ⟨hconf, hslot, rfl⟩⟩
    · intro k hk
      obtain rfl : handle = k := Option.some.inj hk
      exact hlt
    · exact Option.some_ne_none _
    · intro w hw
      cases Eq.trans (Eq.symm hnone) hw
  · next outcome =>
    obtain rfl := Option.some.inj hs
    have htended : Tended { s with signalActive := true, outcome := some outcome } :=
      ⟨h.live, h.fresh, h.operation, h.ladder⟩
    exact htended.startSession hnone (by simp [hl, Lifecycle.awaited]) hop request _
  · cases hs

theorem stopCaptureStep_tended {stage : StopStage} (h : s.Tended)
    (hl : s.lifecycle = .stopCapture stage) (hnone : s.watchdog = none)
    (hs : s.stopCaptureStep stage input = some s') : s'.Tended := by
  have hop := h.operation
  have hna : ∀ handle, ¬ s.Awaited handle :=
    not_awaited (by rw [hl]; rfl) fun w hw => by cases hnone.symm.trans hw
  have hsilent : s.incarnation = none → s.Silent := fun hi => h.silent (muted_of_none hi) hna
  rw [hl] at hop
  unfold stopCaptureStep takeHandle at hs
  dsimp only at hs
  split at hs
  · obtain rfl := Option.some.inj hs
    exact tended_of_silent hnone rfl rfl (.of_threads (silent_retireIdentity h hna) rfl)
  · obtain rfl := Option.some.inj hs
    exact h.proceed hl hnone rfl rfl rfl rfl rfl nofun hop
  · obtain rfl := Option.some.inj hs
    split
    · exact h.proceed hl hnone rfl rfl rfl rfl rfl nofun trivial
    · exact tended_of_silent hnone hop hop (.of_threads (hsilent hop) rfl)
  · next handle =>
    obtain rfl := Option.some.inj hs
    have hdown := (hsilent hop).of_same (sameThreads_stopThread s handle)
    exact tended_of_silent hnone hop trivial (.of_threads hdown rfl)
  · cases hs

theorem decided_ladder {stage : LadderStage} (h : stage.decided = true) : s.Ladder stage := by
  cases stage <;> trivial

theorem not_alone_operation {l : Lifecycle} (h : l.alone = false) :
    l.awaited = none ∧ s.Operation l := by
  cases l <;> first | exact ⟨rfl, trivial⟩ | cases h

/-- A step of the watchdog that moves no handle. -/
theorem Tended.climb (h : s.Tended) (halone : s.lifecycle.alone = false)
    (ht : s'.threads = s.threads) (hn : s'.started = s.started)
    (hslot : s'.arpListenerHandle = s.arpListenerHandle) (hi : s'.incarnation = s.incarnation)
    (hl : s'.lifecycle = s.lifecycle) (ha : ∀ handle, s.Awaited handle → s.Recorded handle)
    (hladder : ∀ w, s'.watchdog = some w → s'.incarnation ≠ none ∧ s'.Ladder w.stage) :
    s'.Tended := by
  refine h.carry hn ?_ ?_ ?_ hslot hi (fun handle hawaited => .inr ?_) ?_ hladder
  · simp [ht]
  · simp [ht]
  · simp [ht]
  · obtain ⟨hconf, hs, hr⟩ := ha handle hawaited
    exact ⟨by rw [ht]; exact hconf, hslot.trans hs, hi.trans hr⟩
  · exact (not_alone_operation (hl ▸ halone)).2

theorem Tended.climb_to {w : Watchdog} (h : s.Tended) (halone : s.lifecycle.alone = false)
    (hw : s'.watchdog = some w) (ht : s'.threads = s.threads) (hn : s'.started = s.started)
    (hslot : s'.arpListenerHandle = s.arpListenerHandle) (hi : s'.incarnation = s.incarnation)
    (hl : s'.lifecycle = s.lifecycle) (ha : ∀ handle, s.Awaited handle → s.Recorded handle)
    (hne : s.incarnation ≠ none) (hladder : s'.Ladder w.stage) : s'.Tended := by
  refine h.climb halone ht hn hslot hi hl ha fun w' hw' => ?_
  obtain rfl := Option.some.inj (hw.symm.trans hw')
  exact ⟨hi ▸ hne, hladder⟩

theorem Tended.act (h : s.Tended) (halone : s.lifecycle.alone = false)
    (hi : s.incarnation ≠ none) (ha : ∀ handle, s.Awaited handle → s.Recorded handle)
    (w : Watchdog) (event : AttemptEvent) (quietWindows : ℕ) :
    (s.ladderAct w event quietWindows).Tended := by
  obtain ⟨watchdog, heq, hdecided⟩ := ladderAct_eq s w event quietWindows
  rw [heq]
  refine h.climb halone rfl rfl rfl rfl rfl ha fun w' hw' => ⟨hi, ?_⟩
  exact decided_ladder (hdecided w' hw')

theorem Silent.muted (h : s.Silent) : s.Muted := fun handle _ => h handle

/-- A step of the watchdog after which every flag is down. -/
theorem tended_of_muted (halone : s'.lifecycle.alone = false) (h : s'.Silent)
    (hfresh : ∀ handle, s'.incarnation = some handle → handle < s'.started)
    (hne : s'.incarnation ≠ none) (hladder : ∀ w, s'.watchdog = some w → s'.Ladder w.stage) :
    s'.Tended :=
  h.tended hfresh (not_alone_operation halone).2 fun w hw => ⟨hne, hladder w hw⟩

/-- The watchdog waits for a listener it restarted, which has yet to confirm its activation. -/
def unconfirmed (s : CaptureHost) (w : Watchdog) : Bool :=
  w.stage.restarted.any fun handle => !(s.threads handle).activation.isConfirmed

theorem received_confirmed {w : Watchdog} {rx : ActivationRx} (hstage : w.stage = .activation rx)
    (hcalm : s.unconfirmed w = false) : (s.received rx).isConfirmed = true := by
  cases rx with
  | resolved outcome => rfl
  | thread handle => simpa [unconfirmed, hstage, LadderStage.restarted, received] using hcalm

theorem awaited_stage (halone : s.lifecycle.alone = false) {w : Watchdog}
    (hw : s.watchdog = some w) {handle : ℕ} (hawaited : s.Awaited handle) :
    w.stage.awaited = some handle := by
  rcases hawaited with hl | ⟨w', hw', hstage⟩
  · cases (not_alone_operation (s := s) halone).1.symm.trans hl
  · cases hw.symm.trans hw'
    exact hstage

theorem activation_recorded (h : s.Tended) (halone : s.lifecycle.alone = false) {w : Watchdog}
    (hw : s.watchdog = some w) {rx : ActivationRx} (hstage : w.stage = .activation rx)
    (hcalm : s.unconfirmed w = false) {handle : ℕ} (ha : s.Awaited handle) : s.Recorded handle := by
  have hsome := awaited_stage halone hw ha
  have hconf := received_confirmed hstage hcalm
  have hladder := (h.ladder w hw).2
  rw [hstage] at hsome hladder
  cases rx with
  | resolved => cases hsome
  | thread handle' =>
    obtain rfl : handle' = handle := Option.some.inj hsome
    exact ⟨hconf, hladder⟩

theorem ladderStep_tended {w : Watchdog} (h : s.Tended) (halone : s.lifecycle.alone = false)
    (hw : s.watchdog = some w) (hcalm : s.unconfirmed w = false)
    (hs : s.ladderStep w input = some s') : s'.Tended := by
  obtain ⟨hi, hladder⟩ := h.ladder w hw
  have hstage : ∀ handle, s.Awaited handle → w.stage.awaited = some handle := fun handle =>
    awaited_stage halone hw
  have hconf : ∀ rx, w.stage = .activation rx → (s.received rx).isConfirmed = true :=
    fun rx hrx => received_confirmed hrx hcalm
  have hactivation : ∀ rx, w.stage = .activation rx → ∀ handle, s.Awaited handle →
      s.Recorded handle := fun rx hrx handle =>
    activation_recorded h halone hw hrx hcalm
  obtain ⟨generation, restartsUsed, stage⟩ := w
  have hquiet : stage.awaited = none → ∀ handle, s.Awaited handle → s.Recorded handle :=
    fun hnone handle hawaited => by cases hnone.symm.trans (hstage handle hawaited)
  have hsilent : s.Muted → stage.awaited = none → s.Silent := fun hm hnone =>
    h.silent hm fun handle hawaited => by cases hnone.symm.trans (hstage handle hawaited)
  have honly : s.Muted → ∀ handle, (s.threads handle).active = true →
      stage.awaited = some handle ∧ (s.threads handle).stopped = false := by
    intro hm handle hup
    obtain ⟨-, hstop, hawaited | ⟨-, -, hr⟩⟩ := h.live handle hup
    · exact ⟨hstage handle hawaited, hstop⟩
    · cases hup.symm.trans (hm handle hr)
  unfold ladderStep takeHandle at hs
  dsimp only at hs hladder
  split at hs
  · split at hs
    · obtain rfl := Option.some.inj hs
      exact h.act halone hi (hactivation _ rfl) _ _ _
    · cases hs
  · next rx =>
    have hrx := hconf rx rfl
    split at hs
    · cases hs
    · split at hs
      · obtain rfl := Option.some.inj hs
        exact h.climb_to halone rfl rfl rfl rfl rfl rfl (hactivation rx rfl) hi trivial
      · split at hs <;> obtain rfl := Option.some.inj hs
        · exact h.climb halone rfl rfl rfl rfl rfl (hactivation rx rfl) (by simp)
        · exact h.climb_to halone rfl rfl rfl rfl rfl rfl (hactivation rx rfl) hi trivial
    · next hfailed => simp [hfailed, Activation.isConfirmed] at hrx
    · next hclosed => simp [hclosed, Activation.isConfirmed] at hrx
  · next rx =>
    have hrx := hconf rx rfl
    split at hs
    · next hpending => simp [hpending, Activation.isConfirmed] at hrx
    · cases hs
  · obtain rfl := Option.some.inj hs
    refine h.climb_to halone rfl rfl rfl rfl ?_ rfl (hquiet rfl) hi trivial
    simp [incarnation, Function.comp_def]
  · obtain rfl := Option.some.inj hs
    exact h.climb_to halone rfl rfl rfl rfl rfl rfl (hquiet rfl) hi trivial
  · obtain rfl := Option.some.inj hs
    split
    · exact h.climb halone rfl rfl rfl rfl rfl (hquiet rfl) (by simp)
    · exact h.climb_to halone rfl rfl rfl rfl rfl rfl (hquiet rfl) hi trivial
  · split at hs
    · obtain rfl := Option.some.inj hs
      exact h.climb halone rfl rfl rfl rfl rfl (hquiet rfl) (by simp)
    · cases hs
  · obtain rfl := Option.some.inj hs
    exact h.act halone hi (hquiet rfl) _ _ _
  · split at hs
    · obtain rfl := Option.some.inj hs
      exact h.act halone hi (hquiet rfl) _ _ _
    · obtain rfl := Option.some.inj hs
      exact h.climb halone rfl rfl rfl rfl rfl (hquiet rfl) (by simp)
  · exact hladder.elim
  · exact hladder.elim
  · obtain rfl := Option.some.inj hs
    have hdown := silent_retireIdentity h fun handle hawaited => by
      cases hstage handle hawaited
    refine tended_of_muted halone (.of_threads hdown rfl) h.fresh hi ?_
    rintro _ ⟨⟩
    exact hdown.muted
  · obtain rfl := Option.some.inj hs
    exact h.climb_to halone rfl rfl rfl rfl rfl rfl (hquiet rfl) hi hladder
  · obtain rfl := Option.some.inj hs
    split
    · exact h.climb halone rfl rfl rfl rfl rfl (hquiet rfl) (by simp)
    · next handle _ =>
      have hdown := (hsilent hladder rfl).of_same (sameThreads_stopThread s handle)
      refine tended_of_muted halone (.of_threads hdown rfl) h.fresh hi ?_
      rintro _ ⟨⟩
      exact hdown.muted
  · split at hs
    · obtain rfl := Option.some.inj hs
      exact h.climb_to halone rfl rfl rfl rfl rfl rfl (hquiet rfl) hi hladder
    · cases hs
  · split at hs
    · cases hs
    · obtain rfl := Option.some.inj hs
      exact h.climb_to halone rfl rfl rfl rfl rfl rfl (hquiet rfl) hi hladder
  · next handle =>
    obtain rfl := Option.some.inj hs
    have htended : Tended { s with priorCaptureJoins := s.priorCaptureJoins ++ [handle] } :=
      ⟨h.live, h.fresh, h.operation, h.ladder⟩
    exact htended.act halone hi (hquiet rfl) _ _ _
  · split at hs
    · obtain rfl := Option.some.inj hs
      exact h.climb_to halone hw rfl rfl rfl rfl rfl (hquiet rfl) hi hladder
    · cases hs
  · split at hs
    · obtain rfl := Option.some.inj hs
      have hdown := hsilent hladder rfl
      constructor
      · intro handle hup
        obtain rfl := hdown.startThread hup
        refine ⟨Nat.lt_succ_self _, ?_, .inl (.inr ⟨_, rfl, rfl⟩)⟩
        simp [CaptureHost.startThread]
      · intro handle hr
        exact Nat.lt_succ_of_lt (h.fresh handle hr)
      · exact (not_alone_operation halone).2
      · rintro _ ⟨⟩
        refine ⟨hi, fun handle hr => ?_, Nat.lt_succ_self _⟩
        have hne := Nat.ne_of_lt (h.fresh handle hr)
        simpa [CaptureHost.startThread, Function.update_of_ne hne] using hdown handle
    · cases hs
  · split at hs
    · cases hs
    · obtain rfl := Option.some.inj hs
      exact h.act halone hi (hquiet rfl) _ _ _
  · next handle =>
    obtain ⟨hmuted, hlt⟩ := hladder
    have hnew : ∀ k, (s.threads k).active = true → k = handle := fun k hup =>
      (Option.some.inj (honly hmuted k hup).1).symm
    split at hs <;> obtain rfl := Option.some.inj hs
    · have hdown := silent_retire hnew
      refine tended_of_muted halone (.of_threads hdown rfl) h.fresh hi ?_
      rintro _ ⟨⟩
      exact hdown.muted
    · constructor
      · intro k hup
        obtain rfl := hnew k hup
        exact ⟨hlt, (honly hmuted k hup).2, .inl (.inr ⟨_, rfl, rfl⟩)⟩
      · exact h.fresh
      · exact (not_alone_operation halone).2
      · rintro _ ⟨⟩
        exact ⟨hi, hmuted, hlt, rfl⟩
  · next handle =>
    obtain rfl := Option.some.inj hs
    have hdown := (hsilent hladder rfl).of_same (sameThreads_stopThread s handle)
    exact tended_of_muted halone (.of_threads hdown rfl) h.fresh hi (by simp)
  · next handle =>
    obtain rfl := Option.some.inj hs
    obtain ⟨hmuted, hlt, hslot⟩ := hladder
    obtain ⟨c, hc⟩ := Option.ne_none_iff_exists'.mp hi
    obtain ⟨identity, hidentity, -⟩ := Option.map_eq_some_iff.mp hc
    constructor
    · intro k hup
      obtain ⟨hk, hstop⟩ := honly hmuted k hup
      obtain rfl : handle = k := Option.some.inj hk
      exact ⟨hlt, hstop, .inl (.inr ⟨_, rfl, rfl⟩)⟩
    · intro k hk
      obtain rfl : handle = k := by simpa [incarnation, hidentity] using hk
      exact hlt
    · exact (not_alone_operation halone).2
    · rintro _ ⟨⟩
      exact ⟨by simp [incarnation, hidentity], hslot, by simp [incarnation, hidentity]⟩
  · obtain rfl := Option.some.inj hs
    exact h.climb halone rfl rfl rfl rfl rfl (hquiet rfl) (by simp)
  · cases hs

theorem Muted.mono (h : s.Muted) (hi : s'.incarnation = s.incarnation)
    (hactive : ∀ handle, (s.threads handle).active = false →
      (s'.threads handle).active = false) : s'.Muted :=
  fun handle hr => hactive handle (h handle (hi ▸ hr))

theorem Ladder.mono {stage : LadderStage} (h : s.Ladder stage) (hn : s'.started = s.started)
    (hslot : s'.arpListenerHandle = s.arpListenerHandle) (hi : s'.incarnation = s.incarnation)
    (hactive : ∀ handle, (s.threads handle).active = false →
      (s'.threads handle).active = false) : s'.Ladder stage := by
  cases stage with
  | activation rx =>
    cases rx with
    | resolved => trivial
    | thread => exact ⟨hslot.trans h.1, hi.trans h.2⟩
  | takeUnconfirmed | parkUnconfirmed => exact h.elim
  | deactivate | takeDeaf | join | parkWedged | drain | parkStale => exact Muted.mono h hi hactive
  | install => exact ⟨h.1.mono hi hactive, hn ▸ h.2⟩
  | adopt => exact ⟨h.1.mono hi hactive, hn ▸ h.2.1, hslot.trans h.2.2⟩
  | identify | announce | counters | window | linkState | retire | exhausted => trivial

theorem Operation.mono {l : Lifecycle} (h : s.Operation l) (hn : s'.started = s.started)
    (hslot : s'.arpListenerHandle = s.arpListenerHandle) (hi : s'.incarnation = s.incarnation)
    (hactive : ∀ handle, (s'.threads handle).active = (s.threads handle).active)
    (hconfirmed : ∀ handle, (s.threads handle).activation.isConfirmed = true →
      (s'.threads handle).activation.isConfirmed = true) : s'.Operation l := by
  unfold Operation at h ⊢
  split at h
  · obtain ⟨handle, hr, hup⟩ := h
    exact ⟨handle, hi.trans hr, (hactive handle).trans hup⟩
  iterate 9 · exact hi.trans h
  · exact ⟨hi.trans h.1, hn ▸ h.2⟩
  · exact ⟨hi.trans h.1, hn ▸ h.2.1, hslot.trans h.2.2⟩
  · exact ⟨hi.trans h.1, hn ▸ h.2.1, hslot.trans h.2.2.1, hconfirmed _ h.2.2.2⟩
  · exact hi ▸ h
  · trivial

/-- A step beside the operation and the watchdog, which raises no flag and stops no live thread. -/
theorem Tended.beside (h : s.Tended) (hn : s'.started = s.started)
    (hactive : ∀ handle, (s.threads handle).active = false → (s'.threads handle).active = false)
    (hstopped : ∀ handle, (s'.threads handle).stopped = (s.threads handle).stopped)
    (hconfirmed : ∀ handle, (s.threads handle).activation.isConfirmed = true →
      (s'.threads handle).activation.isConfirmed = true)
    (hslot : s'.arpListenerHandle = s.arpListenerHandle) (hi : s'.incarnation = s.incarnation)
    (hl : s'.lifecycle.awaited = s.lifecycle.awaited) (hw : s'.watchdog = s.watchdog)
    (hop : s'.Operation s'.lifecycle) : s'.Tended := by
  refine h.carry hn (fun handle hup => ?_) (fun handle _ => hstopped handle) hconfirmed hslot hi
    (fun handle hawaited => .inl ?_) hop fun w hsome => ?_
  · by_contra hdown
    rw [hactive handle (by simpa using hdown)] at hup
    cases hup
  · simpa only [Awaited, hl, hw] using hawaited
  · obtain ⟨hne, hladder⟩ := h.ladder w (hw ▸ hsome)
    exact ⟨hi ▸ hne, hladder.mono hn hslot hi hactive⟩

/-- What a thread does by itself. -/
theorem Tended.update (h : s.Tended) (handle : ℕ) {f : CaptureThread → CaptureThread}
    (hf : ∀ t, (f t).active = t.active ∧ (f t).stopped = t.stopped)
    (hconfirmed : (s.threads handle).activation.isConfirmed = true →
      (f (s.threads handle)).activation.isConfirmed = true) : (s.update handle f).Tended := by
  have hsame : ∀ k, ((s.update handle f).threads k).active = (s.threads k).active ∧
      ((s.update handle f).threads k).stopped = (s.threads k).stopped ∧
      ((s.threads k).activation.isConfirmed = true →
        ((s.update handle f).threads k).activation.isConfirmed = true) := by
    intro k
    by_cases hk : k = handle
    · subst hk
      simpa [CaptureHost.update, hf] using hconfirmed
    · simp [CaptureHost.update, Function.update_of_ne hk]
  refine h.beside rfl (fun k hdown => (hsame k).1.trans hdown) (fun k => (hsame k).2.1)
    (fun k => (hsame k).2.2) rfl rfl rfl rfl ?_
  exact h.operation.mono rfl rfl rfl (fun k => (hsame k).1) fun k => (hsame k).2.2

theorem Tended.afterStop (h : s.Tended) (halone : s.lifecycle.alone = false)
    (hnone : s.watchdog = none) (purpose : Purpose) : (s.afterStop purpose).Tended := by
  have hl := (not_alone_operation (s := s) halone).1
  cases purpose <;> exact h.proceed rfl hnone rfl rfl rfl rfl rfl (by simp [hl]) trivial

/-- The steps that leave behind an active listener of which nobody will see if it attaches. -/
def deafens (s : CaptureHost) : Call → Bool
  | .watchdog _ => s.watchdog.any s.unconfirmed
  | .lifecycle .timeout => s.watchdog.any fun w => s.unconfirmed w || w.stage.installing
  | _ => false

theorem abortWatchdog_tended (h : s.Tended) (halone : s.lifecycle.alone = false)
    (hcalm : ∀ w, s.watchdog = some w →
      s.unconfirmed w = false ∧ w.stage.installing = false) :
    s.abortWatchdog.Tended := by
  unfold abortWatchdog
  split
  · exact h
  · next w hw =>
    obtain ⟨hconf, hstage⟩ := hcalm w hw
    obtain ⟨hi, hladder⟩ := h.ladder w hw
    have hna : w.stage.awaited = none → ∀ handle, ¬ s.Awaited handle := fun hnone handle ha => by
      cases hnone.symm.trans (awaited_stage halone hw ha)
    -- a thread that the watchdog has told to stop has its flag down
    have hsilent : w.stage.awaited = none → s.Muted →
        Tended { w.stage.owned.foldl stopThread s with watchdog := none } := by
      intro hnone hmuted
      obtain ⟨hthreads, heq⟩ := foldl_stopThread s w.stage.owned
      have hdown := (h.silent hmuted (hna hnone)).of_same hthreads
      rw [heq]
      refine tended_of_muted halone (.of_threads hdown rfl) (fun handle hr => h.fresh handle hr)
        hi nofun
    have hempty : w.stage.awaited = none → w.stage.owned = [] →
        Tended { w.stage.owned.foldl stopThread s with watchdog := none } := by
      intro hnone howned
      rw [howned]
      exact h.climb halone rfl rfl rfl rfl rfl (fun handle ha => absurd ha (hna hnone handle)) nofun
    obtain ⟨generation, restartsUsed, stage⟩ := w
    cases stage with
    | activation rx =>
      exact h.climb halone rfl rfl rfl rfl rfl
        (fun handle ha => activation_recorded h halone hw rfl hconf ha) nofun
    | install | adopt => cases hstage
    | parkUnconfirmed => exact hladder.elim
    | join | parkWedged | parkStale => exact hsilent rfl hladder
    | identify | announce | counters | window | linkState | takeUnconfirmed | retire | deactivate
    | takeDeaf | drain | exhausted => exact hempty rfl rfl

theorem Tended.step {call : Call} (h : s.Tended) (hp : s.Placed) (hcalm : s.deafens call = false)
    (hs : s.step call = some s') : s'.Tended := by
  cases call with
  | begin purpose =>
    simp only [CaptureHost.step] at hs
    split at hs
    · next hidle =>
      obtain rfl := Option.some.inj hs
      exact h.beside rfl (fun _ => id) (fun _ => rfl) (fun _ => id) rfl rfl (by rw [hidle]; rfl) rfl
        trivial
    · cases hs
  | loseAdapter =>
    simp only [CaptureHost.step] at hs
    split at hs
    · next hidle =>
      obtain rfl := Option.some.inj hs
      have hthreads := sameThreads_retireIdentity s
      refine h.beside rfl hthreads.active (fun k => (retireIdentity_thread s k).1) (fun k hconf => ?_)
        rfl rfl (by rw [hidle]; rfl) rfl trivial
      exact (congrArg _ (retireIdentity_thread s k).2).trans hconf
    · cases hs
  | lifecycle input =>
    simp only [CaptureHost.step, lifecycleStep] at hs
    split at hs
    · next purpose hl =>
      obtain rfl := Option.some.inj hs
      exact h.beside rfl (fun _ => id) (fun _ => rfl) (fun _ => id) rfl rfl (by rw [hl]; rfl) rfl
        trivial
    · next purpose hl =>
      split at hs
      · next hnone =>
        obtain rfl := Option.some.inj hs
        exact h.afterStop (by rw [hl]; rfl) hnone purpose
      · cases hs
    · next purpose hl =>
      split at hs
      · cases hs
      · obtain rfl := Option.some.inj hs
        have halone : s.lifecycle.alone = false := by rw [hl]; rfl
        have habort := abortWatchdog_tended h halone fun w hw => by
          simpa [deafens, hw] using hcalm
        obtain ⟨-, -, -, hlifecycle, hnone⟩ := abortWatchdog_same s
        exact habort.afterStop (hlifecycle ▸ halone) hnone purpose
    · next request stage _ hl => exact ensureStep_tended h hl (hp.alone (by rw [hl]; rfl)) hs
    · next stage _ hl => exact stopCaptureStep_tended h hl (hp.alone (by rw [hl]; rfl)) hs
    · cases hs
  | watchdog input =>
    obtain ⟨w, hw, hs⟩ := Option.bind_eq_some_iff.mp hs
    have hconf : s.unconfirmed w = false := by simpa [deafens, hw] using hcalm
    exact ladderStep_tended h (not_alone_of_watchdog hp hw) hw hconf hs
  | activate handle outcome =>
    simp only [CaptureHost.step] at hs
    split at hs
    · obtain rfl := Option.some.inj hs
      exact h.update handle (fun _ => ⟨rfl, rfl⟩) fun _ => rfl
    · cases hs
  | startError handle =>
    simp only [CaptureHost.step] at hs
    split at hs
    · next hpending =>
      obtain rfl := Option.some.inj hs
      refine h.update handle (fun _ => ⟨rfl, rfl⟩) fun hconf => ?_
      simp [hpending.2, Activation.isConfirmed] at hconf
    · cases hs
  | exit handle =>
    simp only [CaptureHost.step] at hs
    split at hs
    · obtain rfl := Option.some.inj hs
      refine h.update handle (fun _ => ⟨rfl, rfl⟩) fun hconf => ?_
      have hne : (s.threads handle).activation ≠ .pending := by
        intro hpending
        simp [hpending, Activation.isConfirmed] at hconf
      simpa [hne] using hconf
    · cases hs
  | frame handle =>
    simp only [CaptureHost.step] at hs
    split at hs
    · split at hs <;> obtain rfl := Option.some.inj hs
      · exact ⟨h.live, h.fresh, h.operation, h.ladder⟩
      · exact h
    · cases hs

theorem tended_of_reaches (h : machine.Reaches (fun s call => s.deafens call = false) s) :
    s.Tended := by
  apply h.invariant (Q := Placed) fun s => placed_of_reachable
  · exact ⟨nofun, nofun, trivial, nofun⟩
  · intro s call s' hp htended hcalm hs
    exact htended.step hp hcalm hs

theorem awaited_unrecorded {l : Lifecycle} {handle : ℕ} (hop : s.Operation l)
    (h : l.awaited = some handle) : s.incarnation = none := by
  cases l with
  | ensure request stage =>
    cases stage with
    | install | activation | identify => exact hop.1
    | _ => cases h
  | _ => cases h

theorem awaited_ladder {stage : LadderStage} {handle : ℕ} (hladder : s.Ladder stage)
    (h : stage.awaited = some handle) : s.Muted ∨ s.arpListenerHandle = some handle := by
  cases stage with
  | activation rx =>
    cases rx with
    | resolved => cases h
    | thread handle' =>
      obtain rfl : handle' = handle := Option.some.inj h
      exact .inr hladder.1
  | install | adopt => exact .inl hladder.1
  | _ => cases h

theorem Tended.recorded_installed (h : s.Tended) {handle : ℕ} (hi : s.incarnation = some handle)
    (hup : (s.threads handle).active = true) : s.arpListenerHandle = some handle := by
  obtain ⟨-, -, (hl | ⟨w, hw, hstage⟩) | ⟨-, hslot, -⟩⟩ := h.live handle hup
  · cases (awaited_unrecorded h.operation hl).symm.trans hi
  · rcases awaited_ladder (h.ladder w hw).2 hstage with hmuted | hslot
    · cases (hmuted handle hi).symm.trans hup
    · exact hslot
  · exact hslot

/-- Of the listener that a start keeps, the activation is recorded. -/
theorem Tended.kept_recorded {request : CaptureRequest} (h : s.Tended) (hp : s.Placed)
    (hl : s.lifecycle = .ensure request (.retained .keep)) :
    ∃ handle, s.Recorded handle ∧ (s.threads handle).stopped = false := by
  have hop := h.operation
  rw [hl] at hop
  obtain ⟨handle, -, hup⟩ := hop
  have hnone := hp.alone (by rw [hl]; rfl)
  obtain ⟨-, hstop, hawaited | hrecorded⟩ := h.live handle hup
  · refine absurd hawaited (not_awaited (by rw [hl]; rfl) (fun w hw => ?_) handle)
    cases hnone.symm.trans hw
  · exact ⟨handle, hrecorded, hstop⟩

/-- In a run in which no watchdog leaves a listener it restarted active and unconfirmed, a start
keeps only a listener that confirmed its activation and was not told to stop, the recorded identity
is active only while its handle is installed, and from the moment that a thread is told to stop or
its activation is awaited by nobody it has no frame merged. -/
theorem retained_captures_live (h : machine.Reaches (fun s call => s.deafens call = false) s) :
    (∀ request outcome, s.lifecycle = .ensure request (.retained .keep) →
      s.outcome = some outcome → ∃ handle, s.arpListenerHandle = some handle ∧
        (s.threads handle).activation.isConfirmed = true ∧ (s.threads handle).stopped = false) ∧
    (∀ c, s.captureIdentity = some c → (s.threads c.incarnation).active = true →
      s.arpListenerHandle = some c.incarnation) ∧
    ∀ handle < s.started, ¬ s.Attended handle → ∀ calls s', machine.run s calls = some s' →
      (s'.threads handle).active = false ∧
        s'.merged.count handle = s.merged.count handle := by
  have htended := tended_of_reaches h
  refine ⟨fun request outcome hl _ => ?_, fun c hc hup => ?_, ?_⟩
  · obtain ⟨handle, ⟨hconf, hslot, -⟩, hstop⟩ :=
      htended.kept_recorded (placed_of_reachable h.reachable) hl
    exact ⟨handle, hslot, hconf, hstop⟩
  · exact htended.recorded_installed (by simp [incarnation, hc]) hup
  · intro handle hlt hnot calls s' hrun
    have hdown : (s.threads handle).active = false := by
      by_contra hup
      exact hnot (htended.live handle (by simpa using hup)).2
    have hfades := fades_of_run h.reachable hrun
    exact ⟨hfades.active handle hlt hdown, hfades.merged handle hlt hdown⟩

section Example

/-- The watchdog replaces the deaf listener, and the new one confirms its activation. -/
def restarted : List Call :=
  deafSession ++ [.exit 0] ++ List.replicate 4 (.watchdog .next)

def secondStart : CaptureRequest := ⟨"Ethernet", none, true, false⟩

/-- A second start, to the point where it has compared the listener with what it wants. -/
def startAgain (watching : List Call) : List Call :=
  [.begin (.start secondStart), .lifecycle .next] ++ watching ++
    List.replicate 3 (.lifecycle .next) ++ [.lifecycle (.live .enumFailed), .lifecycle .next]

def keptRestart : List Call :=
  restarted ++ [.activate 1 (.selectedInterface (some 8))] ++ List.replicate 3 (.watchdog .next) ++
    startAgain [.watchdog .next, .watchdog .shutdown]

theorem retained_captures_live_restart :
    ∃ s, machine.run initial keptRestart = some s ∧
      s.lifecycle = .ensure secondStart (.retained .keep) ∧
      (∃ handle, s.arpListenerHandle = some handle ∧
        (s.threads handle).activation.isConfirmed = true ∧
        (s.threads handle).stopped = false) ∧
      ∀ calls s', machine.run s calls = some s' →
        (s'.threads 0).active = false ∧ s'.merged.count 0 = s.merged.count 0 := by
  have hadmits : machine.Admits (fun s call => s.deafens call = false) initial keptRestart := by
    decide
  have hreaches := Machine.Reaches.run .initial hadmits rfl
  obtain ⟨hkeep, -, hlost⟩ := retained_captures_live hreaches
  refine ⟨_, rfl, rfl, hkeep _ _ rfl rfl, hlost 0 (by decide) ?_⟩
  rintro ⟨hstop, -⟩
  cases hstop

/-- The restarted listener fails to activate and its thread ends, and the next start keeps it. -/
theorem failed_restart_retained :
    ∃ s, machine.run initial (restarted ++ [.startError 1, .exit 1, .watchdog .next,
        .watchdog .next] ++ startAgain []) = some s ∧
      s.lifecycle = .ensure secondStart (.retained .keep) ∧ s.outcome.isSome = true ∧
      s.arpListenerHandle = some 1 ∧ (s.threads 1).activation = .failed ∧
      (s.threads 1).exited = true ∧ (s.threads 1).active = true :=
  ⟨_, rfl, rfl, rfl, rfl, rfl, rfl, rfl⟩

end Example

end CaptureHost

end Capture

end PocketStream
