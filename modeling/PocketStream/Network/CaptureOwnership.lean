import PocketStream.Network.CaptureSession

/-! # The handles of the capture threads

Every handle moves from the task that started its thread to the slot, from there
to a task that takes it, and from that task to the prior joins, where it stays
until its thread has exited. A thread is started when nothing is left in any of
these places.
-/

namespace PocketStream

open Foundation

namespace Capture

/-- The handles in the hands of the operation. -/
def Lifecycle.owned : Lifecycle → List ℕ
  | .ensure _ (.parkOld handle) | .ensure _ (.install handle) | .ensure _ (.parkFailed handle)
  | .stopCapture (.park handle) => [handle]
  | _ => []

/-- The stages of an operation that nothing runs beside. -/
def Lifecycle.alone : Lifecycle → Bool
  | .ensure .. | .stopCapture _ => true
  | _ => false

/-- Between the taking of the old handle and the installation of the new one. -/
def Lifecycle.cleared : Lifecycle → Bool
  | .ensure _ (.parkOld _) | .ensure _ .drain | .ensure _ (.install _) => true
  | _ => false

def LadderStage.cleared : LadderStage → Bool
  | .join .. | .parkWedged _ | .drain _ | .install _ | .parkStale _ => true
  | _ => false

/-- The stages that an event leads to. -/
def LadderStage.decided : LadderStage → Bool
  | .counters _ | .linkState | .retire _ | .exhausted => true
  | _ => false

namespace CaptureHost

variable {s s' : CaptureHost} {input : Input}

/-- No thread starts or exits, no flag goes up, and no frame is merged. -/
structure SameThreads (s s' : CaptureHost) : Prop where
  started : s'.started = s.started
  merged : s'.merged = s.merged
  exited : ∀ handle, (s'.threads handle).exited = (s.threads handle).exited
  active : ∀ handle, (s.threads handle).active = false → (s'.threads handle).active = false

theorem SameThreads.of_eq (h : s'.threads = s.threads) (hn : s'.started = s.started)
    (hm : s'.merged = s.merged) : SameThreads s s' :=
  ⟨hn, hm, fun _ => h ▸ rfl, fun _ => h ▸ id⟩

theorem SameThreads.congr {s₁ : CaptureHost} (h : SameThreads s s₁) (ht : s'.threads = s₁.threads)
    (hn : s'.started = s₁.started) (hm : s'.merged = s₁.merged) : SameThreads s s' where
  started := hn.trans h.started
  merged := hm.trans h.merged
  exited handle := ht ▸ h.exited handle
  active handle := ht ▸ h.active handle

theorem SameThreads.trans {s₁ : CaptureHost} (h : SameThreads s s₁) (h' : SameThreads s₁ s') :
    SameThreads s s' where
  started := h'.started.trans h.started
  merged := h'.merged.trans h.merged
  exited handle := (h'.exited handle).trans (h.exited handle)
  active handle ha := h'.active handle (h.active handle ha)

theorem SameThreads.alive (h : SameThreads s s') {handle : ℕ} (hlt : handle < s'.started)
    (halive : (s'.threads handle).exited = false) :
    handle < s.started ∧ (s.threads handle).exited = false :=
  ⟨h.started ▸ hlt, (h.exited handle).symm.trans halive⟩

theorem sameThreads_update (s : CaptureHost) (handle : ℕ) {f : CaptureThread → CaptureThread}
    (hf : ∀ t, (f t).exited = t.exited) (ha : ∀ t, t.active = false → (f t).active = false) :
    SameThreads s (s.update handle f) where
  started := rfl
  merged := rfl
  exited handle' := by
    by_cases h : handle' = handle
    · subst h
      simp [update, hf]
    · simp [update, Function.update_of_ne h]
  active handle' := by
    by_cases h : handle' = handle
    · subst h
      simpa [update] using ha _
    · simp [update, Function.update_of_ne h]

theorem sameThreads_stopThread (s : CaptureHost) (handle : ℕ) :
    SameThreads s (s.stopThread handle) :=
  sameThreads_update s handle (fun _ => rfl) fun _ => id

theorem sameThreads_retire (s : CaptureHost) (handle : ℕ) : SameThreads s (s.retire handle) :=
  sameThreads_update s handle (fun _ => rfl) fun _ _ => rfl

theorem sameThreads_retireIdentity (s : CaptureHost) : SameThreads s s.retireIdentity := by
  cases hi : s.captureIdentity with
  | none => constructor <;> simp [retireIdentity, hi]
  | some identity =>
    have h := sameThreads_retire s identity.incarnation
    constructor
    · rfl
    · rfl
    · simpa [retireIdentity, hi] using h.exited
    · simpa [retireIdentity, hi] using h.active

/-- What a step does to the handles of the task that takes it. -/
inductive Handoff (s s' : CaptureHost) : List ℕ → List ℕ → Prop where
  | keep {owned : List ℕ} (hslot : s'.arpListenerHandle = s.arpListenerHandle)
      (hprior : s'.priorCaptureJoins = s.priorCaptureJoins) (hthreads : SameThreads s s') :
      Handoff s s' owned owned
  | take {handle : ℕ} (htaken : s.arpListenerHandle = some handle)
      (hslot : s'.arpListenerHandle = none) (hprior : s'.priorCaptureJoins = s.priorCaptureJoins)
      (hthreads : SameThreads s s') : Handoff s s' [] [handle]
  | park {handle : ℕ} (hslot : s'.arpListenerHandle = s.arpListenerHandle)
      (hprior : s'.priorCaptureJoins = s.priorCaptureJoins ++ [handle])
      (hthreads : SameThreads s s') : Handoff s s' [handle] []
  | reap {owned : List ℕ} {handle : ℕ} (hexited : (s.threads handle).exited = true)
      (hslot : s'.arpListenerHandle = s.arpListenerHandle)
      (hprior : s'.priorCaptureJoins = s.priorCaptureJoins.filter (· ≠ handle))
      (hthreads : SameThreads s s') : Handoff s s' owned owned
  | join {handle : ℕ} (hexited : (s.threads handle).exited = true)
      (hslot : s'.arpListenerHandle = s.arpListenerHandle)
      (hprior : s'.priorCaptureJoins = s.priorCaptureJoins) (hthreads : SameThreads s s') :
      Handoff s s' [handle] []
  | install {handle : ℕ} (hnone : s.arpListenerHandle = none)
      (hslot : s'.arpListenerHandle = some handle)
      (hprior : s'.priorCaptureJoins = s.priorCaptureJoins) (hthreads : SameThreads s s') :
      Handoff s s' [handle] []
  | start (hnone : s.arpListenerHandle = none) (hempty : s.priorCaptureJoins = [])
      (hslot : s'.arpListenerHandle = s.arpListenerHandle)
      (hprior : s'.priorCaptureJoins = s.priorCaptureJoins)
      (hstarted : s'.started = s.started + 1)
      (hmerged : s'.merged = s.merged)
      (hexited : ∀ handle < s.started, (s'.threads handle).exited = (s.threads handle).exited)
      (hactive : ∀ handle < s.started,
        (s.threads handle).active = false → (s'.threads handle).active = false) :
      Handoff s s' [] [s.started]

theorem Handoff.congr {s₁ : CaptureHost} {owned owned' : List ℕ} (h : Handoff s s₁ owned owned')
    (hslot : s'.arpListenerHandle = s₁.arpListenerHandle)
    (hprior : s'.priorCaptureJoins = s₁.priorCaptureJoins) (ht : s'.threads = s₁.threads)
    (hn : s'.started = s₁.started) (hm : s'.merged = s₁.merged) : Handoff s s' owned owned' := by
  cases h with
  | keep h₁ h₂ h₃ => exact .keep (hslot.trans h₁) (hprior.trans h₂) (h₃.congr ht hn hm)
  | take h₀ h₁ h₂ h₃ => exact .take h₀ (hslot.trans h₁) (hprior.trans h₂) (h₃.congr ht hn hm)
  | park h₁ h₂ h₃ => exact .park (hslot.trans h₁) (hprior.trans h₂) (h₃.congr ht hn hm)
  | reap h₀ h₁ h₂ h₃ => exact .reap h₀ (hslot.trans h₁) (hprior.trans h₂) (h₃.congr ht hn hm)
  | join h₀ h₁ h₂ h₃ => exact .join h₀ (hslot.trans h₁) (hprior.trans h₂) (h₃.congr ht hn hm)
  | install h₀ h₁ h₂ h₃ => exact .install h₀ (hslot.trans h₁) (hprior.trans h₂) (h₃.congr ht hn hm)
  | start h h₀ h₁ h₂ h₃ h₄ h₅ h₆ =>
    exact .start h h₀ (hslot.trans h₁) (hprior.trans h₂) (hn.trans h₃) (hm.trans h₄) (ht ▸ h₅)
      (ht ▸ h₆)

theorem handoff_startThread (hnone : s.arpListenerHandle = none) (hempty : s.priorCaptureJoins = [])
    (hslot : s'.arpListenerHandle = s.arpListenerHandle)
    (hprior : s'.priorCaptureJoins = s.priorCaptureJoins)
    (hthreads : s'.threads = s.startThread.threads) (hstarted : s'.started = s.started + 1)
    (hmerged : s'.merged = s.merged) : Handoff s s' [] [s.started] := by
  apply Handoff.start hnone hempty hslot hprior hstarted hmerged
  · intro handle hlt
    simp [hthreads, startThread, Function.update_of_ne (Nat.ne_of_lt hlt)]
  · intro handle hlt
    simp [hthreads, startThread, Function.update_of_ne (Nat.ne_of_lt hlt)]

/-- What a step of an operation does. -/
structure LifecycleMove (s s' : CaptureHost) : Prop where
  handoff : Handoff s s' s.lifecycle.owned s'.lifecycle.owned
  alone : s'.lifecycle.alone = true → s'.watchdog = s.watchdog
  watchdog : ∀ w, s'.watchdog = some w →
    s.watchdog = some w ∨ w.stage.owned = [] ∧ w.stage.cleared = false
  cleared : s'.lifecycle.cleared = true → s'.arpListenerHandle = none

theorem LifecycleMove.of_watchdog {l : Lifecycle} (hl : s.lifecycle = l)
    (hw : s'.watchdog = s.watchdog) (hh : Handoff s s' l.owned s'.lifecycle.owned)
    (hc : s'.lifecycle.cleared = true → s'.arpListenerHandle = none) : LifecycleMove s s' where
  handoff := hl ▸ hh
  alone _ := hw
  watchdog _ h := .inl (hw ▸ h)
  cleared := hc

theorem lifecycleMove_startSession {l : Lifecycle} (hl : s.lifecycle = l) (howned : l.owned = [])
    (hw : s'.watchdog = s.watchdog) (hslot : s'.arpListenerHandle = s.arpListenerHandle)
    (hprior : s'.priorCaptureJoins = s.priorCaptureJoins) (hthreads : SameThreads s s')
    (request : CaptureRequest) (outcome : ScopeOutcome) :
    LifecycleMove s (s'.startSession request outcome) := by
  have hkeep : ∀ s₁ : CaptureHost, s₁.arpListenerHandle = s'.arpListenerHandle →
      s₁.priorCaptureJoins = s'.priorCaptureJoins → s₁.threads = s'.threads →
      s₁.started = s'.started → s₁.merged = s'.merged → s₁.lifecycle = .idle →
      Handoff s s₁ s.lifecycle.owned s₁.lifecycle.owned := by
    intro s₁ h₁ h₂ h₃ h₄ h₅ h₆
    rw [hl, howned, h₆]
    exact .keep (h₁.trans hslot) (h₂.trans hprior) (hthreads.congr h₃ h₄ h₅)
  unfold startSession
  split
  · refine ⟨hkeep _ rfl rfl rfl rfl rfl rfl, nofun, fun w hw => ?_, nofun⟩
    cases hw
    exact .inr ⟨rfl, rfl⟩
  · exact ⟨hkeep _ rfl rfl rfl rfl rfl rfl, nofun, fun w h => .inl (hw ▸ h), nofun⟩

theorem ensureStep_move {request : CaptureRequest} {stage : EnsureStage}
    (hl : s.lifecycle = .ensure request stage)
    (hc : s.lifecycle.cleared = true → s.arpListenerHandle = none)
    (hs : s.ensureStep request stage input = some s') : LifecycleMove s s' := by
  rw [hl] at hc
  unfold ensureStep takeHandle at hs
  dsimp only at hs
  split at hs
  · obtain rfl := Option.some.inj hs
    exact .of_watchdog hl rfl (.keep rfl rfl (.of_eq rfl rfl rfl)) nofun
  · obtain rfl := Option.some.inj hs
    split <;> exact .of_watchdog hl rfl (.keep rfl rfl (.of_eq rfl rfl rfl)) nofun
  · obtain rfl := Option.some.inj hs
    exact .of_watchdog hl rfl (.keep rfl rfl (.of_eq rfl rfl rfl)) nofun
  · obtain rfl := Option.some.inj hs
    exact .of_watchdog hl rfl (.keep rfl rfl (.of_eq rfl rfl rfl)) nofun
  · split at hs
    · obtain rfl := Option.some.inj hs
      exact lifecycleMove_startSession hl rfl rfl rfl rfl (.of_eq rfl rfl rfl) request _
    · obtain rfl := Option.some.inj hs
      exact .of_watchdog hl rfl (.keep rfl rfl (.of_eq rfl rfl rfl)) nofun
  · obtain rfl := Option.some.inj hs
    have hthreads := sameThreads_retireIdentity s
    exact .of_watchdog hl rfl (.keep rfl rfl (hthreads.congr rfl rfl rfl)) nofun
  · obtain rfl := Option.some.inj hs
    exact .of_watchdog hl rfl (.keep rfl rfl (.of_eq rfl rfl rfl)) nofun
  · obtain rfl := Option.some.inj hs
    split
    · next hnone => exact .of_watchdog hl rfl (.keep rfl rfl (.of_eq rfl rfl rfl)) fun _ => hnone
    · next handle htaken =>
      exact .of_watchdog hl rfl (.take htaken rfl rfl (.of_eq rfl rfl rfl)) fun _ => rfl
  · next handle =>
    obtain rfl := Option.some.inj hs
    have hthreads := sameThreads_stopThread s handle
    exact .of_watchdog hl rfl (.park rfl rfl (hthreads.congr rfl rfl rfl)) fun _ => hc rfl
  · split at hs
    · next hreap =>
      obtain rfl := Option.some.inj hs
      refine .of_watchdog hl rfl ?_ fun _ => hc rfl
      exact hl ▸ .reap hreap.2 rfl rfl (.of_eq rfl rfl rfl)
    · cases hs
  · split at hs
    · next hempty =>
      obtain rfl := Option.some.inj hs
      have hstart : Handoff s s.startThread [] [s.started] :=
        handoff_startThread (hc rfl) hempty rfl rfl rfl rfl rfl
      exact .of_watchdog hl rfl (hstart.congr rfl rfl rfl rfl rfl) fun _ => hc rfl
    · cases hs
  · split at hs
    · cases hs
    · obtain rfl := Option.some.inj hs
      exact .of_watchdog hl rfl (.keep rfl rfl (.of_eq rfl rfl rfl)) nofun
  · obtain rfl := Option.some.inj hs
    exact .of_watchdog hl rfl (.install (hc rfl) rfl rfl (.of_eq rfl rfl rfl)) nofun
  · next handle =>
    have hthreads := sameThreads_retire s handle
    split at hs
    · cases hs
    · split at hs <;> obtain rfl := Option.some.inj hs
      · exact .of_watchdog hl rfl (.keep rfl rfl (.of_eq rfl rfl rfl)) nofun
      · exact .of_watchdog hl rfl (.keep rfl rfl (hthreads.congr rfl rfl rfl)) nofun
    · obtain rfl := Option.some.inj hs
      exact .of_watchdog hl rfl (.keep rfl rfl (hthreads.congr rfl rfl rfl)) nofun
    · obtain rfl := Option.some.inj hs
      exact .of_watchdog hl rfl (.keep rfl rfl (hthreads.congr rfl rfl rfl)) nofun
  · next handle =>
    have hthreads := sameThreads_retire s handle
    split at hs
    · obtain rfl := Option.some.inj hs
      exact .of_watchdog hl rfl (.keep rfl rfl (hthreads.congr rfl rfl rfl)) nofun
    · cases hs
  · obtain rfl := Option.some.inj hs
    split
    · exact .of_watchdog hl rfl (.keep rfl rfl (.of_eq rfl rfl rfl)) nofun
    · next handle htaken =>
      exact .of_watchdog hl rfl (.take htaken rfl rfl (.of_eq rfl rfl rfl)) nofun
  · next handle =>
    obtain rfl := Option.some.inj hs
    have hthreads := sameThreads_stopThread s handle
    exact .of_watchdog hl rfl (.park rfl rfl (hthreads.congr rfl rfl rfl)) nofun
  · obtain rfl := Option.some.inj hs
    exact .of_watchdog hl rfl (.keep rfl rfl (.of_eq rfl rfl rfl)) nofun
  · obtain rfl := Option.some.inj hs
    apply lifecycleMove_startSession hl rfl
    · rfl
    · rfl
    · rfl
    · exact .of_eq rfl rfl rfl
  · cases hs

theorem stopCaptureStep_move {stage : StopStage} (hl : s.lifecycle = .stopCapture stage)
    (hs : s.stopCaptureStep stage input = some s') : LifecycleMove s s' := by
  unfold stopCaptureStep takeHandle at hs
  dsimp only at hs
  split at hs
  · obtain rfl := Option.some.inj hs
    have hthreads := sameThreads_retireIdentity s
    exact .of_watchdog hl rfl (.keep rfl rfl (hthreads.congr rfl rfl rfl)) nofun
  · obtain rfl := Option.some.inj hs
    exact .of_watchdog hl rfl (.keep rfl rfl (.of_eq rfl rfl rfl)) nofun
  · obtain rfl := Option.some.inj hs
    split
    · exact .of_watchdog hl rfl (.keep rfl rfl (.of_eq rfl rfl rfl)) nofun
    · next handle htaken =>
      exact .of_watchdog hl rfl (.take htaken rfl rfl (.of_eq rfl rfl rfl)) nofun
  · next handle =>
    obtain rfl := Option.some.inj hs
    have hthreads := sameThreads_stopThread s handle
    exact .of_watchdog hl rfl (.park rfl rfl (hthreads.congr rfl rfl rfl)) nofun
  · cases hs

/-- What a step of the watchdog does. -/
structure LadderMove (s s' : CaptureHost) (w : Watchdog) : Prop where
  handoff : Handoff s s' w.stage.owned ((s'.watchdog.map (·.stage.owned)).getD [])
  lifecycle : s'.lifecycle = s.lifecycle
  cleared : ∀ w', s'.watchdog = some w' → w'.stage.cleared = true → s'.arpListenerHandle = none

theorem ladderAct_eq (s : CaptureHost) (w : Watchdog) (event : AttemptEvent) (quietWindows : ℕ) :
    ∃ watchdog : Option Watchdog,
      s.ladderAct w event quietWindows = { s with watchdog := watchdog } ∧
      ∀ w', watchdog = some w' → w'.stage.decided = true := by
  unfold ladderAct
  dsimp only
  split
  · exact ⟨none, rfl, nofun⟩
  · exact ⟨none, rfl, nofun⟩
  · split <;> exact ⟨some _, rfl, by rintro _ ⟨⟩; rfl⟩
  · exact ⟨some _, rfl, by rintro _ ⟨⟩; rfl⟩
  · exact ⟨some _, rfl, by rintro _ ⟨⟩; rfl⟩

theorem decided_holds_nothing {stage : LadderStage} (h : stage.decided = true) :
    stage.owned = [] ∧ stage.cleared = false := by
  cases stage <;> first | exact ⟨rfl, rfl⟩ | cases h

theorem ladderMove_act {w : Watchdog} {s₁ : CaptureHost} (hh : Handoff s s₁ w.stage.owned [])
    (hl : s₁.lifecycle = s.lifecycle) (event : AttemptEvent) (quietWindows : ℕ) :
    LadderMove s (s₁.ladderAct w event quietWindows) w := by
  obtain ⟨watchdog, heq, hdecided⟩ := ladderAct_eq s₁ w event quietWindows
  rw [heq]
  constructor
  · have howned : (watchdog.map (·.stage.owned)).getD [] = [] := by
      cases watchdog with
      | none => rfl
      | some w' => exact (decided_holds_nothing (hdecided w' rfl)).1
    exact howned.symm ▸ hh.congr rfl rfl rfl rfl rfl
  · exact hl
  · intro w' hw' hc
    rw [(decided_holds_nothing (hdecided w' hw')).2] at hc
    cases hc

theorem ladderMove_end {w : Watchdog} (howned : w.stage.owned = []) :
    LadderMove s { s with watchdog := none } w where
  handoff := howned ▸ .keep rfl rfl (.of_eq rfl rfl rfl)
  lifecycle := rfl
  cleared _ hw' := by cases hw'

theorem LadderMove.of_stage {w w' : Watchdog} (hw' : s'.watchdog = some w')
    (hh : Handoff s s' w.stage.owned w'.stage.owned) (hl : s'.lifecycle = s.lifecycle)
    (hc : w'.stage.cleared = true → s'.arpListenerHandle = none) : LadderMove s s' w where
  handoff := by
    rw [hw']
    exact hh
  lifecycle := hl
  cleared w₁ hw₁ := by
    rw [hw'] at hw₁
    exact Option.some.inj hw₁ ▸ hc

theorem ladderStep_move {w : Watchdog} (hw : s.watchdog = some w)
    (hc : w.stage.cleared = true → s.arpListenerHandle = none)
    (hs : s.ladderStep w input = some s') : LadderMove s s' w := by
  obtain ⟨generation, restartsUsed, stage⟩ := w
  unfold ladderStep takeHandle at hs
  dsimp only at hs
  split at hs
  · split at hs
    · obtain rfl := Option.some.inj hs
      exact ladderMove_act (.keep rfl rfl (.of_eq rfl rfl rfl)) rfl _ _
    · cases hs
  · split at hs
    · cases hs
    · split at hs
      · obtain rfl := Option.some.inj hs
        exact .of_stage rfl (.keep rfl rfl (.of_eq rfl rfl rfl)) rfl nofun
      · split at hs <;> obtain rfl := Option.some.inj hs
        · exact ladderMove_end rfl
        · exact .of_stage rfl (.keep rfl rfl (.of_eq rfl rfl rfl)) rfl nofun
    · obtain rfl := Option.some.inj hs
      exact ladderMove_act (.keep rfl rfl (.of_eq rfl rfl rfl)) rfl _ _
    · obtain rfl := Option.some.inj hs
      exact ladderMove_act (.keep rfl rfl (.of_eq rfl rfl rfl)) rfl _ _
  · split at hs
    · obtain rfl := Option.some.inj hs
      exact .of_stage rfl (.keep rfl rfl (.of_eq rfl rfl rfl)) rfl nofun
    · cases hs
  · obtain rfl := Option.some.inj hs
    exact .of_stage rfl (.keep rfl rfl (.of_eq rfl rfl rfl)) rfl nofun
  · obtain rfl := Option.some.inj hs
    exact .of_stage rfl (.keep rfl rfl (.of_eq rfl rfl rfl)) rfl nofun
  · obtain rfl := Option.some.inj hs
    split
    · exact ladderMove_end rfl
    · exact .of_stage rfl (.keep rfl rfl (.of_eq rfl rfl rfl)) rfl nofun
  · split at hs
    · obtain rfl := Option.some.inj hs
      exact ladderMove_end rfl
    · cases hs
  · obtain rfl := Option.some.inj hs
    exact ladderMove_act (.keep rfl rfl (.of_eq rfl rfl rfl)) rfl _ _
  · split at hs
    · obtain rfl := Option.some.inj hs
      exact ladderMove_act (.keep rfl rfl (.of_eq rfl rfl rfl)) rfl _ _
    · obtain rfl := Option.some.inj hs
      exact ladderMove_end rfl
  · obtain rfl := Option.some.inj hs
    split
    · exact ladderMove_act (.keep rfl rfl (.of_eq rfl rfl rfl)) rfl _ _
    · next handle htaken =>
      exact .of_stage rfl (.take htaken rfl rfl (.of_eq rfl rfl rfl)) rfl nofun
  · next handle =>
    obtain rfl := Option.some.inj hs
    have hthreads := sameThreads_stopThread s handle
    apply ladderMove_act
    · exact .park rfl rfl (hthreads.congr rfl rfl rfl)
    · rfl
  · obtain rfl := Option.some.inj hs
    have hthreads := sameThreads_retireIdentity s
    exact .of_stage rfl (.keep rfl rfl (hthreads.congr rfl rfl rfl)) rfl nofun
  · obtain rfl := Option.some.inj hs
    exact .of_stage rfl (.keep rfl rfl (.of_eq rfl rfl rfl)) rfl nofun
  · obtain rfl := Option.some.inj hs
    split
    · exact ladderMove_end rfl
    · next handle htaken =>
      have hthreads := sameThreads_stopThread s handle
      exact .of_stage rfl (.take htaken rfl rfl (hthreads.congr rfl rfl rfl)) rfl fun _ => rfl
  · split at hs
    · next hexited =>
      obtain rfl := Option.some.inj hs
      exact .of_stage rfl (.join hexited rfl rfl (.of_eq rfl rfl rfl)) rfl fun _ => hc rfl
    · cases hs
  · split at hs
    · cases hs
    · obtain rfl := Option.some.inj hs
      exact .of_stage rfl (.keep rfl rfl (.of_eq rfl rfl rfl)) rfl fun _ => hc rfl
  · obtain rfl := Option.some.inj hs
    apply ladderMove_act
    · exact .park rfl rfl (.of_eq rfl rfl rfl)
    · rfl
  · split at hs
    · next hreap =>
      obtain rfl := Option.some.inj hs
      exact .of_stage hw (.reap hreap.2 rfl rfl (.of_eq rfl rfl rfl)) rfl fun _ => hc rfl
    · cases hs
  · split at hs
    · next hempty =>
      obtain rfl := Option.some.inj hs
      have hstart : Handoff s s.startThread [] [s.started] :=
        handoff_startThread (hc rfl) hempty rfl rfl rfl rfl rfl
      exact .of_stage rfl (hstart.congr rfl rfl rfl rfl rfl) rfl fun _ => hc rfl
    · cases hs
  · split at hs
    · cases hs
    · obtain rfl := Option.some.inj hs
      exact ladderMove_act (.keep rfl rfl (.of_eq rfl rfl rfl)) rfl _ _
  · next handle =>
    have hthreads := sameThreads_retire s handle
    split at hs <;> obtain rfl := Option.some.inj hs
    · exact .of_stage rfl (.keep rfl rfl (hthreads.congr rfl rfl rfl)) rfl fun _ => hc rfl
    · exact .of_stage rfl (.install (hc rfl) rfl rfl (.of_eq rfl rfl rfl)) rfl nofun
  · next handle =>
    obtain rfl := Option.some.inj hs
    have hthreads := sameThreads_stopThread s handle
    exact ⟨.park rfl rfl (hthreads.congr rfl rfl rfl), rfl, nofun⟩
  · obtain rfl := Option.some.inj hs
    exact .of_stage rfl (.keep rfl rfl (.of_eq rfl rfl rfl)) rfl nofun
  · obtain rfl := Option.some.inj hs
    exact ladderMove_end rfl
  · cases hs

/-- The handle is installed, parked, or in the hands of a task. -/
def At (s : CaptureHost) (owned : List ℕ) (handle : ℕ) : Prop :=
  s.arpListenerHandle = some handle ∨ handle ∈ s.priorCaptureJoins ∨ handle ∈ owned

theorem Handoff.at {owned owned' : List ℕ} (h : Handoff s s' owned owned')
    (hat : ∀ handle < s.started, (s.threads handle).exited = false → s.At owned handle) :
    ∀ handle < s'.started, (s'.threads handle).exited = false → s'.At owned' handle := by
  intro k hlt halive
  cases h with
  | keep hslot hprior hthreads =>
    obtain ⟨hlt, halive⟩ := hthreads.alive hlt halive
    simpa only [At, hslot, hprior] using hat k hlt halive
  | take htaken hslot hprior hthreads =>
    obtain ⟨hlt, halive⟩ := hthreads.alive hlt halive
    have hk := hat k hlt halive
    simp only [At, htaken, hslot, hprior, Option.some.injEq, List.not_mem_nil, or_false,
      List.mem_singleton, reduceCtorEq, false_or] at hk ⊢
    grind
  | park hslot hprior hthreads =>
    obtain ⟨hlt, halive⟩ := hthreads.alive hlt halive
    have hk := hat k hlt halive
    simp only [At, hslot, hprior, List.mem_append, List.mem_singleton, List.not_mem_nil,
      or_false] at hk ⊢
    exact hk
  | reap hexited hslot hprior hthreads =>
    obtain ⟨hlt, halive⟩ := hthreads.alive hlt halive
    have hne : k ≠ _ := fun he => Bool.false_ne_true (halive.symm.trans (he ▸ hexited))
    simpa [At, hslot, hprior, hne] using hat k hlt halive
  | join hexited hslot hprior hthreads =>
    obtain ⟨hlt, halive⟩ := hthreads.alive hlt halive
    have hne : k ≠ _ := fun he => Bool.false_ne_true (halive.symm.trans (he ▸ hexited))
    simpa [At, hslot, hprior, hne] using hat k hlt halive
  | install hnone hslot hprior hthreads =>
    obtain ⟨hlt, halive⟩ := hthreads.alive hlt halive
    have hk := hat k hlt halive
    simp only [At, hnone, hslot, hprior, Option.some.injEq, List.not_mem_nil, or_false,
      List.mem_singleton, reduceCtorEq, false_or] at hk ⊢
    grind
  | start hnone hempty hslot hprior hstarted _ hexited =>
    rcases Nat.lt_succ_iff_lt_or_eq.mp (hstarted ▸ hlt) with hlt | rfl
    · have hk := hat k hlt ((hexited k hlt).symm.trans halive)
      simp [At, hnone, hempty] at hk
    · exact .inr (.inr List.mem_cons_self)

/-- A task that starts a thread finds no handle in the slot, among the joins or in its hands. -/
theorem Handoff.start_empty {owned owned' : List ℕ} (h : Handoff s s' owned owned')
    (hstarted : s'.started ≠ s.started) (handle : ℕ) : ¬ s.At owned handle := by
  cases h with
  | keep _ _ hthreads | take _ _ _ hthreads | park _ _ hthreads | reap _ _ _ hthreads
  | join _ _ _ hthreads | install _ _ _ hthreads => exact absurd hthreads.started hstarted
  | start hnone hempty => simp [At, hnone, hempty]

/-- Where the handle of a thread is. -/
def Kept (s : CaptureHost) (handle : ℕ) : Prop :=
  s.At s.lifecycle.owned handle ∨ ∃ w, s.watchdog = some w ∧ handle ∈ w.stage.owned

theorem not_alone {l : Lifecycle} (h : l.alone = false) : l.owned = [] ∧ l.cleared = false := by
  cases l <;> first | exact ⟨rfl, rfl⟩ | cases h

theorem foldl_stopThread (s : CaptureHost) (handles : List ℕ) :
    SameThreads s (handles.foldl stopThread s) ∧
      handles.foldl stopThread s = { s with threads := (handles.foldl stopThread s).threads } := by
  induction handles generalizing s with
  | nil => exact ⟨.of_eq rfl rfl rfl, rfl⟩
  | cons handle handles ih =>
    obtain ⟨hthreads, heq⟩ := ih (s.stopThread handle)
    have hstop := sameThreads_stopThread s handle
    rw [List.foldl_cons]
    refine ⟨hstop.trans hthreads, ?_⟩
    rw [heq]
    rfl

/-- What one call does to the handles. -/
inductive Moves (s s' : CaptureHost) : Call → Prop where
  | same {call : Call} (hstarted : s'.started = s.started)
      (halive : ∀ handle, (s'.threads handle).exited = false → (s.threads handle).exited = false)
      (hactive : ∀ handle, (s.threads handle).active = false → (s'.threads handle).active = false)
      (hmerged : ∀ handle, (s.threads handle).active = false →
        s'.merged.count handle = s.merged.count handle)
      (hslot : s'.arpListenerHandle = s.arpListenerHandle)
      (hprior : s'.priorCaptureJoins = s.priorCaptureJoins)
      (hlifecycle : s'.lifecycle = s.lifecycle ∨
        s.lifecycle.alone = false ∧ s'.lifecycle.alone = false)
      (hw : s'.watchdog = s.watchdog) : Moves s s' call
  | operation {input : Input} (halone : s.lifecycle.alone = true) (hm : LifecycleMove s s') :
      Moves s s' (.lifecycle input)
  | watchdog {input : Input} {w : Watchdog} (hw : s.watchdog = some w) (hm : LadderMove s s' w) :
      Moves s s' (.watchdog input)
  | stopped {input : Input} {purpose : Purpose} (hl : s.lifecycle = .stopWatchdog purpose)
      (hnone : s.watchdog = none) (heq : s' = s.afterStop purpose) : Moves s s' (.lifecycle input)
  | aborted {purpose : Purpose} (hl : s.lifecycle = .stopWatchdog purpose)
      (heq : s' = s.abortWatchdog.afterStop purpose) : Moves s s' (.lifecycle .timeout)

/-- An operation that goes on runs alone, and a slot that was cleared is empty. -/
structure Placed (s : CaptureHost) : Prop where
  alone : s.lifecycle.alone = true → s.watchdog = none
  cleared : s.lifecycle.cleared = true → s.arpListenerHandle = none
  removed : ∀ w, s.watchdog = some w → w.stage.cleared = true → s.arpListenerHandle = none

theorem Moves.relocate {call : Call} (hl : s.lifecycle.alone = false)
    (hl' : s'.lifecycle.alone = false) (hthreads : SameThreads s s')
    (hslot : s'.arpListenerHandle = s.arpListenerHandle)
    (hprior : s'.priorCaptureJoins = s.priorCaptureJoins) (hw : s'.watchdog = s.watchdog) :
    Moves s s' call := by
  refine .same hthreads.started (fun handle he => ?_) hthreads.active (fun handle _ => ?_) hslot
    hprior (.inr ⟨hl, hl'⟩) hw
  · exact (hthreads.exited handle).symm.trans he
  · rw [hthreads.merged]

theorem moves_update (s : CaptureHost) (call : Call) (handle : ℕ)
    {f : CaptureThread → CaptureThread} (hf : ∀ t, (f t).exited = false → t.exited = false)
    (ha : ∀ t, t.active = false → (f t).active = false) : Moves s (s.update handle f) call := by
  refine .same rfl (fun handle' he => ?_) (fun handle' he => ?_) (fun _ _ => rfl) rfl rfl
    (.inl rfl) rfl
  · by_cases hk : handle' = handle
    · subst hk
      exact hf _ (by simpa [update] using he)
    · simpa [update, Function.update_of_ne hk] using he
  · by_cases hk : handle' = handle
    · subst hk
      simpa [update] using ha _ he
    · simpa [update, Function.update_of_ne hk] using he

theorem moves_of_step {call : Call} (h : s.Placed) (hs : s.step call = some s') :
    Moves s s' call := by
  cases call with
  | begin purpose =>
    simp only [step] at hs
    split at hs
    · next hidle =>
      obtain rfl := Option.some.inj hs
      exact .relocate (by rw [hidle]; rfl) rfl (.of_eq rfl rfl rfl) rfl rfl rfl
    · cases hs
  | loseAdapter =>
    simp only [step] at hs
    split at hs
    · next hidle =>
      obtain rfl := Option.some.inj hs
      have hthreads := sameThreads_retireIdentity s
      exact .relocate (by rw [hidle]; rfl) rfl (hthreads.congr rfl rfl rfl) rfl rfl rfl
    · cases hs
  | lifecycle input =>
    simp only [step, lifecycleStep] at hs
    split at hs
    · next purpose hl =>
      obtain rfl := Option.some.inj hs
      exact .relocate (by rw [hl]; rfl) rfl (.of_eq rfl rfl rfl) rfl rfl rfl
    · next purpose hl =>
      split at hs
      · next hnone => exact .stopped hl hnone (Option.some.inj hs).symm
      · cases hs
    · next purpose hl =>
      split at hs
      · cases hs
      · exact .aborted hl (Option.some.inj hs).symm
    · next request stage _ hl =>
      exact .operation (by rw [hl]; rfl) (ensureStep_move hl h.cleared hs)
    · next stage _ hl => exact .operation (by rw [hl]; rfl) (stopCaptureStep_move hl hs)
    · cases hs
  | watchdog input =>
    obtain ⟨w, hw, hs⟩ := Option.bind_eq_some_iff.mp hs
    exact .watchdog hw (ladderStep_move hw (h.removed w hw) hs)
  | activate handle | startError handle =>
    simp only [step] at hs
    split at hs
    · obtain rfl := Option.some.inj hs
      exact moves_update s _ handle (fun _ => id) fun _ => id
    · cases hs
  | exit handle =>
    simp only [step] at hs
    split at hs
    · obtain rfl := Option.some.inj hs
      exact moves_update s _ handle nofun fun _ => id
    · cases hs
  | frame handle =>
    simp only [step] at hs
    split at hs
    · split at hs
      · next hactive =>
        obtain rfl := Option.some.inj hs
        refine .same rfl (fun _ => id) (fun _ => id) (fun handle' hdown => ?_) rfl rfl
          (.inl rfl) rfl
        exact List.count_cons_of_ne fun he => Bool.false_ne_true ((he ▸ hdown).symm.trans hactive)
      · obtain rfl := Option.some.inj hs
        exact .same rfl (fun _ => id) (fun _ => id) (fun _ _ => rfl) rfl rfl (.inl rfl) rfl
    · cases hs

theorem abortWatchdog_same (s : CaptureHost) :
    SameThreads s s.abortWatchdog ∧
      s.abortWatchdog.arpListenerHandle = s.arpListenerHandle ∧
      s.abortWatchdog.priorCaptureJoins = s.priorCaptureJoins ∧
      s.abortWatchdog.lifecycle = s.lifecycle ∧ s.abortWatchdog.watchdog = none := by
  unfold abortWatchdog
  split
  · next hnone => exact ⟨.of_eq rfl rfl rfl, rfl, rfl, rfl, hnone⟩
  · next w _ =>
    obtain ⟨hthreads, heq⟩ := foldl_stopThread s w.stage.owned
    rw [heq]
    exact ⟨hthreads.congr rfl hthreads.started.symm hthreads.merged.symm, rfl, rfl, rfl, rfl⟩

theorem placed_afterStop (hnone : s.watchdog = none) (purpose : Purpose) :
    (s.afterStop purpose).Placed := by
  cases purpose <;>
    exact ⟨fun _ => hnone, nofun, fun w hw => by cases hnone.symm.trans hw⟩

theorem not_alone_of_watchdog (h : s.Placed) {w : Watchdog} (hw : s.watchdog = some w) :
    s.lifecycle.alone = false := by
  by_contra hnot
  rw [h.alone (by simpa using hnot)] at hw
  cases hw

theorem Placed.step {call : Call} (h : s.Placed) (hs : s.step call = some s') : s'.Placed := by
  cases moves_of_step h hs with
  | same _ _ _ _ hslot _ hlifecycle hw =>
    constructor
    · rcases hlifecycle with hl | ⟨-, hnot⟩
      · rw [hl, hw]
        exact h.alone
      · simp [hnot]
    · rcases hlifecycle with hl | ⟨-, hnot⟩
      · rw [hl, hslot]
        exact h.cleared
      · simp [(not_alone hnot).2]
    · rw [hw, hslot]
      exact h.removed
  | operation halone hm =>
    have hnone := h.alone halone
    refine ⟨fun ha => (hm.alone ha).trans hnone, hm.cleared, fun w hw hc => ?_⟩
    rcases hm.watchdog w hw with hw | ⟨-, hnot⟩
    · cases hnone.symm.trans hw
    · cases hnot.symm.trans hc
  | watchdog hw hm =>
    have halone := not_alone_of_watchdog h hw
    refine ⟨fun ha => ?_, fun hc => ?_, hm.cleared⟩
    · cases halone.symm.trans (hm.lifecycle ▸ ha)
    · cases (not_alone halone).2.symm.trans (hm.lifecycle ▸ hc)
  | stopped _ hnone heq =>
    subst heq
    exact placed_afterStop hnone _
  | aborted _ heq =>
    subst heq
    exact placed_afterStop (abortWatchdog_same s).2.2.2.2 _

theorem placed_of_reachable (h : machine.Reachable s) : s.Placed := by
  apply h.invariant
  · exact ⟨fun _ => rfl, fun _ => rfl, fun _ _ _ => rfl⟩
  · intro s call s' hplaced hs
    exact hplaced.step hs

/-- A watchdog is aborted while it holds the handle of a live thread. -/
def Detaches (s : CaptureHost) : Call → Prop
  | .lifecycle .timeout => (∃ purpose, s.lifecycle = .stopWatchdog purpose) ∧
      ∃ w, s.watchdog = some w ∧ ∃ handle ∈ w.stage.owned, (s.threads handle).exited = false
  | _ => False

/-- No handle of a live thread is lost. -/
def AllKept (s : CaptureHost) : Prop :=
  ∀ handle < s.started, (s.threads handle).exited = false → s.Kept handle

theorem allKept_afterStop
    (hat : ∀ handle < s.started, (s.threads handle).exited = false → s.At [] handle)
    (purpose : Purpose) : (s.afterStop purpose).AllKept := by
  cases purpose <;> exact fun handle hlt he => .inl (hat handle hlt he)

theorem AllKept.at (h : s.AllKept) (hnone : s.watchdog = none) : ∀ handle < s.started,
    (s.threads handle).exited = false → s.At s.lifecycle.owned handle := by
  intro handle hlt he
  rcases h handle hlt he with hat | ⟨w, hw, -⟩
  · exact hat
  · cases hnone.symm.trans hw

theorem AllKept.at_watchdog (h : s.AllKept) (howned : s.lifecycle.owned = []) {w : Watchdog}
    (hw : s.watchdog = some w) : ∀ handle < s.started, (s.threads handle).exited = false →
      s.At w.stage.owned handle := by
  intro handle hlt he
  rcases h handle hlt he with (hat | hat | hat) | ⟨w', hw', hmem⟩
  · exact .inl hat
  · exact .inr (.inl hat)
  · rw [howned] at hat
    cases hat
  · cases hw.symm.trans hw'
    exact .inr (.inr hmem)

theorem AllKept.step {call : Call} (h : s.AllKept) (hp : s.Placed) (hcalm : ¬ s.Detaches call)
    (hs : s.step call = some s') : s'.AllKept := by
  cases moves_of_step hp hs with
  | same hstarted halive _ _ hslot hprior hlifecycle hw =>
    intro handle hlt he
    have howned : s'.lifecycle.owned = s.lifecycle.owned := by
      rcases hlifecycle with hl | ⟨hnot, hnot'⟩
      · rw [hl]
      · rw [(not_alone hnot).1, (not_alone hnot').1]
    simpa only [Kept, At, hslot, hprior, howned, hw] using
      h handle (hstarted ▸ hlt) (halive handle he)
  | operation halone hm =>
    exact fun handle hlt he => .inl (hm.handoff.at (h.at (hp.alone halone)) handle hlt he)
  | watchdog hw hm =>
    have howned := (not_alone (not_alone_of_watchdog hp hw)).1
    intro handle hlt he
    rcases hm.handoff.at (h.at_watchdog howned hw) handle hlt he with hk | hk | hk
    · exact .inl (.inl hk)
    · exact .inl (.inr (.inl hk))
    · cases hw' : s'.watchdog with
      | none =>
        rw [hw'] at hk
        cases hk
      | some w' =>
        rw [hw'] at hk
        exact .inr ⟨w', hw', hk⟩
  | stopped hl hnone heq =>
    subst heq
    have hat := h.at hnone
    rw [hl] at hat
    exact allKept_afterStop hat _
  | aborted hl heq =>
    subst heq
    obtain ⟨hthreads, hslot, hprior, -, -⟩ := abortWatchdog_same s
    refine allKept_afterStop (fun handle hlt he => ?_) _
    obtain ⟨hlt, he⟩ := hthreads.alive hlt he
    rcases h handle hlt he with hat | ⟨w, hw, hmem⟩
    · simpa only [At, hslot, hprior, hl, Lifecycle.owned] using hat
    · exact absurd ⟨⟨_, hl⟩, w, hw, handle, hmem, he⟩ hcalm

/-- A call that starts a thread finds every handle gone. -/
theorem start_empty {call : Call} (hp : s.Placed) (hs : s.step call = some s')
    (hstarted : s'.started ≠ s.started) (handle : ℕ) : ¬ s.Kept handle := by
  cases moves_of_step hp hs with
  | same h => exact absurd h hstarted
  | operation halone hm =>
    rintro (hat | ⟨w, hw, -⟩)
    · exact hm.handoff.start_empty hstarted handle hat
    · cases (hp.alone halone).symm.trans hw
  | watchdog hw hm =>
    have hempty := hm.handoff.start_empty hstarted handle
    rintro ((hat | hat | hat) | ⟨w', hw', hmem⟩)
    · exact hempty (.inl hat)
    · exact hempty (.inr (.inl hat))
    · rw [(not_alone (not_alone_of_watchdog hp hw)).1] at hat
      cases hat
    · cases hw.symm.trans hw'
      exact hempty (.inr (.inr hmem))
  | stopped _ _ heq =>
    subst heq
    exact absurd (by cases ‹Purpose› <;> rfl) hstarted
  | aborted _ heq =>
    subst heq
    have habort := (abortWatchdog_same s).1.started
    exact absurd (by cases ‹Purpose› <;> exact habort) hstarted

/-- In a run in which no watchdog is aborted with the handle of a live thread, a thread starts
only when those before it have exited, and the handle of a live thread is installed, parked, or
in the hands of the operation or the watchdog. -/
theorem captures_never_overlap (h : machine.Reaches (fun s call => ¬ s.Detaches call) s) :
    (∀ handle < s.started, (s.threads handle).exited = false → s.Kept handle) ∧
    ∀ call s', s.step call = some s' → s'.started ≠ s.started →
      ∀ handle < s.started, (s.threads handle).exited = true := by
  have hkept : s.AllKept := by
    apply h.invariant (Q := Placed) fun s => placed_of_reachable
    · exact fun handle hlt => absurd hlt (Nat.not_lt_zero handle)
    · intro s s' call hp hkept hcalm hs
      exact hkept.step hp hcalm hs
  refine ⟨hkept, fun call s' hs hstarted handle hlt => ?_⟩
  by_contra hnot
  exact start_empty (placed_of_reachable h.reachable) hs hstarted handle
    (hkept handle hlt (by simpa using hnot))

section Example

/-- Only the time-out of a stop aborts a watchdog. -/
theorem admits_of_no_timeout (s : CaptureHost) (calls : List Call)
    (h : Call.lifecycle .timeout ∉ calls) :
    machine.Admits (fun s call => ¬ s.Detaches call) s calls := by
  induction calls generalizing s with
  | nil => trivial
  | cons call calls ih =>
    obtain ⟨hne, hrest⟩ := not_or.mp (List.mem_cons.not.mp h)
    refine ⟨fun hd => ?_, fun s' _ => ih s' hrest⟩
    unfold Detaches at hd
    split at hd
    · exact hne rfl
    · exact hd

/-- A start on a link that is up, to the point where it starts its thread. -/
def startUp : List Call :=
  .begin (.start ⟨"Ethernet", none, true, false⟩) :: List.replicate 9 (.lifecycle .next)

/-- The listener attaches, and the watchdog finds it deaf and waits for its thread. -/
def deafSession : List Call :=
  startUp ++ [.lifecycle .next, .lifecycle .next, .activate 0 (.selectedInterface (some 7))] ++
    List.replicate 3 (.lifecycle .next) ++
    [.watchdog .next, .watchdog .next, .watchdog (.frames 0 5)] ++
    List.replicate 3 (.watchdog .next)

theorem captures_never_overlap_restart :
    ∃ s, machine.run initial (deafSession ++ [.exit 0] ++ List.replicate 2 (.watchdog .next)) =
        some s ∧ s.started = 2 ∧
      (∀ handle < 2, (s.threads handle).exited = false → s.Kept handle) ∧
      ∀ call s', s.step call = some s' → s'.started ≠ 2 →
        ∀ handle < 2, (s.threads handle).exited = true := by
  have hadmits := admits_of_no_timeout initial
    (deafSession ++ [.exit 0] ++ List.replicate 2 (.watchdog .next)) (by decide)
  refine ⟨_, rfl, rfl, ?_⟩
  exact captures_never_overlap (.run .initial hadmits rfl)

/-- A stop aborts the watchdog while it waits for the thread; the next start finds nothing
parked, and starts a second thread beside the first. -/
theorem aborted_join_overlaps :
    ∃ s s', machine.run initial (deafSession ++ [.begin .full, .lifecycle .next,
        .lifecycle .timeout] ++ List.replicate 3 (.lifecycle .next) ++ startUp) = some s ∧
      s.step (.lifecycle .next) = some s' ∧ s.started = 1 ∧ s'.started = 2 ∧
      (s.threads 0).exited = false ∧ s.arpListenerHandle = none ∧ s.priorCaptureJoins = [] ∧
      s.lifecycle.owned = [] ∧ s.watchdog = none :=
  ⟨_, _, rfl, rfl, rfl, rfl, rfl, rfl, rfl, rfl, rfl⟩

end Example

end CaptureHost

end Capture

end PocketStream
