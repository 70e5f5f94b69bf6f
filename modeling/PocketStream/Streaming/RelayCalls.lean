import PocketStream.Streaming.RelayIntents

/-! # The relay calls keep to the protocol

The supervisor is safe under the protocol as the intents are: a recovery stays
its own until it is over. With that every call of the relay has what it assumes
when it starts and leaves what the next one assumes.
-/

namespace PocketStream

open Foundation RelayView

variable {t : ℕ} {e g : UInt64} {h : ℕ} {l : Listener}

/-! ### The supervisor -/

section Supervisor

variable {spec base : ResolvedStartSpec}

/-- What a call assumes when it starts. -/
def RelayCall.Pre : RelayCall → ℕ → RelayView → Prop
  | .listen, t, v => v.track.supervisor = some t
  | .recover epoch generation, t, v | .attempt epoch generation, t, v =>
    v.Recovers t epoch generation
  | _, t, v => v.Command t

/-- How a call of the supervisor goes on. -/
def RelayView.GoesOn (t : ℕ) : Option RelayCall → RelayView → Prop
  | some call => call.Pre t
  | none => fun v => v.Command t

/-- The supervisor recovers the generation, whose health record it has. -/
def RelayView.Tends (v : RelayView) (t : ℕ) (e g : UInt64) (h : ℕ) : Prop :=
  v.Recovers t e g ∧ v.Installed g h

theorem lasts_tends : Lasts t fun v => v.Tends t e g h := Lasts.recovers.and Lasts.installed

/-- The current record of a generation that is recovered is the stored listener's. -/
theorem RelayView.Tends.attends {v : RelayView} (hv : v.Owned) (ht : v.Tends t e g h) :
    v.Attends h :=
  hv.attends (hv.recovering e g ht.1.2.1).2 ht.2

/-- A recovery is taken up under the epoch that is the newest one. -/
theorem recovers_accept {s : TrackedRelay} {v : RelayView} (hs : s.track.supervisor = some t)
    (hc : s.track.claims = e.toNat) (hv : v.track = s.track.accept t (some (e, g))) :
    v.Recovers t e g := by
  refine ⟨?_, ?_, ?_⟩
  · rw [hv]
    exact hs
  · rw [hv]
    rfl
  · change v.track.claimOf t = _
    rw [hv]
    simp [RelayTrack.accept, hc]

theorem admitFault_ensures {fault : RelayFault} :
    Ensures t (fun v => v.track.supervisor = some t) (relayStep (.admitFault fault))
      fun r v => v.track.supervisor = some t ∧
        ∀ e h, r = some (e, h) → v.Recovers t e fault.serverGeneration := by
  refine .step kept_supervisor (fun _ _ h => h) ?_ fun _ =>
    kept_supervisor.and (.all fun _ => .all fun _ => .imp fun _ => kept_recovers)
  intro s o r s' hi hs _ ha _
  have hsup := TrackedRelay.answer_supervisor (by simp) ha
  refine ⟨hsup.trans hs, fun e h heq => ?_⟩
  simp only [TrackedRelay.answer, RelayShared.answer, RelayShared.admitFault] at ha
  split at ha
  · cases ha
    cases heq
  · next epoch health hc =>
    obtain ⟨-, -, he⟩ := RelayShared.currentRelayContext_eq _ hc
    cases ha
    split at heq
    · next hacc =>
      cases heq
      refine recovers_accept hs (hi.epoch.symm.trans (congrArg _ he)) ?_
      simp [TrackedRelay.view, RelayTrack.after, hacc]
    · cases heq

theorem admitRetry_ensures :
    Ensures t (fun v => v.track.supervisor = some t) (relayStep (.admitRetry g))
      fun r v => v.track.supervisor = some t ∧ ∀ e h, r = some (e, h) → v.Recovers t e g := by
  refine .step kept_supervisor (fun _ _ h => h) ?_ fun _ =>
    kept_supervisor.and (.all fun _ => .all fun _ => .imp fun _ => kept_recovers)
  intro s o r s' hi hs _ ha _
  have hsup := TrackedRelay.answer_supervisor (by simp) ha
  refine ⟨hsup.trans hs, fun e h heq => ?_⟩
  cases ha
  obtain ⟨hc, -⟩ := Option.filter_eq_some_iff.mp heq
  obtain ⟨-, -, he⟩ := RelayShared.currentRelayContext_eq _ hc
  refine recovers_accept hs (hi.epoch.symm.trans (congrArg _ he)) ?_
  simp only [TrackedRelay.view, RelayTrack.after]
  rw [heq]
  rfl

theorem listenForEvents_ensures :
    Ensures t (fun v => v.track.supervisor = some t) listenForEvents (GoesOn t) := by
  have hadmitted {g : UInt64} (r : Option (UInt64 × ℕ)) : RelayView.Kept t fun v =>
      v.track.supervisor = some t ∧ ∀ e h, r = some (e, h) → v.Recovers t e g :=
    kept_supervisor.and (.all fun _ => .all fun _ => .imp fun _ => kept_recovers)
  refine .bind _ (.mild rfl kept_supervisor fun _ _ _ => trivial) fun event => ?_
  rcases event with _ | fault | generation
  · exact .done kept_supervisor fun _ _ h => h
  · refine .bind _ admitFault_ensures fun admitted => ?_
    rcases admitted with _ | ⟨epoch, health⟩
    · exact .done (hadmitted _) fun _ _ h => h.1
    · exact .done (hadmitted _) fun _ _ h => h.2 _ _ rfl
  · refine .bind _ admitRetry_ensures fun admitted => ?_
    rcases admitted with _ | ⟨epoch, health⟩
    · exact .done (hadmitted _) fun _ _ h => h.1
    · exact .done (hadmitted _) fun _ _ h => h.2 _ _ rfl

theorem endRecovery_ensures :
    Ensures t (fun v => v.track.supervisor = some t) (endRecovery e g) (GoesOn t) := by
  refine .bind (fun _ v => v.track.supervisor = some t) (.step kept_supervisor (fun _ _ h => h) ?_
    fun _ => kept_supervisor) fun _ => .done kept_supervisor fun _ _ h => h
  intro s o r s' _ hs _ ha _
  exact (TrackedRelay.answer_supervisor (by simp) ha).trans hs

/-- Under the gate, the currency check tells that nothing newer has stored a listener. -/
theorem isCurrent_owns {F : RelayView → Prop} (hF : RelayView.Kept t F) :
    Ensures t (fun v => F v ∧ v.Holding t) (relayIsCurrent e g)
      fun current v => (F v ∧ v.Holding t) ∧ (current = true → v.Owns t e) := by
  refine .isCurrent (hF.and kept_holding) kept_owns fun v hv h he _ => ⟨h.2, ?_⟩
  rw [← he, hv.epoch]
  exact hv.storedBy

theorem retireFailed_ensures :
    Ensures t (fun v => v.Recovers t e g ∧ v.Holding t) (retireFailed e g)
      fun _ v => v.Recovers t e g ∧ v.Holding t := by
  have hA := (kept_recovers (t := t) (e := e) (g := g)).and kept_holding
  refine .bind _ (isCurrent_owns kept_recovers) fun current => ?_
  cases current with
  | false => exact .done (hA.and (.imp fun _ => kept_owns)) fun _ _ h => h.1
  | true =>
    refine .bind _ ((Ensures.takeGeneration Lasts.recovers fun _ h => h.2.2).conseq
      (fun _ _ h => ⟨h.1.1, h.2 rfl⟩) fun _ _ _ h => h) fun failed => ?_
    refine .bind _ ((Ensures.shutdownServer Lasts.recovers kept_holding (fun _ h => h.1)
      failed).conseq (fun _ _ h => ⟨h.1, h.2.mono fun h => h.1⟩) fun _ _ _ h => h) fun _ => ?_
    exact .bind _ (retireFirewall_keeps hA) fun _ => .done hA fun _ _ h => h

theorem recoverRelayGeneration_ensures :
    Ensures t (fun v => v.Recovers t e g) (recoverRelayGeneration e g) (GoesOn t) := by
  have hend : Ensures t (fun v => v.Recovers t e g) (endRecovery e g) (GoesOn t) :=
    endRecovery_ensures.conseq (fun _ _ h => h.1) fun _ _ _ h => h
  refine .bind _ (.withLifecycle kept_recovers (fun _ => kept_recovers) (fun _ h => h)
    (fun _ _ h => h) retireFailed_ensures) fun retired => ?_
  cases retired with
  | false => exact hend
  | true =>
    refine .bind _ (.silent rfl kept_recovers) fun failed => ?_
    cases failed with
    | false => exact .done kept_recovers fun _ _ h => h
    | true =>
      have hB (r : Bool) : RelayView.Kept t fun v =>
          v.track.supervisor = some t ∧ (r = false → v.Recovers t e g) :=
        kept_supervisor.and (.imp fun _ => kept_recovers)
      refine .bind _ (.step (B := fun permanent v =>
        v.track.supervisor = some t ∧ (permanent = false → v.Recovers t e g))
          kept_recovers (fun _ _ h => h.1) ?_ fun _ => hB _) fun permanent => ?_
      · intro s o r s' _ hs _ ha _
        refine ⟨(TrackedRelay.answer_supervisor (by simp) ha).trans hs.1, ?_⟩
        rintro rfl
        simp only [TrackedRelay.answer, RelayShared.answer, Option.map_some, Option.some.injEq,
          Prod.mk.injEq] at ha
        obtain ⟨hr, rfl⟩ := ha
        simpa [TrackedRelay.view, RelayTrack.after, hr] using hs
      · cases permanent with
        | true => exact endRecovery_ensures.conseq (fun _ _ h => h.1) fun _ _ _ h => h
        | false => exact .done (hB false) fun _ _ h => h.2 rfl

theorem resolveExplicitBind_ensures :
    Ensures t (fun v => v.Tends t e g h) (resolveExplicitBind e g h spec)
      fun _ v => v.Tends t e g h := by
  have hF := (lasts_tends (t := t) (e := e) (g := g) (h := h)).kept
  unfold resolveExplicitBind
  split
  · exact .done hF fun _ _ h => h
  · refine .bind _ (.isCurrent hF hF fun _ _ h _ _ => h) fun current => ?_
    have hC := hF.and (.imp (φ := current = true) fun _ => hF)
    cases current with
    | false => exact .done hC fun _ _ h => h.1
    | true =>
      refine .bind _ ((Ensures.silent rfl hF).conseq (fun _ _ h => h.1) fun _ _ _ h => h)
        fun resolved => ?_
      cases resolved with
      | ok r => exact .done hF fun _ _ h => h
      | error error =>
        exact .bind _ (.mild rfl hF fun _ hv h => Tends.attends hv h) fun _ =>
          .done hF fun _ _ h => h

theorem resolveAttempt_ensures :
    Ensures t (fun v => v.Tends t e g h) (resolveAttempt e g h base)
      fun _ v => v.Tends t e g h := by
  have hF := (lasts_tends (t := t) (e := e) (g := g) (h := h)).kept
  unfold resolveAttempt
  split
  · refine .bind _ (.silent rfl hF) fun scope => ?_
    cases scope <;> exact .done hF fun _ _ h => h
  · split
    · exact resolveExplicitBind_ensures
    · refine .bind _ (.silent rfl hF) fun reresolve => ?_
      split
      · exact resolveExplicitBind_ensures
      · exact .done hF fun _ _ h => h

/-- How an attempt leaves the gate: with the recovery still to do, or over. -/
def RelayView.AttemptEnds (t : ℕ) (e g : UInt64) : Attempt → RelayView → Prop
  | .again => fun v => v.Recovers t e g
  | .ended => fun v => v.track.supervisor = some t

theorem kept_attemptEnds : ∀ a, RelayView.Kept t (AttemptEnds t e g a)
  | .again => kept_recovers
  | .ended => kept_supervisor

theorem rebuildListener_ensures :
    Ensures t (fun v => v.Tends t e g h ∧ v.Vacant t g) (rebuildListener e g h spec)
      fun a v => AttemptEnds t e g a v ∧ v.Holding t := by
  have hF := lasts_tends (t := t) (e := e) (g := g) (h := h)
  have hV := hF.kept.and (kept_free (t := t)
    (P := fun stored => ∀ l, stored = some l → l.generation ≠ g))
  have hagain : ∀ v : RelayView, v.Owned → v.Tends t e g h ∧ v.Vacant t g →
      AttemptEnds t e g .again v ∧ v.Holding t := fun _ _ h => ⟨h.1.1, h.2.1⟩
  have hstored : ∀ v : RelayView, v.Owned → v.Tends t e g h → v.Vacant t g →
      v.healthGeneration = some g → v.stored = none := fun v hv ht hn hg =>
    Option.eq_none_iff_forall_ne_some.mpr fun l hl =>
      hn.2 l hl ((hv.recovering e g ht.1.2.1).2 l hl hg)
  refine .bind _ (.ifEpoch hV (fun _ _ h => h) (.confirmBuild hF (fun _ h => h.2) hstored))
    fun build => ?_
  cases build with
  | stale => exact .bind _ (retireFirewall_keeps hV) fun _ => .done hV hagain
  | failed serverInstance failure =>
    exact .bind _ (retireFirewall_keeps hV) fun _ =>
      .bind _ (.mild rfl hV fun _ hv h => Tends.attends hv h.1) fun _ => .done hV hagain
  | built l =>
    refine .bind _ (.storeListener hF kept_supervisor (fun v h => h.1.2.2) fun v v' h hs =>
      hs.trans h.1.1) fun stored => ?_
    cases stored with
    | true => exact .done (kept_supervisor.and kept_holding) fun _ _ h => h
    | false =>
      have hE := hF.kept.and (kept_free (t := t) (P := (· = none)))
      refine .bind _ (.shutdown hF) fun _ => .bind _ (retireFirewall_keeps hE) fun _ =>
        .bind _ (.mild rfl hE fun _ _ h => Empty.attends h.2) fun marked => ?_
      cases marked with
      | true => exact .done hE fun _ _ h => ⟨h.1.1, h.2.1⟩
      | false => exact .done hE fun _ _ h => ⟨h.1.1.1, h.2.1⟩

theorem rebuild_ensures :
    Ensures t (fun v => v.Tends t e g h ∧ v.Holding t) (rebuild e g h spec)
      fun a v => AttemptEnds t e g a v ∧ v.Holding t := by
  have hF := lasts_tends (t := t) (e := e) (g := g) (h := h)
  have hV := hF.kept.and (kept_free (t := t)
    (P := fun stored => ∀ l, stored = some l → l.generation ≠ g))
  have hagain : ∀ v : RelayView, v.Owned → v.Tends t e g h ∧ v.Vacant t g →
      AttemptEnds t e g .again v ∧ v.Holding t := fun _ _ h => ⟨h.1.1, h.2.1⟩
  have hended : ∀ v : RelayView, v.Owned → v.Tends t e g h ∧ v.Vacant t g →
      AttemptEnds t e g .ended v ∧ v.Holding t := fun _ _ h => ⟨h.1.1.1, h.2.1⟩
  refine .bind _ (isCurrent_owns hF.kept) fun current => ?_
  cases current with
  | false =>
    exact .done ((hF.kept.and kept_holding).and (.imp fun _ => kept_owns)) fun _ _ h =>
      ⟨h.1.1.1.1, h.1.2⟩
  | true =>
    refine .bind _ ((Ensures.takeGeneration hF fun _ h => h.1.2.2).conseq
      (fun _ _ h => ⟨h.1.1, h.2 rfl⟩) fun _ _ _ h => h) fun prior => ?_
    refine .bind _ (.shutdownServer hF kept_free (fun _ h => h.vacant) prior) fun _ => ?_
    refine .bind _ (.silent rfl hV) fun gstError => ?_
    refine .bind _ (.ifEpoch hV (fun _ _ h => h)
      (.mild rfl hV fun _ hv h => Tends.attends hv h.1)) fun check => ?_
    cases check with
    | superseded => exact .done hV hended
    | failed => exact .done hV hagain
    | current =>
      refine .bind _ (.silent rfl hV) fun target => .bind _ (.silent rfl hV) fun path => ?_
      cases path with
      | error error =>
        exact .bind _ (.mild rfl hV fun _ hv h => Tends.attends hv h.1) fun _ => .done hV hagain
      | ok path =>
        refine .bind _ (.isCurrent hV hV fun _ _ h _ _ => h) fun current => ?_
        have hC := hV.and (.imp (φ := current = true) fun _ => hV)
        cases current with
        | false => exact .done hC fun v hv h => hended v hv h.1
        | true =>
          refine .bind _ ((Ensures.silent rfl hV).conseq (fun _ _ h => h.1) fun _ _ _ h => h)
            fun unmoved => ?_
          cases unmoved with
          | false => exact .done hV hagain
          | true => exact .bind _ (applyFirewall_keeps hV spec) fun _ => rebuildListener_ensures

theorem waitRelayBackoff_ensures :
    Ensures t (fun v => v.Tends t e g h) (waitRelayBackoff e g h) fun _ v => v.Tends t e g h := by
  have hF := (lasts_tends (t := t) (e := e) (g := g) (h := h)).kept
  refine .bind _ (.isCurrent hF hF fun _ _ h _ _ => h) fun current => ?_
  have hC := hF.and (.imp (φ := current = true) fun _ => hF)
  cases current with
  | false => exact .done hC fun _ _ h => h.1
  | true =>
    have hresume : Ensures t (fun v => v.Tends t e g h) (relayStep (.resumeRecovery e g h))
        fun _ v => v.Tends t e g h := .mild rfl hF fun _ hv h => Tends.attends hv h
    exact (Ensures.ifEpoch hF (fun _ _ h => h) hresume).conseq (fun _ _ h => h.1) fun _ _ _ h => h

theorem scheduleAttempt_ensures :
    Ensures t (fun v => v.Recovers t e g) (relayStep (.scheduleAttempt e g))
      fun r v => v.Recovers t e g ∧ ∀ h, r = some h → v.Installed g h := by
  refine .step kept_recovers (fun _ _ _ => trivial) ?_ fun _ =>
    kept_recovers.and (.all fun _ => .imp fun _ => kept_installed)
  intro s o r s' hi hs hm ha _
  have hg : relayGuard t (.scheduleAttempt e g) s.view := trivial
  have hmild := TrackedRelay.mild_answer hi hg hm rfl ha
  refine ⟨kept_recovers _ _ hi (hmild.2 t) hs, fun h heq => ?_⟩
  simp only [TrackedRelay.answer, RelayShared.answer, RelayShared.scheduleAttempt] at ha
  split at ha
  · cases ha
    cases heq
  · next current health hc =>
    obtain ⟨hgen, hhealth, -⟩ := RelayShared.currentRelayContext_eq _ hc
    have hinst : s.view.Installed g health :=
      ⟨hi.health health hhealth, TrackedRelay.generationOf_health hhealth hgen⟩
    split at ha
    · cases ha
      cases heq
    · cases ha
      cases heq
      exact kept_installed _ _ hi (hmild.2 t) hinst

theorem attemptRecovery_ensures :
    Ensures t (fun v => v.Recovers t e g) (attemptRecovery e g) (GoesOn t) := by
  refine .bind _ scheduleAttempt_ensures fun scheduled => ?_
  cases scheduled with
  | none => exact endRecovery_ensures.conseq (fun _ _ h => h.1.1) fun _ _ _ h => h
  | some health =>
    have hF := (lasts_tends (t := t) (e := e) (g := g) (h := health)).kept
    have hend : Ensures t (fun v => v.Tends t e g health) (endRecovery e g) (GoesOn t) :=
      endRecovery_ensures.conseq (fun _ _ h => h.1.1) fun _ _ _ h => h
    refine .bind _ (waitRelayBackoff_ensures.conseq (fun _ _ h => ⟨h.1, h.2 _ rfl⟩)
      fun _ _ _ h => h) fun waited => ?_
    cases waited with
    | false => exact hend
    | true =>
      refine .bind _ (.silent rfl hF) fun spec => ?_
      cases spec with
      | none => exact hend
      | some base =>
        refine .bind _ resolveAttempt_ensures fun resolution => ?_
        cases resolution with
        | superseded => exact hend
        | unresolved => exact .done hF fun _ _ h => h.1
        | ready spec =>
          refine .bind _ (.withLifecycle hF kept_attemptEnds (fun _ h => h)
            (fun a _ h => by cases a <;> exact h) rebuild_ensures) fun attempt => ?_
          cases attempt with
          | again => exact .done kept_recovers fun _ _ h => h
          | ended => exact endRecovery_ensures

end Supervisor

/-! ### The calls -/

theorem takeEvents_ensures :
    Ensures t (fun v => v.Command t) (relayStep .takeEvents)
      fun taken v => if taken then v.track.supervisor = some t else v.Command t := by
  refine .step kept_command (fun _ _ _ => trivial) ?_ fun taken => ?_
  · intro s o r s' hi hs _ ha _
    cases ha
    cases s.shared.eventsTaken
    · rfl
    · exact hs
  · cases taken
    · exact kept_command
    · exact kept_supervisor

theorem RelayCall.ensures (call : RelayCall) : Ensures t (call.Pre t) call.program (GoesOn t) := by
  have hrest : Ensures t (fun v => v.Command t) (Program.done none) (GoesOn t) :=
    .done kept_command fun _ _ h => h
  cases call with
  | start => exact .bind _ startRestreamServer_ensures fun _ => hrest
  | stop => exact .bind _ stopRestreamServer_ensures fun _ => hrest
  | apply update => exact .bind _ applyRestreamSettings_ensures fun _ => hrest
  | switch protocol => exact .bind _ switchRestreamProtocol_ensures fun _ => hrest
  | supervise =>
    refine .bind _ takeEvents_ensures fun taken => ?_
    cases taken with
    | true => exact .done kept_supervisor fun _ _ h => h
    | false => exact hrest
  | listen => exact listenForEvents_ensures
  | recover epoch generation => exact recoverRelayGeneration_ensures
  | attempt epoch generation => exact attemptRecovery_ensures

/-- What each call assumes when it starts and how it ends; one that takes no part is not the
supervisor. -/
def relayProtocolCalls : relayProtocol.Calls where
  pre call t s := call.Pre t s.view
  rest t s := s.view.Command t
  stable _ := stable_of_kept kept_command
  safe call t := Protocol.Triple.conseq (RelayCall.ensures call) (fun _ _ h => h) fun r _ _ h => by
    cases r <;> exact h
  abandoned _ ha := by cases ha

end PocketStream
