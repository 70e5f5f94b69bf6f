import PocketStream.Streaming.RelaySteps

/-! # The intents keep to the protocol

Start, stop and the settings transactions are safe under the protocol, from the
first step to the last and whatever the other operations do. An intent and what
is installed for it last through the operation; the lifecycle gate is left with
nothing in hand.
-/

namespace PocketStream

open Foundation RelayView

variable {t : ℕ} {e g : UInt64} {h : ℕ} {l : Listener}

/-- The call is not the supervisor's. -/
abbrev RelayView.Command (v : RelayView) (t : ℕ) : Prop := v.track.supervisor ≠ some t

/-! ### Start -/

section Start

variable {spec : ResolvedStartSpec} {target : Option CameraTarget} {info : RestreamServerInfo}
  {settings : AppSettings} {preserve : Bool} {gstError : Fallible Unit}

/-- The start has installed its generation. -/
def RelayView.Started (v : RelayView) (t : ℕ) (e g : UInt64) (h : ℕ) : Prop :=
  v.Starts t e ∧ v.Installed g h

theorem lasts_started : Lasts t fun v => v.Started t e g h := Lasts.starts.and Lasts.installed

theorem cancelRestreamStartIntent_ensures :
    Ensures t (fun v => v.Starts t e) (cancelRestreamStartIntent e preserve)
      fun _ v => v.Command t :=
  .ifEpoch kept_starts (fun _ _ h => h.1)
    (Ensures.cancelStart.conseq (fun _ _ h => ⟨h.1, h.2.1⟩) fun _ _ _ h => h)

/-- A start that gives up withdraws its intent first. -/
theorem cancelled_ensures {α : Type} {result : α} :
    Ensures t (fun v => v.Starts t e)
      (do cancelRestreamStartIntent e preserve; return result) fun _ v => v.Command t :=
  .bind _ cancelRestreamStartIntent_ensures fun _ => .done kept_command fun _ _ h => h

theorem resolveBind_keeps {A : RelayView → Prop} (hA : RelayView.Kept t A)
    (interface id : Option String) : Ensures t A (resolveBind interface id) fun _ => A := by
  cases interface with
  | some name => exact .bind (fun _ => A) (.silent rfl hA) fun _ => .done hA fun _ _ h => h
  | none =>
    refine .bind (fun _ => A) (.silent rfl hA) fun scope => ?_
    cases scope <;> exact .done hA fun _ _ h => h

theorem advertisedAddress_keeps {A : RelayView → Prop} (hA : RelayView.Kept t A) :
    ∀ address, Ensures t A (advertisedAddress address) fun _ => A
  | some _ => .done hA fun _ _ h => h
  | none => .bind (fun _ => A) (.silent rfl hA) fun _ => .done hA fun _ _ h => h

theorem resolveRestreamStartSpec_keeps {A : RelayView → Prop} (hA : RelayView.Kept t A) :
    Ensures t A (resolveRestreamStartSpec settings) fun _ => A := by
  unfold resolveRestreamStartSpec
  split
  · exact .done hA fun _ _ h => h
  · exact .done hA fun _ _ h => h
  · split
    · exact .done hA fun _ _ h => h
    · refine .bind _ (resolveBind_keeps hA _ _) fun bind => ?_
      cases bind with
      | error error => exact .done hA fun _ _ h => h
      | ok bind => exact .bind _ (advertisedAddress_keeps hA _) fun _ => .done hA fun _ _ h => h

theorem storeOrRetire_ensures :
    Ensures t (fun v => v.Started t e g h ∧ v.Built t e g l)
      (storeOrRetire spec e g h info l) fun _ v => v.Command t ∧ v.Holding t := by
  have hF := lasts_started (t := t) (e := e) (g := g) (h := h)
  refine .bind _ (.storeListener hF kept_command (fun v h => h.1.2.1) fun v v' h hs =>
    hs ▸ h.1.1) fun stored => ?_
  cases stored with
  | true => exact .done (kept_command.and kept_holding) fun _ _ h => h
  | false =>
    have hE := hF.kept.and (kept_free (t := t) (P := (· = none)))
    refine .bind _ (.shutdown hF) fun _ => .bind _ (retireFirewall_keeps hE) fun _ =>
      .bind _ (.mild rfl hE fun _ _ h => Empty.attends h.2) fun _ => ?_
    exact .done hE fun _ _ h => ⟨h.1.1.1, h.2.1⟩

theorem buildListener_ensures :
    Ensures t (fun v => v.Started t e g h ∧ v.Empty t) (buildListener spec e g h info)
      fun _ v => v.Command t ∧ v.Holding t := by
  have hF := lasts_started (t := t) (e := e) (g := g) (h := h)
  have hE := hF.kept.and (kept_free (t := t) (P := (· = none)))
  refine .bind _ (.ifEpoch hE (fun _ _ h => h) (.confirmBuild hF (fun _ h => h.2)
    fun _ _ _ h _ => h.2)) fun build => ?_
  cases build with
  | stale =>
    exact .bind _ (retireFirewall_keeps hE) fun _ =>
      .bind _ (.mild rfl hE fun _ _ h => Empty.attends h.2) fun _ =>
        .done hE fun _ _ h => ⟨h.1.1.1, h.2.1⟩
  | failed serverInstance failure =>
    exact .bind _ (retireFirewall_keeps hE) fun _ =>
      .bind _ (.mild rfl hE fun _ _ h => Empty.attends h.2) fun _ =>
        .done hE fun _ _ h => ⟨h.1.1.1, h.2.1⟩
  | built l => exact storeOrRetire_ensures

theorem prepareListener_ensures :
    Ensures t (fun v => v.Started t e g h ∧ v.Empty t)
      (prepareListener spec target e g h info gstError) fun _ v => v.Command t ∧ v.Holding t := by
  have hE := (lasts_started (t := t) (e := e) (g := g) (h := h)).kept.and
    (kept_free (t := t) (P := (· = none)))
  have hleave : ∀ v : RelayView, v.Owned → v.Started t e g h ∧ v.Empty t →
      v.Command t ∧ v.Holding t := fun _ _ h => ⟨h.1.1.1, h.2.1⟩
  refine .bind _ (.ifEpoch hE (fun _ _ h => h)
    (.mild rfl hE fun _ _ h => Empty.attends h.2)) fun check => ?_
  cases check with
  | superseded => exact .done hE hleave
  | failed => exact .done hE hleave
  | current =>
    refine .bind _ (.silent rfl hE) fun path => ?_
    cases path with
    | error error =>
      exact .bind _ (.mild rfl hE fun _ _ h => Empty.attends h.2) fun _ => .done hE hleave
    | ok path =>
      refine .bind _ (.mild rfl hE fun _ _ h => Empty.attends h.2) fun moved => ?_
      cases moved with
      | true => exact .done hE hleave
      | false => exact .bind _ (applyFirewall_keeps hE spec) fun _ => buildListener_ensures

theorem replaceListener_ensures :
    Ensures t (fun v => v.Started t e g h ∧ v.Holding t)
      (replaceListener spec target e g h info gstError) fun _ v => v.Command t ∧ v.Holding t := by
  have hF := lasts_started (t := t) (e := e) (g := g) (h := h)
  have hA := hF.kept.and (kept_holding (t := t))
  have hleave : ∀ v : RelayView, v.Owned → v.Started t e g h ∧ v.Holding t →
      v.Command t ∧ v.Holding t := fun _ _ h => ⟨h.1.1.1, h.2⟩
  refine .bind _ (.isCurrent hA (kept_owns (e := e)) fun v hv h he _ => ⟨h.2, ?_⟩) fun current => ?_
  · rw [← he, hv.epoch]
    exact hv.storedBy
  cases current with
  | false => exact .done (hA.and (.imp fun _ => kept_owns)) fun v hv h => hleave v hv h.1
  | true =>
    refine .bind _ ((Ensures.takeServer hF fun _ h => h.1.2.1).conseq
      (fun _ _ h => ⟨h.1.1, h.2 rfl⟩) fun _ _ _ h => h) fun server => ?_
    rcases server with _ | _ | old
    · exact .done hA hleave
    · exact prepareListener_ensures
    · have hE := hF.kept.and (kept_free (t := t) (P := (· = none)))
      exact .bind _ (.shutdown hF) fun _ => .bind _ (retireFirewall_keeps hE) fun _ =>
        prepareListener_ensures

theorem startResolved_ensures :
    Ensures t (fun v => v.Starts t e) (startResolved spec target e preserve)
      fun _ v => v.Command t := by
  refine .bind _ (.ifEpoch kept_starts (fun _ _ h => ⟨h, fun _ _ h => by cases h⟩)
    .installStart) fun decision => ?_
  have hA : RelayView.Kept t fun v => v.Starts t e ∧
      ∀ g h, decision = .installed g h → v.Installed g h :=
    kept_starts.and (.all fun _ => .all fun _ => .imp fun _ => kept_installed)
  cases decision with
  | superseded => exact .done hA fun _ _ h => h.1.1
  | noop firewall => exact .done hA fun _ _ h => h.1.1
  | refused error =>
    exact .bind _ (cancelRestreamStartIntent_ensures.conseq (fun _ _ h => h.1) fun _ _ _ h => h)
      fun _ => .done kept_command fun _ _ h => h
  | installed generation health =>
    have hF := lasts_started (t := t) (e := e) (g := generation) (h := health)
    refine .bind _ ((Ensures.silent rfl hF.kept).conseq (fun _ _ h => ⟨h.1, h.2 _ _ rfl⟩)
      fun _ _ _ h => h) fun gstError => ?_
    exact .withLifecycle hF.kept (fun _ => kept_command) (fun _ h => h) (fun _ _ h => h)
      replaceListener_ensures

theorem startRestreamServerInner_ensures :
    Ensures t (fun v => v.Starts t e) (startRestreamServerInner settings e preserve)
      fun _ v => v.Command t := by
  refine .bind _ (.silent rfl kept_starts) fun path => ?_
  cases path with
  | error error => exact cancelled_ensures
  | ok path =>
    refine .bind _ (resolveRestreamStartSpec_keeps kept_starts) fun resolved => ?_
    cases resolved with
    | error error => exact cancelled_ensures
    | ok spec => exact startResolved_ensures

theorem startUnderTransaction_ensures :
    Ensures t (fun v => v.Starts t e) (startUnderTransaction e preserve)
      fun _ v => v.Command t := by
  refine .bind _ (.ifEpoch kept_starts (fun _ _ h => h) (.silent rfl kept_starts)) fun current => ?_
  cases current with
  | false => exact .done kept_starts fun _ _ h => h.1
  | true =>
    refine .bind _ (.silent rfl kept_starts) fun settings => ?_
    split
    · exact cancelled_ensures
    · split
      · exact cancelled_ensures
      · split
        · exact cancelled_ensures
        · exact startRestreamServerInner_ensures

theorem publishRestreamStartIntent_ensures :
    Ensures t (fun v => v.Command t ∧ v.Intends t e) (publishRestreamStartIntent e)
      fun r v => v.Command t ∧ ∀ e' p, r = some (e', p) → v.Starts t e' := by
  refine .bind _ .publishStart fun preserve => .done
    (kept_command.and (.imp fun _ => kept_starts)) fun v _ h => ⟨h.1, fun e' p hr => ?_⟩
  obtain ⟨p', hp, heq⟩ := Option.map_eq_some_iff.mp hr
  cases heq
  exact h.2 (by rw [hp]; rfl)

theorem kept_published (r : Option (UInt64 × Bool)) :
    RelayView.Kept t fun v => v.Command t ∧ ∀ e' p, r = some (e', p) → v.Starts t e' :=
  kept_command.and (.all fun _ => .all fun _ => .imp fun _ => kept_starts)

theorem startRestreamServer_ensures :
    Ensures t (fun v => v.Command t) startRestreamServer fun _ v => v.Command t := by
  refine .bind _ (.silent rfl kept_command) fun settings => ?_
  split
  · exact .done kept_command fun _ _ h => h
  · refine .bind _ (.bind _ .claimEpoch fun _ => publishRestreamStartIntent_ensures)
      fun intent => ?_
    rcases intent with _ | ⟨epoch, preserve⟩
    · exact .done (kept_published none) fun _ _ h => h.1
    · exact (Ensures.withTransaction kept_starts (fun _ => kept_command)
        startUnderTransaction_ensures).conseq (fun _ _ h => h.2 _ _ rfl) fun _ _ _ h => h

end Start

/-! ### Stop -/

section Stop

variable {intent : RestreamStopIntent}

theorem kept_stopped (r : Option RestreamStopIntent) :
    RelayView.Kept t fun v => v.Command t ∧ ∀ i, r = some i → v.Stops t i :=
  kept_command.and (.all fun _ => .imp fun _ => kept_stops)

theorem beginRestreamStopIntent_ensures :
    Ensures t (fun v => v.Command t) beginRestreamStopIntent
      fun r v => v.Command t ∧ ∀ i, r = some i → v.Stops t i :=
  .bind _ .claimEpoch fun _ => .publishStop

theorem beginRestreamStopIntentIfCurrent_ensures {expected : UInt64} :
    Ensures t (fun v => v.Command t) (beginRestreamStopIntentIfCurrent expected)
      fun r v => v.Command t ∧ ∀ i, r = some i → v.Stops t i := by
  refine .bind _ .claimEpochIf fun epoch => ?_
  cases epoch with
  | none =>
    exact .done (kept_command.and (.all fun _ => .imp fun _ => kept_intends)) fun _ _ h =>
      ⟨h.1, fun _ h => by cases h⟩
  | some epoch =>
    exact Ensures.publishStop.conseq (fun _ _ h => ⟨h.1, h.2 _ rfl⟩) fun _ _ _ h => h

theorem finishRestreamStop_ensures :
    Ensures t (fun v => v.Stops t intent) (finishRestreamStop intent) fun _ v => v.Command t := by
  refine .withLifecycle kept_stops (fun _ => kept_command) (fun _ h => h) (fun _ _ h => h) ?_
  have hA := (kept_command (t := t)).and kept_holding
  refine .bind _ .takeTarget fun server => ?_
  refine .bind _ (.shutdownServer Lasts.command kept_holding (fun _ h => h.1) server) fun _ => ?_
  refine .bind _ (retireLease_keeps hA _) fun _ => ?_
  split
  · exact retireLease_keeps hA _
  · exact .done hA fun _ _ h => h

theorem stopRestreamServer_ensures :
    Ensures t (fun v => v.Command t) stopRestreamServer fun _ v => v.Command t := by
  refine .bind _ beginRestreamStopIntent_ensures fun intent => ?_
  refine .withTransaction (kept_stopped intent) (fun _ => kept_command) ?_
  cases intent with
  | none => exact .done (kept_stopped none) fun _ _ h => h.1
  | some intent =>
    exact finishRestreamStop_ensures.conseq (fun _ _ h => h.2 _ rfl) fun _ _ _ h => h

end Stop

/-! ### Settings transactions -/

section Transactions

variable {α : Type} {settings oldSettings prospective : AppSettings} {error : AppError}
  {intent : RestreamStopIntent} {protocol : RestreamProtocol} {wasDesired : Bool}
  {expected : UInt64}

theorem beginRestreamStartIntentIfCurrent_ensures :
    Ensures t (fun v => v.Command t) (beginRestreamStartIntentIfCurrent expected)
      fun r v => v.Command t ∧ ∀ e p, r = some (e, p) → v.Starts t e := by
  refine .bind _ .claimEpochIf fun epoch => ?_
  cases epoch with
  | none =>
    exact .done (kept_command.and (.all fun _ => .imp fun _ => kept_intends)) fun _ _ h =>
      ⟨h.1, fun _ _ h => by cases h⟩
  | some epoch =>
    exact publishRestreamStartIntent_ensures.conseq (fun _ _ h => ⟨h.1, h.2 _ rfl⟩)
      fun _ _ _ h => h

theorem restoreRestreamAfterTransactionError_ensures :
    Ensures t (fun v => v.Command t) (restoreRestreamAfterTransactionError oldSettings intent error)
      fun _ v => v.Command t := by
  unfold restoreRestreamAfterTransactionError
  split
  · exact .done kept_command fun _ _ h => h
  · refine .bind _ beginRestreamStartIntentIfCurrent_ensures fun begun => ?_
    rcases begun with _ | ⟨epoch, preserve⟩
    · exact .done (kept_published none) fun _ _ h => h.1
    · refine .bind _ (startRestreamServerInner_ensures.conseq (fun _ _ h => h.2 _ _ rfl)
        fun _ _ _ h => h) fun result => ?_
      cases result <;> exact .done kept_command fun _ _ h => h

theorem failTransaction_ensures : ∀ stopIntent : Option RestreamStopIntent,
    Ensures t (fun v => v.Command t) (failTransaction (α := α) oldSettings stopIntent error)
      fun _ v => v.Command t
  | some _ => .bind _ restoreRestreamAfterTransactionError_ensures fun _ =>
    .done kept_command fun _ _ h => h
  | none => .done kept_command fun _ _ h => h

theorem leaveTransaction_ensures : ∀ stopIntent : Option RestreamStopIntent,
    Ensures t (fun v => v.Command t) (leaveTransaction (α := α) stopIntent error)
      fun _ v => v.Command t
  | some _ => .bind _ (.mild rfl kept_command fun _ _ _ => trivial) fun _ =>
    .done kept_command fun _ _ h => h
  | none => .done kept_command fun _ _ h => h

theorem finishStopIntent_ensures : ∀ stopIntent : Option RestreamStopIntent,
    Ensures t (fun v => v.Command t ∧ ∀ i, stopIntent = some i → v.Stops t i)
      (finishStopIntent stopIntent) fun _ v => v.Command t
  | some _ => finishRestreamStop_ensures.conseq (fun _ _ h => h.2 _ rfl) fun _ _ _ h => h
  | none => .done (kept_stopped none) fun _ _ h => h.1

theorem currentOperationResult_ensures :
    Ensures t (fun v => v.Command t) currentOperationResult fun _ v => v.Command t :=
  .bind _ (.silent rfl kept_command) fun _ => .done kept_command fun _ _ h => h

theorem restartWith_ensures :
    Ensures t (fun v => v.Command t) (restartWith settings expected) fun _ v => v.Command t := by
  refine .bind _ beginRestreamStartIntentIfCurrent_ensures fun begun => ?_
  rcases begun with _ | ⟨epoch, preserve⟩
  · exact currentOperationResult_ensures.conseq (fun _ _ h => h.1) fun _ _ _ h => h
  · refine .bind _ (startRestreamServerInner_ensures.conseq (fun _ _ h => h.2 _ _ rfl)
      fun _ _ _ h => h) fun result => ?_
    cases result with
    | error error => exact .done kept_command fun _ _ h => h
    | ok info => exact currentOperationResult_ensures

/-- The stop that a transaction has published, if it has. -/
abbrev RelayView.Leaving (v : RelayView) (t : ℕ) (stopIntent : Option RestreamStopIntent) : Prop :=
  v.Command t ∧ ∀ i, stopIntent = some i → v.Stops t i

theorem commitApply_ensures (stopIntent : Option RestreamStopIntent) :
    Ensures t (fun v => v.Leaving t stopIntent)
      (commitApply oldSettings prospective wasDesired stopIntent) fun _ v => v.Command t := by
  refine .bind _ (finishStopIntent_ensures stopIntent) fun _ => ?_
  refine .bind _ (.silent rfl kept_command) fun committed => ?_
  cases committed with
  | error error => exact failTransaction_ensures stopIntent
  | ok committed =>
    cases stopIntent with
    | none => exact currentOperationResult_ensures
    | some intent =>
      simp only
      split
      · exact restartWith_ensures
      · exact currentOperationResult_ensures

theorem applyUnderTransaction_ensures {update : RestreamSettingsUpdate}
    (stopIntent : Option RestreamStopIntent) :
    Ensures t (fun v => v.Leaving t stopIntent) (applyUnderTransaction update expected stopIntent)
      fun _ v => v.Command t := by
  have hK := kept_stopped (t := t) stopIntent
  have hleave {error : AppError} : Ensures t (fun v => v.Leaving t stopIntent)
      (leaveTransaction (α := RestreamOperationResult) stopIntent error) fun _ v => v.Command t :=
    (leaveTransaction_ensures stopIntent).conseq (fun _ _ h => h.1) fun _ _ _ h => h
  have hfail {error : AppError} {old : AppSettings} : Ensures t (fun v => v.Leaving t stopIntent)
      (failTransaction (α := RestreamOperationResult) old stopIntent error)
        fun _ v => v.Command t :=
    (failTransaction_ensures stopIntent).conseq (fun _ _ h => h.1) fun _ _ _ h => h
  refine .bind _ (.silent rfl hK) fun epoch => ?_
  split
  · exact hleave
  refine .bind _ (.silent rfl hK) fun settings => ?_
  split
  · exact hleave
  split
  · exact hfail
  refine .bind _ (.silent rfl hK) fun desired => ?_
  simp only
  split
  · exact hfail
  split
  · refine .bind _ (beginRestreamStopIntentIfCurrent_ensures.conseq (fun _ _ h => h.1)
      fun _ _ _ h => h) fun begun => ?_
    cases begun with
    | none => exact .done (kept_stopped none) fun _ _ h => h.1
    | some intent => exact commitApply_ensures (some intent)
  · exact commitApply_ensures stopIntent

theorem applyRestreamSettings_ensures {update : RestreamSettingsUpdate} :
    Ensures t (fun v => v.Command t) (applyRestreamSettings update) fun _ v => v.Command t := by
  refine .bind _ (.silent rfl kept_command) fun settings => ?_
  split
  · exact .done kept_command fun _ _ h => h
  refine .bind _ (.silent rfl kept_command) fun operation => ?_
  simp only
  split
  · exact .done kept_command fun _ _ h => h
  split
  · refine .bind _ beginRestreamStopIntentIfCurrent_ensures fun begun => ?_
    cases begun with
    | none => exact .done (kept_stopped none) fun _ _ h => h.1
    | some intent =>
      exact .withTransaction (kept_stopped _) (fun _ => kept_command)
        (applyUnderTransaction_ensures (some intent))
  · exact (Ensures.withTransaction (kept_stopped none) (fun _ => kept_command)
      (applyUnderTransaction_ensures none)).conseq (fun _ _ h => ⟨h, fun _ h => by cases h⟩)
        fun _ _ _ h => h

theorem restartSwitched_ensures :
    Ensures t (fun v => v.Command t) (restartSwitched settings expected)
      fun _ v => v.Command t := by
  refine .bind _ beginRestreamStartIntentIfCurrent_ensures fun begun => ?_
  rcases begun with _ | ⟨epoch, preserve⟩
  · exact currentOperationResult_ensures.conseq (fun _ _ h => h.1) fun _ _ _ h => h
  simp only
  split
  · exact .bind _ (.mild rfl (kept_published _) fun _ _ _ => trivial) fun _ =>
      .done (kept_published _) fun _ _ h => h.1
  · refine .bind _ (startRestreamServerInner_ensures.conseq (fun _ _ h => h.2 _ _ rfl)
      fun _ _ _ h => h) fun result => ?_
    cases result with
    | error error => exact .done kept_command fun _ _ h => h
    | ok info => exact currentOperationResult_ensures

theorem commitSwitch_ensures :
    Ensures t (fun v => v.Stops t intent) (commitSwitch oldSettings protocol intent)
      fun _ v => v.Command t := by
  refine .bind _ finishRestreamStop_ensures fun _ => ?_
  refine .bind _ (.silent rfl kept_command) fun committed => ?_
  cases committed with
  | error error => exact failTransaction_ensures (some intent)
  | ok committed =>
    refine .bind _ (.silent rfl kept_command) fun _ => ?_
    split
    · exact restartSwitched_ensures
    · exact currentOperationResult_ensures

theorem reselect_ensures (stopIntent : Option RestreamStopIntent) :
    Ensures t (fun v => v.Leaving t stopIntent)
      (reselect prospective protocol expected wasDesired stopIntent) fun _ v => v.Command t := by
  refine .bind _ (.silent rfl (kept_stopped stopIntent)) fun _ => ?_
  refine .bind _ (finishStopIntent_ensures stopIntent) fun _ => ?_
  split
  · exact restartWith_ensures
  · exact currentOperationResult_ensures

theorem switchUnderTransaction_ensures (stopIntent : Option RestreamStopIntent) :
    Ensures t (fun v => v.Leaving t stopIntent)
      (switchUnderTransaction protocol expected stopIntent) fun _ v => v.Command t := by
  have hK := kept_stopped (t := t) stopIntent
  have hleave {error : AppError} : Ensures t (fun v => v.Leaving t stopIntent)
      (leaveTransaction (α := RestreamOperationResult) stopIntent error) fun _ v => v.Command t :=
    (leaveTransaction_ensures stopIntent).conseq (fun _ _ h => h.1) fun _ _ _ h => h
  have hfail {error : AppError} {old : AppSettings} : Ensures t (fun v => v.Leaving t stopIntent)
      (failTransaction (α := RestreamOperationResult) old stopIntent error)
        fun _ v => v.Command t :=
    (failTransaction_ensures stopIntent).conseq (fun _ _ h => h.1) fun _ _ _ h => h
  refine .bind _ (.silent rfl hK) fun epoch => ?_
  split
  · exact hleave
  refine .bind _ (.silent rfl hK) fun settings => ?_
  split
  · exact hleave
  split
  · exact hfail
  refine .bind _ (.silent rfl hK) fun desired => ?_
  simp only
  split
  · exact hfail
  split
  · exact reselect_ensures stopIntent
  cases stopIntent with
  | some intent => exact commitSwitch_ensures.conseq (fun _ _ h => h.2 _ rfl) fun _ _ _ h => h
  | none =>
    refine .bind _ (beginRestreamStopIntentIfCurrent_ensures.conseq (fun _ _ h => h.1)
      fun _ _ _ h => h) fun begun => ?_
    cases begun with
    | none => exact .done (kept_stopped none) fun _ _ h => h.1
    | some intent => exact commitSwitch_ensures.conseq (fun _ _ h => h.2 _ rfl) fun _ _ _ h => h

theorem switchRestreamProtocol_ensures :
    Ensures t (fun v => v.Command t) (switchRestreamProtocol protocol) fun _ v => v.Command t := by
  refine .bind _ (.silent rfl kept_command) fun settings => ?_
  split
  · exact .done kept_command fun _ _ h => h
  split
  · exact .done kept_command fun _ _ h => h
  refine .bind _ (.silent rfl kept_command) fun operation => ?_
  simp only
  split
  · exact .done kept_command fun _ _ h => h
  split
  · refine .bind _ beginRestreamStopIntentIfCurrent_ensures fun begun => ?_
    cases begun with
    | none => exact .done (kept_stopped none) fun _ _ h => h.1
    | some intent =>
      exact .withTransaction (kept_stopped _) (fun _ => kept_command)
        (switchUnderTransaction_ensures (some intent))
  · exact (Ensures.withTransaction (kept_stopped none) (fun _ => kept_command)
      (switchUnderTransaction_ensures none)).conseq (fun _ _ h => ⟨h, fun _ h => by cases h⟩)
        fun _ _ _ h => h

end Transactions

end PocketStream
