import PocketStream.Streaming.RelayTriples

/-! # The steps of a relay operation

What each effect that the protocol guards leaves the operation that issues it:
the intents that were claimed and published, the listener that is taken, built,
stored or shut down under the lifecycle gate, and what stays as it was.
-/

namespace PocketStream

open Foundation RelayView

namespace RelayView

variable {t : ℕ} {v : RelayView} {e g : UInt64} {h : ℕ} {l : Listener}

/-- What a step under the lifecycle gate leaves its own operation. -/
structure Leaves (v v' : RelayView) : Prop where
  desired : v'.desired = v.desired
  claims : v'.track.claims = v.track.claims
  claimOf : v'.track.claimOf = v.track.claimOf
  supervisor : v'.track.supervisor = v.track.supervisor
  recovering : v'.track.recovering = v.track.recovering
  nextHealth : v'.nextHealth = v.nextHealth
  generations : ∀ h, v'.generationOf h = v.generationOf h

theorem Leaves.refl (v : RelayView) : Leaves v v := ⟨rfl, rfl, rfl, rfl, rfl, rfl, fun _ => rfl⟩

/-- Neither the moves of others nor the steps of the operation under the gate change it. -/
structure Lasts (t : ℕ) (A : RelayView → Prop) : Prop where
  kept : Kept t A
  leaves : ∀ v v', Leaves v v' → A v → A v'

namespace Lasts

variable {A B : RelayView → Prop}

theorem and (hA : Lasts t A) (hB : Lasts t B) : Lasts t fun v => A v ∧ B v where
  kept := hA.kept.and hB.kept
  leaves v v' hl h := ⟨hA.leaves v v' hl h.1, hB.leaves v v' hl h.2⟩

theorem command : Lasts t fun v => v.track.supervisor ≠ some t where
  kept := kept_command
  leaves _ _ hl h := hl.supervisor ▸ h

theorem intends : Lasts t fun v => v.Intends t e where
  kept := kept_intends
  leaves _ _ hl h := (congrFun hl.claimOf t).trans h

theorem starts : Lasts t fun v => v.Starts t e where
  kept := kept_starts
  leaves _ _ hl := fun ⟨hs, hi, hd⟩ =>
    ⟨hl.supervisor ▸ hs, (congrFun hl.claimOf t).trans hi, fun hc =>
      hl.desired.trans (hd (hl.claims ▸ hc))⟩

theorem installed : Lasts t fun v => v.Installed g h where
  kept := kept_installed
  leaves _ _ hl hi := ⟨hl.nextHealth ▸ hi.1, (hl.generations h).trans hi.2⟩

theorem supervises : Lasts t fun v => v.track.supervisor = some t where
  kept := kept_supervisor
  leaves _ _ hl h := hl.supervisor ▸ h

theorem recovers : Lasts t fun v => v.Recovers t e g where
  kept := kept_recovers
  leaves _ _ hl := fun ⟨hs, hr, hi⟩ =>
    ⟨hl.supervisor ▸ hs, hl.recovering ▸ hr, (congrFun hl.claimOf t).trans hi⟩

end Lasts

theorem Owned.claim_intends (hv : v.Owned) (hb : v.track.claims + 1 < 2 ^ 64) :
    { v with epoch := v.epoch + 1, track := v.track.claim t }.Intends t (v.epoch + 1) := by
  change Function.update v.track.claimOf t (some (v.track.claims + 1)) t = some _
  rw [Function.update_self, UInt64.toNat_add, hv.epoch, UInt64.toNat_one, Nat.mod_eq_of_lt hb]

theorem Dead.of_idle {k : ℕ} (hg : g.toNat ≤ v.nextHealth) (hh : v.health = none)
    (hk : v.track.storedBy ≤ k) : v.Dead g k :=
  ⟨hg, by simp [healthGeneration, hh], fun _ _ _ => hk⟩

/-- The operation has published its stop and not taken the listener that the stop names. -/
def Stops (v : RelayView) (t : ℕ) (intent : RestreamStopIntent) : Prop :=
  v.track.supervisor ≠ some t ∧ v.Intends t intent.epoch ∧
    ∀ g, intent.targetGeneration = some g → v.Dead g intent.epoch.toNat

theorem kept_stops {intent : RestreamStopIntent} : Kept t fun v => v.Stops t intent :=
  kept_command.and (kept_intends.and (.all fun _ => .imp fun _ => kept_dead))

/-! ### The gate and the listeners -/

/-- The operation has the gate and nothing in its hands; `P` tells what is stored. -/
def Free (v : RelayView) (t : ℕ) (P : Option Listener → Prop) : Prop := v.Holding t ∧ P v.stored

/-- The operation has the gate, and no listener is alive. -/
def Empty (v : RelayView) (t : ℕ) : Prop := v.Free t (· = none)

/-- The operation has the gate, and no listener of the generation is stored. -/
def Vacant (v : RelayView) (t : ℕ) (generation : UInt64) : Prop :=
  v.Free t fun stored => ∀ l, stored = some l → l.generation ≠ generation

/-- The listener that was taken is in the hands of the operation; where there was none to take,
the gate alone. -/
def Took (t : ℕ) (rest : RelayView → Prop) : Option Listener → RelayView → Prop
  | some l => fun v => v.Carrying t l
  | none => rest

/-- What the take of a start leaves it, which finds out first whether it is still wanted. -/
def Served (t : ℕ) : Option (Option Listener) → RelayView → Prop
  | some server => Took t (fun v => v.Empty t) server
  | none => fun v => v.Holding t

/-- The operation has the gate, and what is stored is not of a newer intent. -/
def Owns (v : RelayView) (t : ℕ) (epoch : UInt64) : Prop :=
  v.Holding t ∧ v.track.storedBy ≤ epoch.toNat

/-- The operation carries the listener it has built. -/
def Built (v : RelayView) (t : ℕ) (epoch generation : UInt64) (l : Listener) : Prop :=
  v.Carrying t l ∧ v.track.builtFor = some (epoch, generation) ∧ l.generation = generation

/-- A build that was refused or has failed leaves what was there. -/
def Confirmed (t : ℕ) (e g : UInt64) (P : Option Listener → Prop) : BuildReply → RelayView → Prop
  | .built l => fun v => v.Built t e g l
  | _ => fun v => v.Free t P

theorem Empty.vacant (hv : v.Empty t) : v.Vacant t g :=
  ⟨hv.1, fun _ hl => by rw [hv.2] at hl; cases hl⟩

theorem Empty.attends (hv : v.Empty t) : v.Attends h := fun _ hl => by rw [hv.2] at hl; cases hl

theorem kept_free {P : Option Listener → Prop} : Kept t fun v => v.Free t P := fun v v' hv hr hh =>
  ⟨kept_holding v v' hv hr hh.1, (hr.held hh.1.1).1.symm ▸ hh.2⟩

theorem kept_took {rest : RelayView → Prop} (hr : Kept t rest) : ∀ r, Kept t (Took t rest r)
  | some _ => kept_carrying
  | none => hr

theorem kept_served : ∀ r, Kept t (Served t r)
  | some r => kept_took kept_free r
  | none => kept_holding

theorem Took.mono {A B : RelayView → Prop} (h : A v → B v) : ∀ {r}, Took t A r v → Took t B r v
  | some _, hr => hr
  | none, hr => h hr

theorem kept_owns : Kept t fun v => v.Owns t e := fun v v' hv hr hh =>
  ⟨kept_holding v v' hv hr hh.1, (hr.held hh.1.1).2.2.1.symm ▸ hh.2⟩

theorem kept_confirmed {P : Option Listener → Prop} : ∀ r, Kept t (Confirmed t e g P r)
  | .built _ => fun v v' hv hr hh =>
    ⟨kept_carrying v v' hv hr hh.1, (hr.held hh.1.1).2.2.2.trans hh.2.1, hh.2.2⟩
  | .stale => kept_free
  | .failed _ _ => kept_free

end RelayView

theorem RelayShared.stopHealth_nextHealth (s : RelayShared) :
    s.stopHealth.nextHealth = s.nextHealth := by
  unfold stopHealth
  split <;> rfl

/-- A stop names the listener that is stored, or the generation of the firewall lease. -/
theorem RelayShared.stopTarget_cases (s : RelayShared) {g : UInt64} {lease : Option UInt64}
    (h : (restreamStopTarget s.data.restreamDesired s.healthGeneration
      (s.data.restreamServer.map (·.generation))).or lease = some g) :
    (∃ l, s.data.restreamServer = some l ∧ l.generation = g) ∨ lease = some g := by
  have hlive : ∀ live : Option UInt64, restreamStopTarget s.data.restreamDesired s.healthGeneration
      live = live ∨ restreamStopTarget s.data.restreamDesired s.healthGeneration live = none := by
    intro live
    unfold restreamStopTarget
    split
    · exact .inl rfl
    · split
      · exact .inl rfl
      · exact .inr rfl
  rcases Option.or_eq_some_iff.mp h with h | ⟨-, h⟩
  · rcases hlive (s.data.restreamServer.map (·.generation)) with heq | heq
    · exact .inl (Option.map_eq_some_iff.mp (heq ▸ h))
    · rw [heq] at h
      cases h
  · exact .inr h

namespace TrackedRelay

variable {t : ℕ} {s s' : TrackedRelay} {o : RelayOutcome}

/-- Only the supervisor's start tells who the supervisor is. -/
theorem answer_supervisor {e : RelayEffect} {r : e.Reply} (he : e ≠ .takeEvents)
    (ha : s.answer t e o = some (r, s')) : s'.track.supervisor = s.track.supervisor := by
  obtain ⟨⟨r', s₁⟩, hs, heq⟩ := Option.map_eq_some_iff.mp ha
  cases heq
  cases e with
  | takeEvents => exact absurd rfl he
  | _ =>
    first
      | rfl
      | simp only [RelayTrack.after]; split <;> rfl

/-- A stored listener that is wanted comes into the hands of the operation. -/
theorem take_leaves (wanted : UInt64 → Bool) (hh : s.view.Holding t) {k : RelayTrack}
    (hk : s.track.Same k) :
    Leaves s.view (⟨(s.shared.takeWhere wanted).2, k⟩ : TrackedRelay).view ∧
      Took t (fun v => v.Holding t ∧ ∀ l, v.stored = some l → wanted l.generation = false)
        (s.shared.takeWhere wanted).1
        (⟨(s.shared.takeWhere wanted).2, k⟩ : TrackedRelay).view := by
  rcases s.shared.takeWhere_cases wanted with ⟨he, hn⟩ | ⟨l, -, -, he⟩
  · rw [he]
    exact ⟨⟨rfl, hk.claims, hk.claimOf, hk.supervisor, hk.recovering, rfl, fun _ => rfl⟩, hh, hn⟩
  · rw [he]
    exact ⟨⟨rfl, hk.claims, hk.claimOf, hk.supervisor, hk.recovering, rfl, fun _ => rfl⟩, hh.1,
      congrArg (l :: ·) hh.2, rfl⟩

end TrackedRelay

/-! ### Steps of an operation -/

namespace Ensures

variable {t : ℕ} {A : RelayView → Prop} {e g : UInt64} {h : ℕ} {l : Listener}

/-- The intent that is claimed is the newest one of its operation. -/
theorem claimEpoch : Ensures t (fun v => v.track.supervisor ≠ some t) (relayStep .claimEpoch)
    fun epoch v => v.track.supervisor ≠ some t ∧ v.Intends t epoch := by
  refine .step kept_command (fun _ _ _ => trivial) ?_ fun _ => kept_command.and kept_intends
  intro s o r s' hi hs hm ha _
  cases ha
  exact ⟨hs, hi.claim_intends hm⟩

theorem claimEpochIf {expected : UInt64} :
    Ensures t (fun v => v.track.supervisor ≠ some t) (relayStep (.claimEpochIf expected))
      fun epoch v => v.track.supervisor ≠ some t ∧ ∀ e, epoch = some e → v.Intends t e := by
  refine .step kept_command (fun _ _ _ => trivial) ?_ fun _ =>
    kept_command.and (.all fun _ => .imp fun _ => kept_intends)
  intro s o r s' hi hs hm ha _
  simp only [TrackedRelay.answer, RelayShared.answer] at ha
  split at ha
  · next he =>
    cases ha
    cases he
    refine ⟨hs, fun e heq => ?_⟩
    cases heq
    exact hi.claim_intends (hm rfl)
  · cases ha
    exact ⟨hs, fun _ h => by cases h⟩

theorem publishStart :
    Ensures t (fun v => v.track.supervisor ≠ some t ∧ v.Intends t e) (relayStep (.publishStart e))
      fun preserve v => v.track.supervisor ≠ some t ∧ (preserve.isSome → v.Starts t e) := by
  refine .step (kept_command.and kept_intends) (fun _ _ h => h) ?_ fun _ =>
    kept_command.and (.imp fun _ => kept_starts)
  intro s o r s' hi hs hm ha _
  simp only [TrackedRelay.answer, RelayShared.answer, RelayShared.publishRestreamStartIntent] at ha
  split at ha
  · cases ha
    exact ⟨hs.1, fun h => by cases h⟩
  · cases ha
    exact ⟨hs.1, fun _ => ⟨hs.1, hs.2, fun _ => rfl⟩⟩

/-- A published stop names a generation that is not current and never will be again. -/
theorem publishStop :
    Ensures t (fun v => v.track.supervisor ≠ some t ∧ v.Intends t e) (relayStep (.publishStop e))
      fun intent v => v.track.supervisor ≠ some t ∧ ∀ i, intent = some i → v.Stops t i := by
  refine .step (kept_command.and kept_intends) (fun _ _ h => h) ?_ fun _ =>
    kept_command.and (.all fun _ => .imp fun _ => kept_stops)
  intro s o r s' hi hs hm ha _
  refine ⟨TrackedRelay.answer_supervisor (by simp) ha ▸ hs.1, fun i heq => ?_⟩
  simp only [TrackedRelay.answer, RelayShared.answer, RelayShared.publishRestreamStopIntent] at ha
  split at ha
  · cases ha
    cases heq
  · next he =>
    cases ha
    cases heq
    have hk : s.track.claims = e.toNat := hi.epoch.symm.trans (congrArg _ (not_not.mp he))
    refine ⟨hs.1, hs.2, fun g hg => ?_⟩
    have hle : g.toNat ≤ s.view.nextHealth := by
      rcases s.shared.stopTarget_cases hg with ⟨l, hl, rfl⟩ | hl
      · exact hi.stored_generation_le hl
      · exact hi.lease g hl
    have hby : s.track.storedBy ≤ e.toNat := hk ▸ hi.storedBy
    cases hd : s.shared.data.restreamDesired with
    | true =>
      exact .of_idle (hle.trans_eq s.shared.stopHealth_nextHealth.symm) rfl hby
    | false => exact .of_idle hle (hi.idle hd) hby

theorem cancelStart {preserve : Bool} :
    Ensures t (fun v => v.track.supervisor ≠ some t ∧ v.Intends t e)
      (relayStep (.cancelStart e preserve)) fun _ v => v.track.supervisor ≠ some t := by
  refine .step (kept_command.and kept_intends) (fun _ _ h => h) ?_ fun _ => kept_command
  intro s o r s' hi hs hm ha _
  exact TrackedRelay.answer_supervisor (by simp) ha ▸ hs.1

theorem installStart {spec : ResolvedStartSpec} {target : Option CameraTarget} :
    Ensures t (fun v => v.Starts t e) (relayStep (.installStart spec target e)) fun decision v =>
      v.Starts t e ∧ ∀ g h, decision = .installed g h → v.Installed g h := by
  refine .step kept_starts (fun _ _ h => h) ?_ fun _ =>
    kept_starts.and (.all fun _ => .all fun _ => .imp fun _ => kept_installed)
  intro s o r s' hi hs hm ha _
  have hg : relayGuard t (.installStart spec target e) s.view := hs
  have hmild := TrackedRelay.mild_answer hi hg hm rfl ha
  refine ⟨kept_starts _ _ hi (hmild.2 t) hs, fun g h heq => ?_⟩
  simp only [TrackedRelay.answer, RelayShared.answer] at ha
  rcases s.shared.installStart_cases spec target e with ⟨d, hd, hn⟩ | ⟨he, hd⟩
  · rw [hd] at ha
    cases ha
    exact absurd heq (hn g h)
  · rw [hd] at ha
    cases ha
    cases heq
    exact ⟨Nat.lt_succ_self _, @install_generationOf_self s.view spec.ingestKind⟩

section Gate

variable {F : RelayView → Prop}

/-- Under the gate, an intent that was the newest takes what none newer has stored. -/
theorem takeServer (hF : Lasts t F) (hi : ∀ v, F v → v.Intends t e) :
    Ensures t (fun v => F v ∧ v.Owns t e) (relayStep (.takeServer e g)) fun server v =>
      F v ∧ Served t server v := by
  refine .step (hF.kept.and kept_owns) (fun v _ h => ⟨h.2.1, _, hi v h.1, h.2.2⟩) ?_ fun r =>
    hF.kept.and (kept_served r)
  intro s o r s' _ hs _ ha _
  simp only [TrackedRelay.answer, RelayShared.answer, RelayShared.takeServer] at ha
  split at ha
  · cases ha
    exact ⟨hs.1, hs.2.1⟩
  · cases ha
    obtain ⟨hl, ht⟩ := TrackedRelay.take_leaves (fun _ => true) hs.2.1 (.refl s.track)
    exact ⟨hF.leaves _ _ hl hs.1, ht.mono fun h => ⟨h.1, Option.eq_none_iff_forall_ne_some.mpr
      fun l hs => Bool.noConfusion (h.2 l hs)⟩⟩

/-- The listener of the published stop is not one that a newer intent has stored. -/
theorem takeTarget {intent : RestreamStopIntent} :
    Ensures t (fun v => v.Stops t intent ∧ v.Holding t)
      (relayStep (.takeTarget intent.targetGeneration)) fun server v =>
        v.track.supervisor ≠ some t ∧ Took t (fun v => v.Holding t) server v := by
  refine .step (kept_stops.and kept_holding) (fun v _ ⟨⟨_, hi, hd⟩, hh⟩ =>
    ⟨hh, _, hi, fun l hl hg => (hd _ hg).2.2 l hl rfl⟩) ?_ fun r =>
      kept_command.and (kept_took kept_holding r)
  intro s o r s' _ hs _ ha _
  cases ha
  obtain ⟨hl, ht⟩ := TrackedRelay.take_leaves (fun g => some g == intent.targetGeneration) hs.2
    (k := { s.track with stops := Function.update s.track.stops t none })
    ⟨rfl, rfl, rfl, rfl, rfl, rfl⟩
  exact ⟨hl.supervisor ▸ hs.1.1, ht.mono fun h => h.1⟩

theorem takeGeneration (hF : Lasts t F) (hi : ∀ v, F v → v.Intends t e) :
    Ensures t (fun v => F v ∧ v.Owns t e) (relayStep (.takeGeneration g)) fun server v =>
      F v ∧ Took t (fun v => v.Vacant t g) server v := by
  refine .step (hF.kept.and kept_owns) (fun v _ h => ⟨h.2.1, _, hi v h.1, h.2.2⟩) ?_ fun r =>
    hF.kept.and (kept_took kept_free r)
  intro s o r s' _ hs _ ha _
  cases ha
  obtain ⟨hl, ht⟩ := TrackedRelay.take_leaves (· == g) hs.2.1 (.refl s.track)
  exact ⟨hF.leaves _ _ hl hs.1, ht.mono fun h =>
    ⟨h.1, fun l hl => beq_eq_false_iff_ne.mp (h.2 l hl)⟩⟩

theorem shutdown (hF : Lasts t F) :
    Ensures t (fun v => F v ∧ v.Carrying t l) (relayStep (.shutdown l))
      fun _ v => F v ∧ v.Empty t := by
  refine .step (hF.kept.and kept_carrying) (fun _ _ h => h.2) ?_ fun _ => hF.kept.and kept_free
  intro s o r s' _ hs _ ha _
  cases ha
  refine ⟨hF.leaves s.view _ ⟨rfl, rfl, rfl, rfl, rfl, rfl, fun _ => rfl⟩ hs.1, ⟨hs.2.1, ?_⟩,
    hs.2.2.2⟩
  have hh : s.shared.hands = [l] := hs.2.2.1
  simp [TrackedRelay.view, hh]

theorem shutdownServer {rest : RelayView → Prop} (hF : Lasts t F) (hr : RelayView.Kept t rest)
    (he : ∀ v, v.Empty t → rest v) : ∀ server,
    Ensures t (fun v => F v ∧ Took t rest server v) (shutdownServer server) fun _ v => F v ∧ rest v
  | some _ => (shutdown hF).conseq (fun _ _ h => h) fun _ v _ h => ⟨h.1, he v h.2⟩
  | none => .done (hF.kept.and hr) fun _ _ h => h

/-- A build under the currency check, where no listener of the generation is stored. -/
theorem confirmBuild {P : Option Listener → Prop} {spec : ResolvedStartSpec} {recovering : Bool}
    (hF : Lasts t F) (hi : ∀ v, F v → v.Installed g h)
    (hn : ∀ v, v.Owned → F v → v.Free t P → v.healthGeneration = some g → v.stored = none) :
    Ensures t (fun v => F v ∧ v.Free t P) (relayStep (.confirmBuild e g spec h recovering))
      fun build v => F v ∧ RelayView.Confirmed t e g P build v := by
  refine .step (hF.kept.and kept_free) (fun v hv hs => ⟨hs.2.1, hi v hs.1, hn v hv hs.1 hs.2⟩) ?_
    fun r => hF.kept.and (kept_confirmed r)
  intro s o r s' hv hs _ ha _
  simp only [TrackedRelay.answer, RelayShared.answer] at ha
  rcases s.shared.confirmBuild_cases e g spec h recovering o with
    hb | ⟨hc, healths, events, hgen, ⟨i, failure, hb⟩ | ⟨l, -, hlg, -, hb⟩⟩
  · rw [hb] at ha
    cases ha
    exact hs
  · rw [hb] at ha
    cases ha
    exact ⟨hF.leaves s.view _ ⟨rfl, rfl, rfl, rfl, rfl, rfl, hgen⟩ hs.1, hs.2⟩
  · rw [hb] at ha
    cases ha
    have hs0 : s.view.stored = none := hn _ hv hs.1 hs.2 (RelayShared.relayIsCurrent_eq hc).2.2.2
    refine ⟨hF.leaves s.view _ ⟨rfl, rfl, rfl, rfl, rfl, rfl, hgen⟩ hs.1,
      ⟨hs.2.1.1, congrArg (l :: ·) hs.2.1.2, hs0⟩, rfl, ?_⟩
    exact hlg.trans (hi _ hs.1).2

/-- The listener is stored under the last check, or still in hand. -/
theorem storeListener {G : RelayView → Prop} {scope : BindScope}
    {spec : Option ResolvedStartSpec} (hF : Lasts t F) (hG : RelayView.Kept t G)
    (hi : ∀ v, F v → v.Intends t e)
    (hFG : ∀ v v', F v → v'.track.supervisor = v.track.supervisor → G v') :
    Ensures t (fun v => F v ∧ v.Built t e g l) (relayStep (.storeListener e g scope l spec))
      fun stored v => if stored then G v ∧ v.Holding t else F v ∧ v.Carrying t l := by
  refine .step (hF.kept.and (kept_confirmed (P := fun _ => True) (.built l)))
    (fun v _ h => ⟨h.2.1, h.2.2.1, h.2.2.2, hi v h.1⟩) ?_ fun r => ?_
  · intro s o r s' _ hs _ ha _
    have hsup := TrackedRelay.answer_supervisor (by simp) ha
    simp only [TrackedRelay.answer, RelayShared.answer, RelayShared.storeListener] at ha
    split at ha
    · cases ha
      refine ⟨hFG _ _ hs.1 hsup, hs.2.1.1, ?_⟩
      have hh : s.shared.hands = [l] := hs.2.1.2.1
      simp [TrackedRelay.view, hh]
    · cases ha
      exact ⟨hs.1, hs.2.1⟩
  · cases r
    · exact hF.kept.and kept_carrying
    · exact hG.and kept_holding

end Gate

end Ensures

end PocketStream
