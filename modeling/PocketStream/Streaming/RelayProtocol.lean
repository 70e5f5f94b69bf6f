import PocketStream.Streaming.RelayMoves

/-! # The relay protocol

What each effect of a relay operation needs when it is issued, and that with it
every step keeps the invariant and what the other operations rely on, as long as
the intents and the generations claimed so far are fewer than 2^64.
-/

namespace PocketStream

open Foundation

/-- The effects after which the view is what it was. -/
def RelayEffect.silent : RelayEffect → Bool
  | getSettings | loadEpoch | epochAndDesired | intentIsCurrent _ | readDesired | lockTransaction
  | unlockTransaction | preflightTarget _ | resolveExposure | resolveInterface _ _ | displayIp
  | preflightRestream _ | isCurrent _ _ | scopeIsCurrent _ | firewall _ | setProtocol _
  | commitSettings _ _ | commitProtocol _ | operationResult | contextFailed _ | readSpec
  | shouldReresolve _ | readTarget => true
  | _ => false

/-- The effects that change the view and leave their own operation what it relies on. -/
def RelayEffect.mild : RelayEffect → Bool
  | publishStart _ | installStart _ _ _ | recheck _ _ _ _ _ _ | refuseMoved _ _ _
  | markResolutionFailed _ _ _ | markIfEpoch _ _ _ _ | markBuildFailed _ _ _ _ _
  | markUnresolved _ _ | lease _ | nextEvent | scheduleAttempt _ _ | resumeRecovery _ _ _
  | abandonStop _ | abandonStart _ => true
  | _ => false

/-- What an effect of operation `t` needs when it is issued. -/
def relayGuard (t : ℕ) : RelayEffect → RelayView → Prop
  | .publishStart epoch, v | .publishStop epoch, v | .cancelStart epoch _, v =>
    v.track.supervisor ≠ some t ∧ v.Intends t epoch
  | .installStart _ _ epoch, v => v.Starts t epoch
  | .unlockLifecycle, v => v.Holding t
  | .takeServer _ _, v | .takeGeneration _, v =>
    v.Holding t ∧ ∃ k, v.track.claimOf t = some k ∧ v.track.storedBy ≤ k
  | .takeTarget target, v =>
    v.Holding t ∧ ∃ k, v.track.claimOf t = some k ∧
      ∀ l, v.stored = some l → target = some l.generation → v.track.storedBy ≤ k
  | .shutdown l, v => v.Carrying t l
  | .recheck _ _ health _ _ _, v | .refuseMoved _ health _, v | .markResolutionFailed health _ _, v
  | .markIfEpoch _ health _ _, v | .markBuildFailed health _ _ _ _, v | .markUnresolved health _, v
  | .resumeRecovery _ _ health, v => v.Attends health
  | .confirmBuild _ generation _ health _, v =>
    v.Holding t ∧ v.Installed generation health ∧
      (v.healthGeneration = some generation → v.stored = none)
  | .storeListener epoch generation _ l _, v =>
    v.Carrying t l ∧ v.track.builtFor = some (epoch, generation) ∧ l.generation = generation ∧
      v.Intends t epoch
  | .admitFault _, v | .admitRetry _, v | .permanentFailure, v | .recoveryEnded _ _, v =>
    v.track.supervisor = some t
  | _, _ => True

/-- The counters do not wrap with the effect. -/
def TrackedRelay.Room (s : TrackedRelay) : RelayEffect → Prop
  | .claimEpoch => s.track.claims + 1 < 2 ^ 64
  | .claimEpochIf expected => s.shared.epoch = expected → s.track.claims + 1 < 2 ^ 64
  | .installStart spec target epoch => (s.shared.installStart spec target epoch).2.nextHealth < 2 ^ 64
  | _ => True

namespace RelayShared

variable (s : RelayShared)

theorem healthGeneration_of_current {s : RelayShared} {g : UInt64}
    (h : s.relayStateIsGeneration g = true) : s.healthGeneration = some g :=
  beq_iff_eq.mp (Bool.and_eq_true_iff.mp h).2

theorem relayIsCurrent_eq {s : RelayShared} {e g : UInt64} (h : s.relayIsCurrent e g = true) :
    s.epoch = e ∧ s.data.restreamIntentEpoch = some e ∧ s.data.restreamDesired = true ∧
      s.healthGeneration = some g := by
  simp only [relayIsCurrent, relayStateIsGeneration, Bool.and_eq_true, beq_iff_eq] at h
  exact ⟨h.1.1, h.1.2, h.2.1, h.2.2⟩

/-- A start installs its generation under its epoch, or changes nothing. -/
theorem installStart_cases (spec : ResolvedStartSpec) (target : Option CameraTarget)
    (epoch : UInt64) :
    (∃ decision, s.installStart spec target epoch = (decision, s) ∧
        ∀ g h, decision ≠ .installed g h) ∨
      (s.epoch = epoch ∧ s.installStart spec target epoch =
        (.installed (s.generation + 1) s.nextHealth,
          { s with
            generation := s.generation + 1
            healths := Function.update s.healths s.nextHealth
              (.new (s.generation + 1) spec.ingestKind)
            nextHealth := s.nextHealth + 1
            data := { s.data with
              restreamTarget := target
              restreamSpec := some spec
              restreamHealth := some s.nextHealth } })) := by
  unfold installStart
  split
  · exact .inl ⟨_, rfl, fun _ _ h => by cases h⟩
  · next he =>
    split
    · exact .inl ⟨_, rfl, fun _ _ h => by cases h⟩
    · split
      · exact .inl ⟨_, rfl, fun _ _ h => by cases h⟩
      · exact .inr ⟨not_not.mp he, rfl⟩

/-- A start is withdrawn under its epoch, or a retry of the running generation is requested. -/
theorem cancelStart_cases (epoch : UInt64) (preserve : Bool) :
    s.cancelRestreamStartIntent epoch preserve = s ∨
      (∃ retry, s.cancelRestreamStartIntent epoch preserve = s.sendRetry retry) ∨
      (s.epoch = epoch ∧ s.cancelRestreamStartIntent epoch preserve =
        { s.stopHealth with data := { s.data with
            restreamDesired := false
            restreamSpec := none
            restreamHealth := none
            restreamIntentEpoch := none } }) := by
  unfold cancelRestreamStartIntent
  split
  · exact .inl rfl
  · next he =>
    split
    · split
      · split
        · exact .inr (.inl ⟨_, rfl⟩)
        · exact .inl rfl
      · exact .inl rfl
    · exact .inr (.inr ⟨not_not.mp (not_or.mp he).1, rfl⟩)

/-- A stored listener that is wanted changes hands. -/
theorem takeWhere_cases (wanted : UInt64 → Bool) :
    (s.takeWhere wanted = (none, s) ∧
        ∀ l, s.data.restreamServer = some l → wanted l.generation = false) ∨
      ∃ l, s.data.restreamServer = some l ∧ wanted l.generation = true ∧
        s.takeWhere wanted =
          (some l, { s with data := { s.data with restreamServer := none }, hands := l :: s.hands }) := by
  unfold takeWhere
  cases hs : s.data.restreamServer with
  | none => exact .inl ⟨rfl, fun _ h => by cases h⟩
  | some l =>
    simp only
    split
    · next hw => exact .inr ⟨l, rfl, hw, rfl⟩
    · next hw =>
      refine .inl ⟨rfl, fun l' hl => ?_⟩
      cases hl
      exact Bool.eq_false_iff.mpr hw

/-- The reports of a listener change its own health record and the queue. -/
theorem runCallbacks_eq (health : ℕ) (serverInstance : UInt64) (reports : List RelayCallback) :
    ∃ healths events,
      runCallbacks health serverInstance s reports = { s with healths := healths, events := events } ∧
      (∀ h, h ≠ health → healths h = s.healths h) ∧
      (healths health).serverGeneration = (s.healths health).serverGeneration := by
  induction reports generalizing s with
  | nil => exact ⟨s.healths, s.events, rfl, fun _ _ => rfl, rfl⟩
  | cons report reports ih =>
    obtain ⟨healths, events, he, ho, hg⟩ := ih
      ((s.updateHealth health fun h => (h.callback serverInstance report).2).send
        (((s.healths health).callback serverInstance report).1.toList.map .fault))
    refine ⟨healths, events, he, fun h hne => (ho h hne).trans ?_, hg.trans ?_⟩
    · exact Function.update_of_ne hne _ _
    · simp only [send, updateHealth, Function.update_self]
      exact (RelayHealth.callback_identity _ _ _).1

theorem updateHealth_generationOf (health : ℕ) (f : RelayHealth → RelayHealth)
    (hf : (f (s.healths health)).serverGeneration = s.generationOf health) (h : ℕ) :
    (s.updateHealth health f).generationOf h = s.generationOf h := by
  simp only [generationOf, updateHealth]
  rcases eq_or_ne h health with rfl | hne
  · rw [Function.update_self]
    exact hf
  · rw [Function.update_of_ne hne]

/-- A build under the currency check leaves at most a new listener of the generation. -/
theorem confirmBuild_cases (epoch generation : UInt64) (spec : ResolvedStartSpec) (health : ℕ)
    (recovering : Bool) (o : RelayOutcome) :
    s.confirmBuild epoch generation spec health recovering o = (.stale, s) ∨
      s.relayIsCurrent epoch generation = true ∧ ∃ healths events,
        (∀ h, (healths h).serverGeneration = s.generationOf h) ∧
        ((∃ i failure, s.confirmBuild epoch generation spec health recovering o =
            (.failed i failure, { s with healths := healths, events := events })) ∨
          ∃ l, l.health = health ∧ l.generation = s.generationOf health ∧
            l.udpIngestPort = spec.udpIngestPort ∧
            s.confirmBuild epoch generation spec health recovering o =
              (.built l, { s with healths := healths, events := events, hands := l :: s.hands })) := by
  unfold confirmBuild
  split
  · exact .inl rfl
  · next hc =>
    rw [Bool.or_eq_true, not_or, Bool.not_eq_true, Bool.not_eq_false'] at hc
    refine .inr ⟨hc.1, ?_⟩
    unfold buildRestreamServer
    obtain ⟨healths, events, he, ho, hg⟩ := runCallbacks_eq
      (s.updateHealth health fun h => (h.beginServerInstance recovering).2) health
      ((s.healths health).beginServerInstance recovering).1 o.callbacks
    have hgen : ∀ h, (healths h).serverGeneration = s.generationOf h := by
      intro h
      refine .trans ?_ (s.updateHealth_generationOf health
        (fun h => (h.beginServerInstance recovering).2) rfl h)
      rcases eq_or_ne h health with rfl | hne
      · exact hg
      · exact congrArg _ (ho h hne)
    simp only [beginServerInstance, he]
    cases o.built with
    | error failure => exact ⟨healths, events, hgen, .inl ⟨_, failure, rfl⟩⟩
    | ok =>
      have hbound := updateHealth_generationOf { s with healths := healths, events := events } health
        (·.markListenerBound ((s.healths health).beginServerInstance recovering).1)
        (RelayHealth.markListenerBound_generation ..)
      exact ⟨_, events, fun h => (hbound h).trans (hgen h),
        .inr ⟨_, rfl, (hbound health).trans (hgen health), rfl, rfl⟩⟩

theorem currentRelayContext_eq {g epoch : UInt64} {health : ℕ}
    (h : s.currentRelayContext g = some (epoch, health)) :
    s.healthGeneration = some g ∧ s.data.restreamHealth = some health ∧ s.epoch = epoch := by
  unfold currentRelayContext at h
  split at h
  · next hc =>
    split at h
    · next expected found _ hf =>
      split at h
      · next he =>
        cases h
        exact ⟨healthGeneration_of_current hc, hf, he⟩
      · cases h
    · cases h
  · cases h

end RelayShared

namespace TrackedRelay

variable {t : ℕ} {s s' : TrackedRelay} {e : RelayEffect} {o : RelayOutcome} {r : e.Reply}

theorem silent_view (he : e.silent = true) (ha : s.answer t e o = some (r, s')) :
    s'.view = s.view := by
  cases e with
  | lockTransaction =>
    simp only [answer, RelayShared.answer] at ha
    split at ha
    · cases ha
      rfl
    · cases ha
  | commitSettings rtspServer srtServer =>
    cases ha
    rfl
  | commitProtocol protocol =>
    cases ha
    rfl
  | _ =>
    first
      | exact absurd he Bool.false_ne_true
      | cases ha; rfl

open RelayView

theorem poll_mild (hi : s.view.Owned) (o : RelayOutcome) :
    Mild s.view ({ s with shared := (s.shared.pollRelayFault o).2 } : TrackedRelay).view := by
  unfold RelayShared.pollRelayFault
  split
  · exact .refl hi
  · split
    · exact .refl hi
    · exact .refl hi
    · next health _ _ =>
      exact .mark hi health (fun h => (h.evaluateWatchdog o.now).2)
        (RelayHealth.watchdog_keeps _ _).1 (.inr fun hp => hp.watchdog o.now)

/-- A mild step keeps the invariant and what every operation relies on, its own too. -/
theorem mild_answer (hi : s.view.Owned) (hg : relayGuard t e s.view) (hm : s.Room e)
    (he : e.mild = true) (ha : s.answer t e o = some (r, s')) : Mild s.view s'.view := by
  cases e with
  | publishStart epoch =>
    simp only [answer, RelayShared.answer, RelayShared.publishRestreamStartIntent] at ha
    split at ha
    · cases ha
      exact .refl hi
    · cases ha
      exact (Mild.turnOn hi).retrack ⟨rfl, rfl, rfl, rfl, rfl, rfl⟩
  | installStart spec target epoch =>
    simp only [Room] at hm
    simp only [answer, RelayShared.answer] at ha
    rcases s.shared.installStart_cases spec target epoch with ⟨d, hd, hn⟩ | ⟨he, hd⟩
    · rw [hd] at ha
      cases ha
      cases d with
      | noop => exact (Mild.refl hi).retrack (RelayTrack.same_settle _ t)
      | installed g h => exact absurd rfl (hn g h)
      | _ => exact .refl hi
    · rw [hd] at ha hm
      cases ha
      have hdes : s.view.desired = true := hg.2.2 (hi.epoch.symm.trans (congrArg _ he))
      exact (Mild.install hi hm hdes).retrack
        ⟨rfl, rfl, rfl, rfl, rfl, rfl⟩
  | recheck epoch generation health gstError recovering retry =>
    simp only [answer, RelayShared.answer, RelayShared.recheck] at ha
    split at ha
    · cases ha
      exact .refl hi
    · cases gstError with
      | none =>
        cases ha
        exact .refl hi
      | some reason =>
        cases ha
        have h1 := Mild.mark hi health (fun h => (h.beginServerInstance recovering).2) rfl (.inl hg)
        refine (h1.trans (.mark h1.1 health (·.markBuildFailed _ reason false) ?_ (.inl hg))).retrack
          (RelayTrack.same_settle _ t)
        exact RelayHealth.markBuildFailed_generation ..
  | refuseMoved scope health generation =>
    simp only [answer, RelayShared.answer] at ha
    split at ha
    · cases ha
      exact (Mild.mark hi health (·.markResolutionFailed _) rfl (.inl hg)).retrack
        (RelayTrack.same_settle _ t)
    · cases ha
      exact .refl hi
  | markResolutionFailed health reason retry =>
    cases ha
    exact (Mild.mark hi health (·.markResolutionFailed reason) rfl (.inl hg)).retrack
      (RelayTrack.same_settle _ t)
  | markIfEpoch epoch health reason retry =>
    simp only [answer, RelayShared.answer] at ha
    split at ha
    · cases ha
      exact (Mild.mark hi health (·.markResolutionFailed reason) rfl (.inl hg)).retrack
        (RelayTrack.same_settle _ t)
    · cases ha
      exact .refl hi
  | markBuildFailed health serverInstance reason bindFailure retry =>
    cases ha
    exact (Mild.mark hi health (·.markBuildFailed serverInstance reason bindFailure)
      (RelayHealth.markBuildFailed_generation ..) (.inl hg)).retrack (RelayTrack.same_settle _ t)
  | markUnresolved health reason =>
    cases ha
    exact .mark hi health (fun h => (h.markResolutionFailed reason).forceMaxBackoff) rfl (.inl hg)
  | lease e =>
    cases ha
    refine .relet hi fun g hl => ?_
    obtain ⟨lease, hl, rfl⟩ := Option.map_eq_some_iff.mp hl
    rcases s.shared.data.slot.answer_lease s.shared.relayStateIsGeneration e with
      h | h | ⟨g, role, hc, h⟩
    · exact hi.lease _ (by simp only [view, ← h, hl])
    · rw [h] at hl
      cases hl
    · rw [h] at hl
      cases hl
      exact hi.healthGeneration_le (RelayShared.healthGeneration_of_current hc)
  | nextEvent =>
    simp only [answer, RelayShared.answer] at ha
    split at ha
    · cases ha
      exact (poll_mild hi o).retrack ⟨rfl, rfl, rfl, rfl, rfl, rfl⟩
    · cases hq : s.shared.events with
      | nil =>
        rw [hq] at ha
        cases ha
      | cons event events =>
        rw [hq] at ha
        cases ha
        exact (Mild.refl hi).retrack ⟨rfl, rfl, rfl, rfl, rfl, rfl⟩
  | scheduleAttempt epoch generation =>
    simp only [answer, RelayShared.answer, RelayShared.scheduleAttempt] at ha
    split at ha
    · cases ha
      exact .refl hi
    · next current health hc =>
      split at ha
      · cases ha
        exact .refl hi
      · cases ha
        exact .mark hi health (·.scheduleRecoveryAttempt.2) rfl (.inr fun hp => ⟨hp.1, hp.2, hp.3⟩)
  | resumeRecovery epoch generation health =>
    simp only [answer, RelayShared.answer] at ha
    split at ha
    · cases ha
      exact .mark hi health .markRecoveryInProgress rfl (.inl hg)
    · cases ha
      exact .refl hi
  | abandonStop intent =>
    cases ha
    exact (Mild.refl hi).retrack ⟨rfl, rfl, rfl, rfl, rfl, rfl⟩
  | abandonStart epoch =>
    cases ha
    exact (Mild.refl hi).retrack (RelayTrack.same_settle _ t)
  | _ => exact absurd he Bool.false_ne_true

theorem claim_apart (hi : s.view.Owned) (hb : s.track.claims + 1 < 2 ^ 64) :
    Apart t s.view { s.view with epoch := s.view.epoch + 1, track := s.track.claim t } :=
  ⟨hi.claim hb, fun _ hu => .claim hu⟩

/-- The health record is stopped with the intent it belongs to. -/
theorem halt_view (s : RelayShared) (k k' : RelayTrack) {d : RelayData}
    (hd : d.restreamDesired = false) (hh : d.restreamHealth = none)
    (hs : d.restreamServer = s.data.restreamServer) (hl : d.slot = s.data.slot) :
    (⟨{ s.stopHealth with data := d }, k'⟩ : TrackedRelay).view =
      (TrackedRelay.view ⟨s, k⟩).halt.retrack k' := by
  unfold RelayShared.stopHealth
  cases h : s.data.restreamHealth with
  | none => simp only [view, RelayView.halt, turnOff, retrack, hd, hh, hs, hl, h]
  | some health =>
    simp only [view, RelayView.halt, turnOff, RelayView.mark, retrack, RelayShared.updateHealth, hd,
      hh, hs, hl, h]

theorem halt_apart {k : RelayTrack} {d : RelayData} {epoch : UInt64} (hi : s.view.Owned)
    (ht : s.view.track.supervisor ≠ some t) (hint : s.view.Intends t epoch)
    (he : s.shared.epoch = epoch) (hd : d.restreamDesired = false) (hh : d.restreamHealth = none)
    (hs : d.restreamServer = s.shared.data.restreamServer) (hl : d.slot = s.shared.data.slot)
    (hk : s.track.Same k) :
    Apart t s.view (⟨{ s.shared.stopHealth with data := d }, k⟩ : TrackedRelay).view := by
  rw [halt_view s.shared s.track k hd hh hs hl]
  have h : Apart t s.view s.view.halt := .halt hi ht hint he
  refine h.trans (Mild.apart ((Mild.refl h.1).retrack ?_))
  rw [halt_track]
  exact hk

theorem take_apart (wanted : UInt64 → Bool) (hi : s.view.Owned) (hh : s.view.Holding t) :
    Apart t s.view ({ s with shared := (s.shared.takeWhere wanted).2 } : TrackedRelay).view := by
  rcases s.shared.takeWhere_cases wanted with ⟨he, -⟩ | ⟨l, hl, -, he⟩
  · rw [he]
    exact (Mild.refl hi).apart
  · rw [he]
    exact ⟨hi.take hh hl, fun u hu => .take hu hh⟩

theorem generationOf_health {health : ℕ} {g : UInt64} (hh : s.shared.data.restreamHealth = some health)
    (hg : s.shared.healthGeneration = some g) : s.view.generationOf health = g := by
  simp only [RelayShared.healthGeneration, hh, Option.map_some, Option.some.injEq] at hg
  exact hg

/-- An accepted fault is one of the stored listener, if there is any. -/
theorem acceptFault_mild {fault : RelayFault} {health : ℕ} (hi : s.view.Owned)
    (hh : s.shared.data.restreamHealth = some health)
    (hg : s.shared.healthGeneration = some fault.serverGeneration) :
    Mild s.view (s.view.mark health fun h => (h.acceptFault fault).2) ∧
      (((s.shared.healths health).acceptFault fault).1 = true →
        fault.serverGeneration.toNat ≤ s.view.nextHealth ∧
          (s.view.mark health fun h => (h.acceptFault fault).2).Cleared fault.serverGeneration) := by
  have hgen := generationOf_health hh hg
  rcases (s.shared.healths health).acceptFault_cases fault with
    heq | ⟨-, hfirst, hkept, -, hsame, -⟩
  · refine ⟨.mark hi health _ ?_ (.inr fun hp => ?_), fun hacc => ?_⟩
    · exact congrArg (fun r => r.2.serverGeneration) heq
    · exact (congrArg Prod.snd heq).symm ▸ hp
    · rw [heq] at hacc
      cases hacc
  · have ht : ¬ (s.view.healths health).Pristine := fun hp => by
      cases hfirst.symm.trans hp.faultless
    have hm := Mild.mark hi health (fun h => (h.acceptFault fault).2) hsame
      (.inr fun hp => absurd hp ht)
    refine ⟨hm, fun _ => ⟨hi.healthGeneration_le hg, ?_⟩⟩
    intro l hl _
    rw [← hgen]
    have heq : l.health = health := by_contra fun hne => ht (hi.uncleared l health hl hh hne)
    rw [← heq]
    exact (hi.listeners l (hi.mem_of_stored hl)).2

theorem answer_apart (hi : s.view.Owned) (hg : relayGuard t e s.view) (hm : s.Room e)
    (ha : s.answer t e o = some (r, s')) : Apart t s.view s'.view := by
  cases e with
  | claimEpoch =>
    cases ha
    exact claim_apart hi hm
  | claimEpochIf expected =>
    simp only [answer, RelayShared.answer] at ha
    split at ha
    · next he =>
      cases ha
      cases he
      exact claim_apart hi (hm rfl)
    · cases ha
      exact (Mild.refl hi).apart
  | publishStop epoch =>
    simp only [answer, RelayShared.answer, RelayShared.publishRestreamStopIntent] at ha
    split at ha
    · cases ha
      exact (Mild.refl hi).apart
    · next he =>
      cases ha
      split
      · exact halt_apart hi hg.1 hg.2 (not_not.mp he) rfl rfl rfl rfl
          ⟨rfl, rfl, rfl, rfl, rfl, rfl⟩
      · exact (Mild.apart ((Mild.refl hi).retrack ⟨rfl, rfl, rfl, rfl, rfl, rfl⟩))
  | cancelStart epoch preserve =>
    simp only [answer, RelayShared.answer] at ha
    have hk : s.track.Same (s.track.after t s.shared (.cancelStart epoch preserve) ()) :=
      .ite (RelayTrack.same_settle _ t) (.refl _)
    cases ha
    rcases s.shared.cancelStart_cases epoch preserve with h | ⟨retry, h⟩ | ⟨he, h⟩
    · rw [h]
      exact Mild.apart ((Mild.refl hi).retrack hk)
    · rw [h]
      exact Mild.apart ((Mild.refl hi).retrack hk)
    · rw [h]
      exact halt_apart hi hg.1 hg.2 he rfl rfl rfl rfl hk
  | lockLifecycle =>
    simp only [answer, RelayShared.answer] at ha
    split at ha
    · next hf =>
      cases ha
      exact ⟨hi.lock, fun u hu => .lock hu (Option.isNone_iff_eq_none.mp hf)⟩
    · cases ha
  | unlockLifecycle =>
    cases ha
    exact ⟨hi.unlock hg, fun u hu => .unlock hu hg⟩
  | takeServer epoch generation =>
    simp only [answer, RelayShared.answer, RelayShared.takeServer] at ha
    split at ha
    · cases ha
      exact (Mild.refl hi).apart
    · cases ha
      exact take_apart (fun _ => true) hi hg.1
  | takeTarget target =>
    cases ha
    have h := take_apart (fun generation => some generation == target) hi hg.1
    exact h.trans (Mild.apart ((Mild.refl h.1).retrack ⟨rfl, rfl, rfl, rfl, rfl, rfl⟩))
  | takeGeneration generation =>
    cases ha
    exact take_apart (· == generation) hi hg.1
  | shutdown l =>
    cases ha
    exact ⟨hi.shutdown hg, fun u hu => .shutdown hu hg⟩
  | confirmBuild epoch generation spec health recovering =>
    simp only [answer, RelayShared.answer] at ha
    obtain ⟨hh, hinst, hclear⟩ := hg
    rcases s.shared.confirmBuild_cases epoch generation spec health recovering o with
      hb | ⟨hc, healths, events, hgen, hb⟩
    · rw [hb] at ha
      cases ha
      exact (Mild.refl hi).apart
    · have hs : s.view.stored = none := hclear (RelayShared.relayIsCurrent_eq hc).2.2.2
      have hre : Mild s.view (s.view.rehealth healths) :=
        ⟨hi.rehealth hgen fun l h hl => absurd (hs.symm.trans hl) (by simp), fun _ => .rehealth hgen⟩
      rcases hb with ⟨i, failure, hb⟩ | ⟨l, hlh, hlg, -, hb⟩
      · rw [hb] at ha
        cases ha
        exact hre.apart
      · rw [hb] at ha
        cases ha
        have hlt : l.health < s.view.nextHealth := hlh ▸ hinst.1
        have hlg' : l.generation = (s.view.rehealth healths).generationOf l.health := by
          rw [hlg, hlh]
          exact (hgen health).symm
        exact hre.apart.trans (.build hre.1 hh hs hlt hlg' (some (epoch, generation)))
  | storeListener epoch generation scope l spec =>
    simp only [answer, RelayShared.answer, RelayShared.storeListener] at ha
    split at ha
    · next hc =>
      cases ha
      obtain ⟨hcarry, -, hlg, -⟩ := hg
      have hgen : s.view.healthGeneration = some l.generation :=
        hlg ▸ (RelayShared.relayIsCurrent_eq (Bool.and_eq_true_iff.mp hc).1).2.2.2
      have hst : Apart t s.view (s.view.store l
          (if s.track.supervisor = some t then none else s.track.recovering)) := by
        split
        · next hs => exact ⟨hi.store hcarry hgen (.inl rfl), fun u hu => .store hu hcarry hgen (.inr hs)⟩
        · exact ⟨hi.store hcarry hgen (.inr rfl), fun u hu => .store hu hcarry hgen (.inl rfl)⟩
      exact hst.trans (Mild.apart ((Mild.refl hst.1).retrack ⟨rfl, rfl, rfl, rfl, rfl, rfl⟩))
    · cases ha
      exact (Mild.refl hi).apart
  | takeEvents =>
    cases hs : s.shared.eventsTaken with
    | false =>
      simp only [answer, RelayShared.answer, hs] at ha
      cases ha
      exact ⟨hi.supervise (hi.supervised hs), fun u hu => .supervise hu (hi.supervised hs)⟩
    | true =>
      have heq : s'.view = s.view := by
        simp only [answer, RelayShared.answer, hs] at ha
        cases ha
        simp only [view, RelayTrack.after, hs]
        rfl
      rw [heq]
      exact (Mild.refl hi).apart
  | admitFault fault =>
    simp only [answer, RelayShared.answer, RelayShared.admitFault] at ha
    split at ha
    · cases ha
      exact .accept hi hg none fun _ _ h => by cases h
    · next epoch health hc =>
      obtain ⟨hgen, hhealth, -⟩ := RelayShared.currentRelayContext_eq _ hc
      obtain ⟨hm, hr⟩ := acceptFault_mild hi hhealth hgen
      cases ha
      refine hm.apart.trans (.accept hm.1 hg _ fun e g h => ?_)
      obtain ⟨⟨e', health'⟩, hadm, heq⟩ := Option.map_eq_some_iff.mp h
      cases heq
      split at hadm
      · next hacc => exact hr hacc
      · cases hadm
  | admitRetry generation =>
    cases ha
    refine .accept hi hg _ fun e g h => ?_
    obtain ⟨⟨e', health⟩, hadm, heq⟩ := Option.map_eq_some_iff.mp h
    cases heq
    obtain ⟨hc, hret⟩ := Option.filter_eq_some_iff.mp hadm
    obtain ⟨hgen, hhealth, -⟩ := RelayShared.currentRelayContext_eq _ hc
    exact ⟨hi.healthGeneration_le hgen, hi.cleared_of_touched hhealth (generationOf_health hhealth hgen)
      fun hp => absurd (hp.not_retryable.symm.trans hret) Bool.false_ne_true⟩
  | permanentFailure =>
    simp only [answer, RelayShared.answer] at ha
    cases ha
    simp only [RelayTrack.after]
    split
    · exact ⟨hi.quit, fun u hu => .quit hu hg⟩
    · exact (Mild.refl hi).apart
  | recoveryEnded epoch generation =>
    cases ha
    exact ⟨hi.quit, fun u hu => .quit hu hg⟩
  | _ =>
    first
      | exact (mild_answer hi hg hm rfl ha).apart
      | rw [silent_view rfl ha]; exact (Mild.refl hi).apart

theorem disturb_mild (hi : s.view.Owned) (i : RelayDisturbance) :
    Mild s.view ({ s with shared := s.shared.disturb i } : TrackedRelay).view := by
  cases i with
  | callback l report =>
    simp only [RelayShared.disturb]
    split
    · next hl =>
      obtain ⟨healths, events, he, ho, hg⟩ :=
        s.shared.runCallbacks_eq l.health l.serverInstance [report]
      have hgen : ∀ h, (healths h).serverGeneration = s.view.generationOf h := fun h => by
        rcases eq_or_ne h l.health with rfl | hne
        · exact hg
        · exact congrArg _ (ho h hne)
      rw [he]
      refine ⟨hi.rehealth hgen fun l' h hl' _ hne hp => ?_, fun _ => .rehealth hgen⟩
      rcases eq_or_ne h l.health with rfl | hne'
      · -- a stored listener is the only one that is alive
        exact absurd (congrArg Listener.health (hi.only_stored hl' hl)) hne.symm
      · change (healths h).Pristine
        rw [ho h hne']
        exact hp
    · exact .refl hi
  | topology revision => exact .refl hi
  | settings store => exact .refl hi
  | preview source => exact .refl hi

end TrackedRelay

open RelayView

/-- The protocol of the relay operations. -/
def relayProtocol : Protocol trackedCalls where
  inv s := s.view.Owned
  rely u s s' := Rely u s.view s'.view
  guard t e s := relayGuard t e s.view
  meets _ s e := s.Room e
  answer hi hg hm ha := TrackedRelay.answer_apart hi hg hm ha
  disturb i hi := TrackedRelay.disturb_mild hi i
  abandon _ ha := by cases ha

end PocketStream
