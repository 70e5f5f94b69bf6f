import PocketStream.Streaming.RelayCalls

/-! # One listener at a time

In every run of the relay calls at most one listener is alive, only the newest
intent stores one, where none is stored, and an operation that was superseded
changes nothing that a newer one relies on. The counters are taken before they
wrap; after 2^64 intents an epoch comes again, and the oldest operation is taken
for the newest.
-/

namespace PocketStream

open Foundation RelayView

/-- Neither counter of the source has wrapped. -/
def TrackedRelay.Unwrapped (s : TrackedRelay) : Prop :=
  s.track.claims < 2 ^ 64 ∧ s.shared.nextHealth < 2 ^ 64

abbrev RelayAct := Act RelayOutcome RelayDisturbance RelayCall

abbrev RelayConfig := TrackedRelay × RelayThreads

/-- The application makes the calls, and the counters do not wrap. -/
def Within (c : RelayConfig) (act : RelayAct) : Prop :=
  (∀ call, act = .spawn call → call.isCommand) ∧ (trackedCalls.step c act).1.Unwrapped

/-- What the calls come to when nothing has been started before. -/
def relayRun (selectedProtocol : RestreamProtocol) (store : Store) (acts : List RelayAct) :
    RelayConfig :=
  trackedCalls.run (.new selectedProtocol store, []) acts

/-- The effects that change an intent or the stored listener. -/
def RelayEffect.decides : RelayEffect → Bool
  | publishStart _ | publishStop _ | cancelStart _ _ | installStart _ _ _ | takeServer _ _
  | takeTarget _ | takeGeneration _ | storeListener _ _ _ _ _ => true
  | _ => false

/-- What the intents have decided. -/
structure RelayData.SameIntent (d d' : RelayData) : Prop where
  desired : d'.restreamDesired = d.restreamDesired
  spec : d'.restreamSpec = d.restreamSpec
  health : d'.restreamHealth = d.restreamHealth

theorem RelayData.SameIntent.refl (d : RelayData) : d.SameIntent d := ⟨rfl, rfl, rfl⟩

namespace RelayShared

variable {t : ℕ} {s s' : RelayShared} {e : RelayEffect} {o : RelayOutcome} {r : e.Reply}

/-- Only the health records and the queue of the supervisor are different. -/
def Recorded (s s' : RelayShared) : Prop :=
  ∃ healths events, s' = { s with healths := healths, events := events }

theorem Recorded.refl (s : RelayShared) : s.Recorded s := ⟨s.healths, s.events, rfl⟩

theorem recorded_runCallbacks (s : RelayShared) (health : ℕ) (i : UInt64)
    (reports : List RelayCallback) : s.Recorded (runCallbacks health i s reports) := by
  obtain ⟨healths, events, he, -⟩ := s.runCallbacks_eq health i reports
  exact ⟨healths, events, he⟩

theorem recorded_pollRelayFault (s : RelayShared) (o : RelayOutcome) :
    s.Recorded (s.pollRelayFault o).2 := by
  unfold pollRelayFault
  split
  · exact .refl s
  · split <;> exact ⟨_, s.events, rfl⟩

theorem recorded_recheck (s : RelayShared) (epoch generation : UInt64) (health : ℕ)
    (gstError : Option String) (recovering : Bool) (retry : Option UInt64) :
    s.Recorded (s.recheck epoch generation health gstError recovering retry).2 := by
  unfold recheck
  split
  · exact .refl s
  · split <;> exact ⟨_, _, rfl⟩

theorem recorded_scheduleAttempt (s : RelayShared) (epoch generation : UInt64) :
    s.Recorded (s.scheduleAttempt epoch generation).2 := by
  unfold scheduleAttempt
  split
  · exact .refl s
  · split <;> exact ⟨_, s.events, rfl⟩

/-- The steps outside the operations leave the relay data and the generations. -/
theorem disturb_data (s : RelayShared) (i : RelayDisturbance) :
    (s.disturb i).data = s.data ∧ (s.disturb i).nextHealth = s.nextHealth := by
  cases i with
  | callback l report =>
    simp only [disturb]
    split
    · obtain ⟨healths, events, he⟩ := s.recorded_runCallbacks l.health l.serverInstance [report]
      rw [he]
      exact ⟨rfl, rfl⟩
    · exact ⟨rfl, rfl⟩
  | _ => exact ⟨rfl, rfl⟩

/-- The other effects leave the intents and the stored listener as they are. -/
theorem answer_undecided (he : e.decides = false) (ha : s.answer t e o = some (r, s')) :
    s.data.SameIntent s'.data ∧ s'.data.restreamServer = s.data.restreamServer ∧
      s'.nextHealth = s.nextHealth := by
  suffices h : s'.nextHealth = s.nextHealth ∧ (s'.data = s.data ∨
      (∃ slot, s'.data = { s.data with slot }) ∨
      ∃ p, s'.data = { s.data with selectedProtocol := p }) by
    obtain ⟨hn, h | ⟨_, h⟩ | ⟨_, h⟩⟩ := h <;> rw [h] <;> exact ⟨⟨rfl, rfl, rfl⟩, rfl, hn⟩
  cases e with
  | lease e =>
    cases ha
    exact ⟨rfl, .inr (.inl ⟨_, rfl⟩)⟩
  | setProtocol protocol =>
    cases ha
    exact ⟨rfl, .inr (.inr ⟨_, rfl⟩)⟩
  | confirmBuild epoch generation spec health recovering =>
    simp only [answer] at ha
    rcases s.confirmBuild_cases epoch generation spec health recovering o with
      hb | ⟨-, healths, events, -, ⟨i, failure, hb⟩ | ⟨l, -, -, -, hb⟩⟩ <;>
    · rw [hb] at ha
      cases ha
      exact ⟨rfl, .inl rfl⟩
  | nextEvent =>
    simp only [answer] at ha
    split at ha
    · cases ha
      obtain ⟨healths, events, he⟩ := s.recorded_pollRelayFault o
      exact he ▸ ⟨rfl, .inl rfl⟩
    · split at ha
      · cases ha
      · cases ha
        exact ⟨rfl, .inl rfl⟩
  | recheck epoch generation health gstError recovering retry =>
    obtain rfl : _ = s' := congrArg Prod.snd (Option.some.inj ha)
    obtain ⟨healths, events, he⟩ :=
      s.recorded_recheck epoch generation health gstError recovering retry
    exact he ▸ ⟨rfl, .inl rfl⟩
  | scheduleAttempt epoch generation =>
    obtain rfl : _ = s' := congrArg Prod.snd (Option.some.inj ha)
    obtain ⟨healths, events, he⟩ := s.recorded_scheduleAttempt epoch generation
    exact he ▸ ⟨rfl, .inl rfl⟩
  | commitSettings rtspServer srtServer =>
    cases ha
    exact ⟨rfl, .inl rfl⟩
  | commitProtocol protocol =>
    cases ha
    exact ⟨rfl, .inl rfl⟩
  | _ =>
    first
      | exact absurd he Bool.noConfusion
      | cases ha; exact ⟨rfl, .inl rfl⟩
      | (simp only [answer, admitFault] at ha
         split at ha <;> first | (cases ha; exact ⟨rfl, .inl rfl⟩) | cases ha)

/-- A take leaves the intents, and the stored listener or none. -/
theorem takeWhere_data (s : RelayShared) (wanted : UInt64 → Bool) :
    (s.data.SameIntent (s.takeWhere wanted).2.data ∧
        (s.takeWhere wanted).2.nextHealth = s.nextHealth) ∧
      ((s.takeWhere wanted).2.data.restreamServer = s.data.restreamServer ∨
        (s.takeWhere wanted).2.data.restreamServer = none ∧
          ∃ l, s.data.restreamServer = some l ∧ wanted l.generation = true) := by
  rcases s.takeWhere_cases wanted with ⟨he, -⟩ | ⟨l, hl, hw, he⟩ <;> rw [he]
  · exact ⟨⟨.refl _, rfl⟩, .inl rfl⟩
  · exact ⟨⟨⟨rfl, rfl, rfl⟩, rfl⟩, .inr ⟨rfl, l, hl, hw⟩⟩

/-- Only the store of a listener leaves one where there was none; generations are installed one at a
time and never removed. -/
theorem answer_stored (ha : s.answer t e o = some (r, s')) :
    ((∃ epoch generation scope l spec, e = .storeListener epoch generation scope l spec) ∨
        s'.data.restreamServer = s.data.restreamServer ∨ s'.data.restreamServer = none) ∧
      s.nextHealth ≤ s'.nextHealth := by
  cases hd : e.decides with
  | false =>
    obtain ⟨-, hs, hn⟩ := answer_undecided hd ha
    exact ⟨.inr (.inl hs), hn.ge⟩
  | true =>
    cases e with
    | publishStart epoch =>
      simp only [answer, publishRestreamStartIntent] at ha
      split at ha <;> cases ha <;> exact ⟨.inr (.inl rfl), Nat.le_refl _⟩
    | publishStop epoch =>
      simp only [answer, publishRestreamStopIntent] at ha
      split at ha
      · cases ha
        exact ⟨.inr (.inl rfl), Nat.le_refl _⟩
      · cases ha
        cases s.data.restreamDesired
        · exact ⟨.inr (.inl rfl), Nat.le_refl _⟩
        · exact ⟨.inr (.inl rfl), s.stopHealth_nextHealth.ge⟩
    | cancelStart epoch preserve =>
      cases ha
      rcases s.cancelStart_cases epoch preserve with h | ⟨retry, h⟩ | ⟨-, h⟩ <;> rw [h]
      · exact ⟨.inr (.inl rfl), Nat.le_refl _⟩
      · exact ⟨.inr (.inl rfl), Nat.le_refl _⟩
      · exact ⟨.inr (.inl rfl), s.stopHealth_nextHealth.ge⟩
    | installStart spec target epoch =>
      obtain rfl : _ = s' := congrArg Prod.snd (Option.some.inj ha)
      rcases s.installStart_cases spec target epoch with ⟨d, hd, -⟩ | ⟨-, hd⟩ <;> rw [hd]
      · exact ⟨.inr (.inl rfl), Nat.le_refl _⟩
      · exact ⟨.inr (.inl rfl), Nat.le_succ _⟩
    | takeServer epoch generation =>
      simp only [answer, takeServer] at ha
      split at ha
      · cases ha
        exact ⟨.inr (.inl rfl), Nat.le_refl _⟩
      · cases ha
        obtain ⟨⟨-, hn⟩, hs⟩ := s.takeWhere_data fun _ => true
        exact ⟨.inr (hs.imp_right And.left), hn.ge⟩
    | takeTarget target =>
      obtain rfl : _ = s' := congrArg Prod.snd (Option.some.inj ha)
      obtain ⟨⟨-, hn⟩, hs⟩ := s.takeWhere_data fun generation => some generation == target
      exact ⟨.inr (hs.imp_right And.left), hn.ge⟩
    | takeGeneration generation =>
      obtain rfl : _ = s' := congrArg Prod.snd (Option.some.inj ha)
      obtain ⟨⟨-, hn⟩, hs⟩ := s.takeWhere_data (· == generation)
      exact ⟨.inr (hs.imp_right And.left), hn.ge⟩
    | storeListener epoch generation scope l spec =>
      refine ⟨.inl ⟨_, _, _, _, _, rfl⟩, ?_⟩
      simp only [answer, storeListener] at ha
      split at ha <;> cases ha <;> exact Nat.le_refl _
    | _ => cases hd

end RelayShared

namespace TrackedRelay

variable {t : ℕ} {s s' : TrackedRelay} {e : RelayEffect} {o : RelayOutcome} {r : e.Reply}

theorem answer_parts (h : s.answer t e o = some (r, s')) :
    s.shared.answer t e o = some (r, s'.shared) ∧ s'.track = s.track.after t s.shared e r := by
  obtain ⟨⟨r', s₁⟩, ha, heq⟩ := Option.map_eq_some_iff.mp h
  cases heq
  exact ⟨ha, rfl⟩

/-- The operation has claimed no intent, or a newer one was claimed. -/
def Superseded (s : TrackedRelay) (t : ℕ) : Prop := s.track.claimOf t ≠ some s.track.claims

theorem Superseded.epoch_ne {epoch : UInt64} (hs : s.Superseded t) (hi : s.view.Owned)
    (hc : s.view.Intends t epoch) : s.shared.epoch ≠ epoch := fun he => by
  have hk : epoch.toNat = s.track.claims := (congrArg _ he.symm).trans hi.epoch
  exact hs (hc.trans (congrArg some hk))

/-- A superseded operation changes no intent, and takes at most a listener that is not of a newer
one. -/
theorem superseded_answer (hi : s.view.Owned) (hg : relayGuard t e s.view) (hs : s.Superseded t)
    (hs' : s.answer t e o = some (r, s')) :
    s.shared.data.SameIntent s'.shared.data ∧
      (s'.shared.data.restreamServer = s.shared.data.restreamServer ∨
        s'.shared.data.restreamServer = none ∧
          ∃ k, s.track.claimOf t = some k ∧ s.track.storedBy ≤ k) := by
  obtain ⟨ha, -⟩ := answer_parts hs'
  generalize s'.shared = s₁ at ha ⊢
  cases hd : e.decides with
  | false =>
    obtain ⟨h1, h2, -⟩ := RelayShared.answer_undecided hd ha
    exact ⟨h1, .inl h2⟩
  | true =>
    cases e with
    | publishStart epoch =>
      simp only [RelayShared.answer, RelayShared.publishRestreamStartIntent,
        if_pos (hs.epoch_ne hi hg.2)] at ha
      cases ha
      exact ⟨.refl _, .inl rfl⟩
    | publishStop epoch =>
      simp only [RelayShared.answer, RelayShared.publishRestreamStopIntent,
        if_pos (hs.epoch_ne hi hg.2)] at ha
      cases ha
      exact ⟨.refl _, .inl rfl⟩
    | cancelStart epoch preserve =>
      simp only [RelayShared.answer, RelayShared.cancelRestreamStartIntent,
        if_pos (Or.inl (hs.epoch_ne hi hg.2))] at ha
      cases ha
      exact ⟨.refl _, .inl rfl⟩
    | installStart spec target epoch =>
      simp only [RelayShared.answer, RelayShared.installStart,
        if_pos (hs.epoch_ne hi hg.2.1)] at ha
      cases ha
      exact ⟨.refl _, .inl rfl⟩
    | takeServer epoch generation =>
      simp only [RelayShared.answer, RelayShared.takeServer] at ha
      split at ha
      · cases ha
        exact ⟨.refl _, .inl rfl⟩
      · cases ha
        obtain ⟨⟨h1, -⟩, h2⟩ := s.shared.takeWhere_data fun _ => true
        exact ⟨h1, h2.imp_right fun h => ⟨h.1, hg.2⟩⟩
    | takeTarget target =>
      obtain rfl : _ = s₁ := congrArg Prod.snd (Option.some.inj ha)
      obtain ⟨⟨h1, -⟩, h2⟩ := s.shared.takeWhere_data fun generation => some generation == target
      refine ⟨h1, h2.imp_right fun h => ⟨h.1, ?_⟩⟩
      obtain ⟨l, hl, hw⟩ := h.2
      obtain ⟨k, hk, hle⟩ := hg.2
      exact ⟨k, hk, hle l hl (beq_iff_eq.mp hw).symm⟩
    | takeGeneration generation =>
      obtain rfl : _ = s₁ := congrArg Prod.snd (Option.some.inj ha)
      obtain ⟨⟨h1, -⟩, h2⟩ := s.shared.takeWhere_data (· == generation)
      exact ⟨h1, h2.imp_right fun h => ⟨h.1, hg.2⟩⟩
    | storeListener epoch generation scope l spec =>
      have hne := hs.epoch_ne hi hg.2.2.2
      have hc : s.shared.relayIsCurrent epoch generation = false :=
        Bool.eq_false_iff.mpr fun hc => hne (RelayShared.relayIsCurrent_eq hc).1
      simp only [RelayShared.answer, RelayShared.storeListener, hc, Bool.false_and,
        Bool.false_eq_true, if_false] at ha
      cases ha
      exact ⟨.refl _, .inl rfl⟩
    | _ => cases hd

/-- The operation stores the listener that it has built, as the newest intent and where none is
stored. -/
structure Stores (s : TrackedRelay) (t : ℕ) (l : Listener) : Prop where
  vacant : s.shared.data.restreamServer = none
  inHand : l ∈ s.shared.hands
  current : ∃ epoch, s.track.builtFor = some (epoch, l.generation) ∧
    s.track.claimOf t = some epoch.toNat ∧ s.shared.epoch = epoch ∧
    s.shared.data.restreamIntentEpoch = some epoch ∧
    s.shared.healthGeneration = some l.generation

theorem stores_answer {l : Listener} (hg : relayGuard t e s.view)
    (hs : s.answer t e o = some (r, s')) (hl : s'.shared.data.restreamServer = some l)
    (hne : s.shared.data.restreamServer ≠ some l) : s.Stores t l := by
  obtain ⟨ha, -⟩ := answer_parts hs
  generalize s'.shared = s₁ at ha hl
  rcases (RelayShared.answer_stored ha).1 with ⟨epoch, generation, scope, l', spec, rfl⟩ | h | h
  · simp only [RelayShared.answer, RelayShared.storeListener] at ha
    split at ha
    · next hc =>
      cases ha
      cases hl
      obtain ⟨hcarry, hb, rfl, hi⟩ := hg
      obtain ⟨he, hint, -, hgen⟩ :=
        RelayShared.relayIsCurrent_eq (Bool.and_eq_true_iff.mp hc).1
      refine ⟨hcarry.2.2, ?_, epoch, hb, hi, he, hint, hgen⟩
      have hh : s.shared.hands = [l] := hcarry.2.1
      simp [hh]
    · cases ha
      exact absurd hl hne
  · exact absurd (h.symm.trans hl) hne
  · cases h.symm.trans hl

/-- The counters only grow. -/
theorem answer_counters (ha : s.answer t e o = some (r, s')) :
    s.track.claims ≤ s'.track.claims ∧ s.shared.nextHealth ≤ s'.shared.nextHealth := by
  obtain ⟨hs, ht⟩ := answer_parts ha
  refine ⟨?_, (RelayShared.answer_stored hs).2⟩
  rw [ht]
  cases e with
  | claimEpoch => exact Nat.le_succ _
  | claimEpochIf expected =>
    simp only [RelayTrack.after]
    split
    · exact Nat.le_succ _
    · exact Nat.le_refl _
  | _ =>
    first
      | exact Nat.le_refl _
      | simp only [RelayTrack.after]; split <;> exact Nat.le_refl _

/-- Fewer than 2^64 intents after the step are room for it. -/
theorem room_of_unwrapped (h : ∀ r s', s.answer t e o = some (r, s') → s'.Unwrapped) :
    s.Room e := by
  cases e with
  | claimEpoch => exact (h _ _ rfl).1
  | claimEpochIf expected =>
    intro he
    exact (h (some (expected + 1)) _ (by simp only [answer, RelayShared.answer, if_pos he]; rfl)).1
  | installStart spec target epoch => exact (h _ _ rfl).2
  | _ => trivial

end TrackedRelay

/-! ### Runs -/

/-- What a step does to the intents and to the stored listener. -/
structure Exclusive (s : TrackedRelay) (act : RelayAct) (s' : TrackedRelay) : Prop where
  stores : ∀ l, s'.shared.data.restreamServer = some l → s.shared.data.restreamServer ≠ some l →
    ∃ t o, act = .advance t o ∧ s.Stores t l
  superseded : ∀ t o, act = .advance t o → s.Superseded t →
    s.shared.data.SameIntent s'.shared.data ∧
      (s'.shared.data.restreamServer = s.shared.data.restreamServer ∨
        s'.shared.data.restreamServer = none ∧
          ∃ k, s.track.claimOf t = some k ∧ s.track.storedBy ≤ k)

theorem Exclusive.refl (s : TrackedRelay) (act : RelayAct) : Exclusive s act s where
  stores _ hl hne := absurd hl hne
  superseded _ _ _ _ := ⟨.refl _, .inl rfl⟩

variable {c : RelayConfig}

theorem admits_of_within {act : RelayAct} (h : Within c act) :
    relayProtocolCalls.Admits c act := by
  cases act with
  | spawn call =>
    intro s hs
    have hc := h.1 call rfl
    cases call <;> first | exact hs | cases hc
  | advance t o =>
    rintro e ⟨next, hp⟩
    refine TrackedRelay.room_of_unwrapped (t := t) (o := o) fun r s' ha => ?_
    have hw := h.2
    simp only [Shared.step, Shared.advance, hp] at hw
    have ha' : trackedCalls.answer t c.1 e o = some (r, s') := ha
    rw [ha'] at hw
    exact hw
  | abandon t => trivial
  | disturb i => trivial

theorem TrackedRelay.owned_new (selectedProtocol : RestreamProtocol) (store : Store) :
    (TrackedRelay.new selectedProtocol store).view.Owned where
  epoch := rfl
  generation := rfl
  generations _ hh := absurd hh (Nat.not_lt_zero _)
  idle _ := rfl
  health := nofun
  lease := nofun
  listeners := nofun
  single := .inl rfl
  held hne := absurd rfl hne
  storedBy := Nat.le_refl _
  uncleared := nofun
  recovering := nofun
  supervised _ := rfl
  claimed := nofun
  claimant := nofun

theorem sound_of_reaches {selectedProtocol : RestreamProtocol} {store : Store}
    (h : (trackedCalls.machine (.new selectedProtocol store)).Reaches Within c) :
    relayProtocol.Sound relayProtocolCalls c := by
  exact .reached (TrackedRelay.owned_new ..) (fun _ => nofun) (h.mono fun _ _ => admits_of_within)

theorem exclusive_step {C : relayProtocol.Calls} (h : relayProtocol.Sound C c) (act : RelayAct) :
    Exclusive c.1 act (trackedCalls.step c act).1 := by
  cases act with
  | spawn call => exact .refl _ _
  | abandon t =>
    have hsame : (trackedCalls.step c (.abandon t)).1 = c.1 := by
      simp only [Shared.step, Shared.drop]
      split <;> rfl
    exact hsame ▸ .refl _ _
  | disturb i =>
    have hdata : (trackedCalls.step c (.disturb i)).1.shared.data = c.1.shared.data :=
      (c.1.shared.disturb_data i).1
    exact
      { stores := fun l hl hne => absurd (hdata ▸ hl) hne
        superseded := fun _ _ h => by cases h }
  | advance t o =>
    rcases trackedCalls.advance_state c t o with hsame | ⟨e, r, hi, ha⟩
    · exact hsame ▸ .refl c.1 _
    · have hg : relayGuard t e c.1.view := h.issued hi
      exact
        { stores := fun l hl hne => ⟨t, o, rfl, TrackedRelay.stores_answer hg ha hl hne⟩
          superseded := fun u o' hu hs => by
            cases hu
            exact TrackedRelay.superseded_answer h.inv hg hs ha }

theorem step_counters (c : RelayConfig) (act : RelayAct) :
    c.1.track.claims ≤ (trackedCalls.step c act).1.track.claims ∧
      c.1.shared.nextHealth ≤ (trackedCalls.step c act).1.shared.nextHealth := by
  rcases trackedCalls.step_state c act with h | ⟨t, e, o, r, -, ha⟩ | ⟨t, ha⟩ | ⟨i, h⟩
  · rw [h]
    exact ⟨Nat.le_refl _, Nat.le_refl _⟩
  · exact TrackedRelay.answer_counters ha
  · cases ha
  · rw [h]
    exact ⟨Nat.le_refl _, (c.1.shared.disturb_data i).2.ge⟩

/-- A run whose counters have not wrapped at its end is one whose counters never wrap. -/
theorem reaches_relayRun {selectedProtocol : RestreamProtocol} {store : Store}
    {acts : List RelayAct} (hcalls : ∀ call, .spawn call ∈ acts → call.isCommand)
    (hw : (relayRun selectedProtocol store acts).1.Unwrapped) :
    (trackedCalls.machine (.new selectedProtocol store)).Reaches Within
      (relayRun selectedProtocol store acts) := by
  induction acts using List.reverseRecOn with
  | nil => exact .initial
  | append_singleton acts act ih =>
    have hstep : relayRun selectedProtocol store (acts ++ [act]) =
        trackedCalls.step (relayRun selectedProtocol store acts) act := by
      simp only [relayRun, Shared.run, List.foldl_append, List.foldl_cons, List.foldl_nil]
    rw [hstep] at hw ⊢
    obtain ⟨hk, hn⟩ := step_counters (relayRun selectedProtocol store acts) act
    refine .step (ih (fun call h => hcalls call (List.mem_append_left _ h))
      ⟨Nat.lt_of_le_of_lt hk hw.1, Nat.lt_of_le_of_lt hn hw.2⟩) ⟨fun call h => ?_, hw⟩ rfl
    exact hcalls call (by simp [h])

/-- At every moment of every run at most one listener is alive, and every step keeps to the newest
intent. -/
theorem relay_listener_exclusive (selectedProtocol : RestreamProtocol) (store : Store)
    (acts : List RelayAct) (hcalls : ∀ call, .spawn call ∈ acts → call.isCommand)
    (hw : (relayRun selectedProtocol store acts).1.Unwrapped) :
    (relayRun selectedProtocol store acts).1.shared.alive.length ≤ 1 ∧
      ∀ act, Exclusive (relayRun selectedProtocol store acts).1 act
        (trackedCalls.step (relayRun selectedProtocol store acts) act).1 := by
  have hs := sound_of_reaches (reaches_relayRun hcalls hw)
  refine ⟨?_, exclusive_step hs⟩
  change ((relayRun _ _ acts).1.view.stored.toList ++ (relayRun _ _ acts).1.view.hands).length ≤ 1
  rcases hs.inv.single with hh | ⟨hn, l, hh⟩
  · rw [hh, List.append_nil]
    exact Option.length_toList_le
  · simp [hn, hh]

/-! ### A start, and one that comes again -/

def sharedSettings : AppSettings :=
  let s := AppSettings.fresh "0123456789abcdef"
  { s with
    stream := { s.stream with protocol := .udp }
    rtspServer := { s.rtspServer with enabled := true } }

def sharedStore : Store := ⟨sharedSettings, sharedSettings⟩

/-- The first `n` steps of a start. -/
def startActs (n : ℕ) : List RelayAct := .spawn .start :: List.replicate n (.advance 0 {})

/-- The start stores its listener, and takes no other step beside the newest intent. -/
theorem relay_listener_exclusive_start :
    (relayRun .rtsp sharedStore (startActs 28)).1.shared.data.restreamServer.isSome ∧
      (relayRun .rtsp sharedStore (startActs 28)).1.shared.alive.length ≤ 1 := by
  refine ⟨by decide +kernel, (relay_listener_exclusive _ _ _ ?_ ?_).1⟩
  · intro call h
    simp [startActs] at h
    rw [h]
    rfl
  · exact ⟨by decide +kernel, by decide +kernel⟩

/-- Stops that claim their intent and take no further step, as the threads 1 to `n`. -/
def stopActs : ℕ → List RelayAct
  | 0 => []
  | n + 1 => stopActs n ++ [.spawn .stop, .advance (n + 1) {}]

/-- What such stops leave of one thread that waits. -/
structure Stopped (c c' : RelayConfig) (n : ℕ) : Prop where
  data : c'.1.shared.data = c.1.shared.data
  epoch : c'.1.shared.epoch = c.1.shared.epoch + UInt64.ofNat n
  claims : c'.1.track.claims = c.1.track.claims + n
  claimOf : c'.1.track.claimOf 0 = c.1.track.claimOf 0
  waiting : c'.2[0]? = c.2[0]?
  length : c'.2.length = n + 1

theorem stopped_stopActs {c : RelayConfig} (hc : c.2.length = 1) (n : ℕ) :
    Stopped c (trackedCalls.run c (stopActs n)) n := by
  induction n with
  | zero => exact ⟨rfl, (UInt64.add_zero _).symm, rfl, rfl, rfl, hc⟩
  | succ n ih =>
    have hrun : trackedCalls.run c (stopActs (n + 1)) =
        trackedCalls.advance (trackedCalls.step (trackedCalls.run c (stopActs n)) (.spawn .stop))
          (n + 1) {} := by
      simp only [stopActs, Shared.run, List.foldl_append, List.foldl_cons, List.foldl_nil]
      rfl
    rw [hrun]
    generalize trackedCalls.run c (stopActs n) = d at ih
    obtain ⟨next, hnext⟩ : ∃ next, RelayCall.program .stop = .request .claimEpoch next := ⟨_, rfl⟩
    have hp : (trackedCalls.step d (.spawn .stop)).2[n + 1]? =
        some (.request .claimEpoch next) := by
      simp only [Shared.step, ← ih.length, List.getElem?_concat_length, ← hnext]
      rfl
    have hadv : trackedCalls.advance (trackedCalls.step d (.spawn .stop)) (n + 1) {} =
        (⟨{ d.1.shared with epoch := d.1.shared.epoch + 1 }, d.1.track.claim (n + 1)⟩,
          (d.2 ++ [RelayCall.program .stop]).set (n + 1) (next (d.1.shared.epoch + 1))) := by
      simp only [Shared.advance, hp]
      rfl
    rw [hadv]
    exact
      { data := ih.data
        epoch := by
          simp only [ih.epoch, UInt64.ofNat_add, UInt64.add_assoc]
          rfl
        claims := congrArg (· + 1) ih.claims
        claimOf := by
          rw [← ih.claimOf]
          change Function.update d.1.track.claimOf (n + 1) (some (d.1.track.claims + 1)) 0 = _
          exact Function.update_of_ne (Nat.succ_ne_zero n).symm _ _
        waiting := by
          have hlt : 0 < d.2.length := by rw [ih.length]; exact Nat.succ_pos n
          rw [List.getElem?_set_ne (Nat.succ_ne_zero n), List.getElem?_append_left hlt]
          exact ih.waiting
        length := by simp [ih.length] }

/-- A start that has claimed the first intent and not published it. -/
theorem waiting_start : ∃ next, (relayRun .rtsp sharedStore (startActs 2)).2 =
    [.request (.publishStart 1) next] := ⟨_, rfl⟩

theorem isCommand_stopActs {call : RelayCall} (n : ℕ) (h : .spawn call ∈ stopActs n) :
    call.isCommand := by
  induction n with
  | zero => cases h
  | succ n ih =>
    rcases List.mem_append.mp h with h | h
    · exact ih h
    · simp only [List.mem_cons, Act.spawn.injEq, reduceCtorEq, List.not_mem_nil, or_self,
        or_false] at h
      rw [h]
      rfl

/-- After as many stops as an epoch needs to come again, the waiting start is the newest again. -/
theorem wrapped_stops {n : ℕ} (hn : UInt64.ofNat n = 0) (hpos : 0 < n) :
    let acts := startActs 2 ++ stopActs n
    let c := relayRun .rtsp sharedStore acts
    (∀ call, .spawn call ∈ acts → call.isCommand) ∧ c.1.Superseded 0 ∧
      c.1.shared.data.restreamDesired = false ∧
      (trackedCalls.step c (.advance 0 {})).1.shared.data.restreamDesired = true := by
  intro acts c
  have hrun : c = trackedCalls.run (relayRun .rtsp sharedStore (startActs 2)) (stopActs n) := by
    simp only [c, acts, relayRun, Shared.run, List.foldl_append]
  have hstop := stopped_stopActs (c := relayRun .rtsp sharedStore (startActs 2)) rfl n
  rw [← hrun] at hstop
  obtain ⟨next, hnext⟩ := waiting_start
  refine ⟨fun call h => ?_, fun h => ?_, hstop.data ▸ rfl, ?_⟩
  · rcases List.mem_append.mp h with h | h
    · simp only [startActs, List.mem_cons, Act.spawn.injEq, List.mem_replicate, reduceCtorEq,
        and_false, or_false] at h
      rw [h]
      rfl
    · exact isCommand_stopActs _ h
  · rw [hstop.claimOf, hstop.claims] at h
    have h1 : 1 = 1 + n := Option.some.inj h
    omega
  · have hp : c.2[0]? = some (.request (.publishStart 1) next) := by
      rw [hstop.waiting, hnext]
      rfl
    have he : c.1.shared.epoch = 1 := by
      rw [hstop.epoch, hn]
      rfl
    simp only [Shared.step, Shared.advance, hp]
    change (c.1.shared.publishRestreamStartIntent 1).2.data.restreamDesired = true
    simp only [RelayShared.publishRestreamStartIntent, he, ne_eq, not_true_eq_false, if_false]

/-- A start that waits to publish its intent while 2^64 stops are claimed takes itself for the
newest, and the relay is wanted again. -/
theorem relay_listener_wrapped :
    let acts := startActs 2 ++ stopActs (2 ^ 64)
    let c := relayRun .rtsp sharedStore acts
    (∀ call, .spawn call ∈ acts → call.isCommand) ∧ c.1.Superseded 0 ∧
      c.1.shared.data.restreamDesired = false ∧
      (trackedCalls.step c (.advance 0 {})).1.shared.data.restreamDesired = true :=
  wrapped_stops (by decide) (by decide)

end PocketStream
