import Mathlib.Data.List.Induction
import PocketStream.Native.Serial

/-! # The recovery fence

A recovery is owed at the start and after every uncertain end, until a recovery
completes. No ordinary operation is admitted while one is owed, as long as no
failed or canceled recovery is acknowledged in the meantime.
-/

namespace PocketStream

namespace LocalExecutor

open Foundation

def Event.owed (before : Bool) : Event → Bool
  | finished _ true .completed => false
  | finished _ _ .uncertain => true
  | _ => before

/-- A recovery is owed at the start and after an uncertain end, until one completes. -/
def RecoveryOwed (history : List Event) : Bool := history.foldl Event.owed true

/-- An ordinary operation is admitted only after a recovery has completed, and between it and
every uncertain end before it a recovery has completed. -/
structure Fenced (history : List Event) : Prop where
  recovered : ∀ before id after, history = before ++ .admitted id false :: after →
    ∃ r, .finished r true .completed ∈ before
  uncertain : ∀ before u recovery between id after,
    history = before ++ .finished u recovery .uncertain :: (between ++ .admitted id false :: after) →
      ∃ r, .finished r true .completed ∈ between

section History

variable {history : List Event}

theorem recoveryOwed_append (history : List Event) (e : Event) :
    RecoveryOwed (history ++ [e]) = e.owed (RecoveryOwed history) := by
  simp [RecoveryOwed]

/-- What is owed is settled by a completed recovery only. -/
theorem exists_completed {between : List Event} (h : between.foldl Event.owed true = false) :
    ∃ r, .finished r true .completed ∈ between := by
  induction between using List.reverseRecOn with
  | nil => cases h
  | append_singleton between e ih =>
    rw [List.foldl_append, List.foldl_cons, List.foldl_nil] at h
    by_cases hb : between.foldl Event.owed true = false
    · obtain ⟨r, hr⟩ := ih hb
      exact ⟨r, List.mem_append_left _ hr⟩
    · cases e with
      | admitted id recovery => exact absurd h hb
      | finished id recovery outcome =>
        cases recovery <;> cases outcome <;>
          first
          | exact ⟨id, List.mem_append_right _ (List.mem_singleton.mpr rfl)⟩
          | exact absurd h hb
          | cases h

/-- What is owed dates from the start or from an uncertain end. -/
theorem exists_uncertain (h : RecoveryOwed history = true) :
    (∀ r, .finished r true .completed ∉ history) ∨
      ∃ before u recovery between, history = before ++ .finished u recovery .uncertain :: between ∧
        ∀ r, .finished r true .completed ∉ between := by
  induction history using List.reverseRecOn with
  | nil => exact .inl fun r => List.not_mem_nil
  | append_singleton history e ih =>
    rw [recoveryOwed_append] at h
    by_cases hu : ∃ u recovery, e = .finished u recovery .uncertain
    · obtain ⟨u, recovery, rfl⟩ := hu
      exact .inr ⟨history, u, recovery, [], rfl, fun r => List.not_mem_nil⟩
    have hne : ∀ r, .finished r true .completed ≠ e := by
      rintro r rfl
      cases h
    have howed : RecoveryOwed history = true := by
      cases e with
      | admitted id recovery => exact h
      | finished id recovery outcome =>
        cases outcome with
        | uncertain => exact absurd ⟨id, recovery, rfl⟩ hu
        | completed =>
          cases recovery with
          | true => exact absurd rfl (hne id)
          | false => exact h
        | failed => cases recovery <;> exact h
        | canceled => cases recovery <;> exact h
    rcases ih howed with hnone | ⟨before, u, recovery, between, rfl, hnone⟩
    · exact .inl fun r hr => (List.mem_append.mp hr).elim (hnone r) fun he =>
        hne r (List.mem_singleton.mp he)
    · refine .inr ⟨before, u, recovery, between ++ [e], by simp, fun r hr => ?_⟩
      exact (List.mem_append.mp hr).elim (hnone r) fun he => hne r (List.mem_singleton.mp he)

/-- Every ordinary admission finds nothing owed. -/
def Settled (history : List Event) : Prop :=
  ∀ before id after, history = before ++ .admitted id false :: after → RecoveryOwed before = false

theorem settled_nil : Settled [] := fun before id after h => by simp at h

theorem Settled.append (h : Settled history) {e : Event}
    (he : ∀ id, e = .admitted id false → RecoveryOwed history = false) :
    Settled (history ++ [e]) := by
  intro before id after hs
  rcases List.eq_nil_or_concat after with rfl | ⟨after, e', rfl⟩
  · obtain ⟨rfl, hlast⟩ := List.append_inj' hs rfl
    exact he id (List.singleton_inj.mp hlast)
  · rw [List.concat_eq_append, ← List.cons_append, ← List.append_assoc] at hs
    exact h before id after (List.append_inj' hs rfl).1

theorem Settled.fenced (h : Settled history) : Fenced history where
  recovered before id after he := exists_completed (h before id after he)
  uncertain before u recovery between id after he := by
    have hs := h (before ++ .finished u recovery .uncertain :: between) id after (by simp [he])
    have hstart : ∀ b, Event.owed b (.finished u recovery .uncertain) = true := fun b => by
      cases recovery <;> rfl
    rw [RecoveryOwed, List.foldl_append, List.foldl_cons, hstart] at hs
    exact exists_completed hs

theorem Fenced.not_owed {id : Nat} (h : Fenced (history ++ [.admitted id false])) :
    RecoveryOwed history = false := by
  rw [Bool.eq_false_iff]
  intro howed
  rcases exists_uncertain howed with hnone | ⟨before, u, recovery, between, rfl, hnone⟩
  · obtain ⟨r, hr⟩ := h.recovered history id [] rfl
    exact hnone r hr
  · obtain ⟨r, hr⟩ := h.uncertain before u recovery between id [] (by simp)
    exact hnone r hr

end History

variable {Value : Type} {s s' : System Value}

/-- The call acknowledges the failed or canceled completion of a recovery while a recovery is
owed. -/
def Overlooks (s : System Value) : Call Value → Prop
  | .acknowledge id => RecoveryOwed s.history = true ∧ .admitted id true ∈ s.history ∧
      ∃ result, s.shared.state.phase = .retained id result ∧ result.outcome ≠ .uncertain
  | _ => False

/-- While a recovery is owed the executor is not idle, runs no ordinary operation and retains
no certain completion but a recovery's. -/
structure Fence (s : System Value) : Prop where
  settled : Settled s.history
  idle : s.shared.state.phase = .idle → RecoveryOwed s.history = false
  ordinary : ∀ w ∈ s.workers, w.recovery = false → RecoveryOwed s.history = false
  retained : ∀ id result, s.shared.state.phase = .retained id result →
    result.outcome ≠ .uncertain → RecoveryOwed s.history = true → .admitted id true ∈ s.history

theorem Fence.initial : Fence (System.initial : System Value) where
  settled := settled_nil
  idle h := by cases h
  ordinary _ h := absurd h List.not_mem_nil
  retained _ _ h := by cases h

/-- A certain end of an ordinary operation leaves what is owed. -/
theorem Event.owed_finished_ordinary {owed : Bool} {id : Nat} {outcome : Outcome}
    (h : outcome ≠ .uncertain) : Event.owed owed (.finished id false outcome) = owed := by
  cases outcome with
  | uncertain => exact absurd rfl h
  | completed => rfl
  | failed => rfl
  | canceled => rfl

theorem Effect.fence {call : Call Value} (he : Effect s call s') (hs : Serial s) (h : Fence s)
    (hcall : ¬ Overlooks s call) : Fence s' := by
  cases he with
  | admits recovery managed hworkers hpoisoned hidle hnext hphase hpoisoned' hworkers' hhistory =>
    have howed : RecoveryOwed s'.history = RecoveryOwed s.history := by
      rw [hhistory, recoveryOwed_append]
      rfl
    refine ⟨?_, fun hp => ?_, fun w hw hr => ?_, fun id result hp => ?_⟩
    · rw [hhistory]
      refine h.settled.append fun id he => h.idle (hidle ?_)
      exact (Event.admitted.inj he).2
    · rw [hphase] at hp
      cases hp
    · rw [hworkers', List.mem_singleton] at hw
      subst hw
      rw [howed]
      exact h.idle (hidle hr)
    · rw [hphase] at hp
      cases hp
  | finishes w work hworkers hnext hphase hworkers' hhistory =>
    have hw : w ∈ s.workers := by simp [hworkers]
    have howed : RecoveryOwed s'.history =
        Event.owed (RecoveryOwed s.history) (.finished w.id w.recovery work.result.outcome) := by
      rw [hhistory, recoveryOwed_append]
    refine ⟨?_, fun hp => ?_, fun w hw => ?_, fun id result hp hcertain ho => ?_⟩
    · rw [hhistory]
      exact h.settled.append fun id he => by cases he
    · rw [hphase] at hp
      split at hp
      · next hc =>
        rw [Bool.and_eq_true, decide_eq_true_iff] at hc
        rw [howed, hc.1, hc.2]
        rfl
      · cases hp
    · rw [hworkers'] at hw
      cases hw
    · rw [hphase] at hp
      split at hp
      · cases hp
      obtain ⟨rfl, rfl⟩ := Phase.retained.inj hp
      cases hr : w.recovery with
      | true =>
        rw [hhistory, ← hr]
        exact List.mem_append_left _ (hs.admitted w hw)
      | false =>
        rw [howed, hr, Event.owed_finished_ordinary hcertain, h.ordinary w hw hr] at ho
        cases ho
  | acknowledges id result hretained hcertain hpoisoned hnext hphase hworkers' hhistory =>
    refine ⟨hhistory ▸ h.settled, fun _ => ?_, fun w hw => ?_, fun id result hp => ?_⟩
    · rw [hhistory, Bool.eq_false_iff]
      intro howed
      exact hcall ⟨howed, h.retained id result hretained hcertain howed, result, hretained, hcertain⟩
    · rw [hworkers'] at hw
      cases hw
    · rw [hphase] at hp
      cases hp
  | nothing hnext hphase hpoisoned' hworkers' hhistory =>
    have hsame : ∀ phase : Phase Value, (∀ id cancel managed, phase ≠ .running id cancel managed) →
        s'.shared.state.phase = phase → s.shared.state.phase = phase := by
      intro phase hn hp
      rcases hphase with hphase | hphase
      · exact hphase.symm.trans hp
      · exact (Phase.requestCancel_of_not_running hn).mp (hphase.symm.trans hp)
    refine ⟨hhistory ▸ h.settled, fun hp => ?_, ?_, fun id result hp hcertain ho => ?_⟩
    · rw [hhistory]
      exact h.idle (hsame _ nofun hp)
    · rw [hworkers', hhistory]
      exact h.ordinary
    · rw [hhistory] at ho ⊢
      exact h.retained id result (hsame _ nofun hp) hcertain ho

/-- The next admission is refused for none of the reasons that end all admissions. -/
def Accepting (s : System Value) : Prop :=
  s.shared.poisoned = false ∧ s.shared.state.shutdown = false ∧
    s.shared.state.nextId + 1 < 2 ^ 64

theorem submit_idle (hs : Accepting s) (hidle : s.shared.state.phase = .idle) :
    ∃ s', s.step .submit = some s' ∧
      s'.history = s.history ++ [.admitted (s.shared.state.nextId + 1) false] := by
  obtain ⟨hpoisoned, hshutdown, hnext⟩ := hs
  have hid : checkedAdd s.shared.state.nextId 1 = some (s.shared.state.nextId + 1) := if_pos hnext
  refine ⟨_, rfl, ?_⟩
  simp [System.spawn, Shared.submit, Shared.start, State.admit, hpoisoned, hshutdown, hidle, hid]

/-- An overlooked recovery leaves the executor open to the next ordinary operation. -/
theorem Overlooks.breach {call : Call Value} (h : Overlooks s call) (hs : Accepting s)
    (hstep : s.step call = some s') :
    ∃ s'', s'.step .submit = some s'' ∧ ¬ Fenced s''.history := by
  cases call with
  | acknowledge id =>
    obtain ⟨howed, -, result, hphase, hcertain⟩ := h
    have hidle : s' = { s with shared := { s.shared with state :=
        { s.shared.state with phase := .idle } } } := by
      simpa [System.step, Shared.acknowledge, hs.1, hphase, hcertain, eq_comm] using hstep
    have hs' : Accepting s' := by simpa only [hidle, Accepting] using hs
    obtain ⟨s'', hsubmit, hhistory⟩ := submit_idle hs' (by rw [hidle])
    refine ⟨s'', hsubmit, fun hfenced => ?_⟩
    rw [hhistory] at hfenced
    have := hfenced.not_owed
    rw [hidle, howed] at this
    cases this
  | _ => exact h.elim

/-- In every run one operation is running at most and identifiers increase. A run that never
overlooks a recovery is fenced; one that does admits the next ordinary operation unfenced. -/
theorem native_admission :
    (∀ s : System Value, (machine Value).Reachable s →
      s.workers.length ≤ 1 ∧ (s.history.filterMap Event.admittedId).Pairwise (· < ·)) ∧
    (∀ s : System Value, (machine Value).Reaches (fun s call => ¬ Overlooks s call) s →
      Fenced s.history) ∧
    ∀ (s s' : System Value) (call : Call Value), Overlooks s call → Accepting s →
      s.step call = some s' → ∃ s'', s'.step .submit = some s'' ∧ ¬ Fenced s''.history := by
  refine ⟨fun s h => ?_, fun s h => ?_, fun s s' call h hs => h.breach hs⟩
  · have hserial := serial_of_reachable h
    exact ⟨hserial.serves.length_le_one, hserial.increasing⟩
  · have hfence : Fence s := h.invariant (fun _ => serial_of_reachable) Fence.initial
      fun _ _ _ hserial hfence hcall hstep => (hserial.effect hstep).fence hserial hfence hcall
    exact hfence.settled.fenced

/-- A recovery whose worker panics is followed by one that fails with certainty; once that is
acknowledged an ordinary operation is admitted. -/
theorem acknowledged_recovery_admits :
    ∃ s : System Unit, (machine Unit).Reachable s ∧ ¬ Fenced s.history := by
  let failed : Completion Unit := ⟨.failed, "firewall_policy", none⟩
  let calls : List (Call Unit) := [.reconcile, .finish ⟨1, true⟩ .panicked, .reconcile,
    .finish ⟨2, true⟩ (.returned failed), .acknowledge 2, .submit]
  let before : List Event := [.admitted 1 true, .finished 1 true .uncertain, .admitted 2 true,
    .finished 2 true .failed]
  let state : System Unit :=
    ⟨⟨⟨.running 3 false false, 3, false⟩, false, some 3⟩, [⟨3, false⟩], before ++ [.admitted 3 false]⟩
  have hrun : (machine Unit).run .initial calls = some state := by decide +kernel
  have hreach : (machine Unit).Reachable .initial := .initial
  refine ⟨state, hreach.run hrun, fun h => ?_⟩
  obtain ⟨r, hr⟩ := h.recovered before 3 [] rfl
  simp [before] at hr

end LocalExecutor

end PocketStream
