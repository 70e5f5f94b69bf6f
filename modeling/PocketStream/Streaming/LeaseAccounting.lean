import PocketStream.Streaming.FirewallHost

/-! # Lease accounting

Every rule that is enabled, or may come to be by an operation on its way, is
the leased one. A call that holds the gate knows the lease, and the operation it
awaits is the last one dispatched.
-/

namespace PocketStream

open Foundation

namespace FirewallHost

/-- The outcome was reported for the operation dispatched under the lease of now. -/
def HasReport (s : FirewallHost) (operation : FirewallOperation) (outcome : FirewallOutcome) :
    Prop :=
  ∃ r ∈ s.reports, r.dispatched.operation = operation ∧ r.dispatched.installs = s.installs ∧
    r.outcome = outcome

/-- No rule is enabled and none is on its way. -/
def Closed (s : FirewallHost) : Prop := s.pending = [] ∧ ∀ role, s.enabled role = false

/-- Every rule that is enabled, or may be by an operation on its way, is the leased one. -/
structure Accounted (s : FirewallHost) : Prop where
  enabled : ∀ role, s.enabled role = true → ∃ g, s.slot.firewallGeneration = some (g, role)
  pending : ∀ d ∈ s.pending,
    d.installs = s.installs ∧ ∃ g, s.slot.firewallGeneration = some (g, d.operation.role)
  fresh : ∀ d ∈ s.pending, d.ticket < s.tickets
  ordered : s.pending.Pairwise fun d d' => d.ticket < d'.ticket
  reported : ∀ r ∈ s.reports, r.dispatched.ticket < s.tickets

/-- The last dispatched operation is on its way after all others, or complete and none is. -/
def Awaits (s : FirewallHost) (d : Dispatched) : Prop :=
  (∃ before, s.pending = before ++ [d]) ∧ s.reportOf d.ticket = none ∨
    s.pending = [] ∧ ∃ outcome, s.reportOf d.ticket = some ⟨d, outcome⟩ ∧
      (d.operation = .disable d.operation.role → outcome = .inactive →
        s.enabled d.operation.role = false)

theorem Accounted.closed {s : FirewallHost} (h : s.Accounted)
    (hn : s.slot.firewallGeneration = none) : s.Closed := by
  constructor
  · rw [List.eq_nil_iff_forall_not_mem]
    intro d hd
    obtain ⟨g, hg⟩ := (h.pending d hd).2
    rw [hn] at hg
    cases hg
  · intro role
    by_contra hr
    obtain ⟨g, hg⟩ := h.enabled role (Bool.eq_true_of_not_eq_false hr)
    rw [hn] at hg
    cases hg

variable {s : FirewallHost} {d : Dispatched} {t : ℕ}

theorem disturb_gate (s : FirewallHost) (i : FirewallEvent) : (s.disturb i).gate = s.gate := by
  cases i with
  | native outcome on =>
    simp only [disturb, complete]
    split <;> rfl
  | relay desired health => rfl
  | startupStatus outcome =>
    simp only [disturb]
    split <;> rfl

theorem disturb_lease (s : FirewallHost) (i : FirewallEvent) :
    (s.disturb i).slot.firewallGeneration = s.slot.firewallGeneration ∧
      (s.disturb i).installs = s.installs := by
  cases i with
  | native outcome on =>
    simp only [disturb, complete]
    split <;> exact ⟨rfl, rfl⟩
  | relay desired health => exact ⟨rfl, rfl⟩
  | startupStatus outcome =>
    simp only [disturb]
    split <;> exact ⟨rfl, rfl⟩

theorem HasReport.disturb {operation : FirewallOperation} {outcome : FirewallOutcome}
    (h : s.HasReport operation outcome) (i : FirewallEvent) :
    (s.disturb i).HasReport operation outcome := by
  obtain ⟨r, hr, ho, hn, hout⟩ := h
  refine ⟨r, ?_, ho, hn.trans (disturb_lease s i).2.symm, hout⟩
  cases i with
  | native outcome on =>
    simp only [FirewallHost.disturb, complete]
    split
    · exact hr
    · exact List.mem_cons_of_mem _ hr
  | relay desired health => exact hr
  | startupStatus outcome =>
    simp only [FirewallHost.disturb]
    split <;> exact hr

theorem Closed.disturb (h : s.Closed) (i : FirewallEvent) : (s.disturb i).Closed := by
  cases i with
  | native outcome on =>
    simp only [FirewallHost.disturb, complete, h.1]
    exact h
  | relay desired health => exact h
  | startupStatus outcome =>
    simp only [FirewallHost.disturb]
    split <;> exact h

theorem Accounted.complete (h : s.Accounted) (outcome : FirewallOutcome) (on : Bool) :
    (s.complete outcome on).Accounted := by
  unfold FirewallHost.complete
  split
  · exact h
  · next d rest hp =>
    have hd : d ∈ s.pending := hp ▸ List.mem_cons_self
    have hrest : ∀ d' ∈ rest, d' ∈ s.pending := fun d' hd' => hp ▸ List.mem_cons_of_mem _ hd'
    refine ⟨fun role hr => ?_, fun d' hd' => h.pending d' (hrest d' hd'),
      fun d' hd' => h.fresh d' (hrest d' hd'), ?_, ?_⟩
    · dsimp only at hr
      split at hr
      · next heq => exact heq ▸ (h.pending d hd).2
      · exact h.enabled role hr
    · exact (List.pairwise_cons.mp (hp ▸ h.ordered)).2
    · intro r hr
      rcases List.mem_cons.mp hr with rfl | hr
      · exact h.fresh d hd
      · exact h.reported r hr

theorem Accounted.disturb (h : s.Accounted) (i : FirewallEvent) : (s.disturb i).Accounted := by
  cases i with
  | native outcome on => exact h.complete outcome on
  | relay desired health => exact ⟨h.enabled, h.pending, h.fresh, h.ordered, h.reported⟩
  | startupStatus outcome =>
    simp only [FirewallHost.disturb]
    split
    · exact ⟨h.enabled, h.pending, h.fresh, h.ordered, h.reported⟩
    · exact h

/-- Operations complete in the order of their dispatch, so the last one completes last. -/
theorem Awaits.complete (hs : s.Accounted) (h : s.Awaits d) (outcome : FirewallOutcome)
    (on : Bool) : (s.complete outcome on).Awaits d := by
  rcases h with ⟨⟨before, hp⟩, hr⟩ | ⟨hp, hr⟩
  · cases before with
    | nil =>
      have hp : s.pending = [d] := hp
      refine .inr ?_
      simp only [FirewallHost.complete, hp]
      refine ⟨trivial, outcome, by simp [reportOf], fun hop ho => ?_⟩
      rw [if_pos trivial, hop, ruleAfter, if_pos ho]
    | cons b bs =>
      have hp : s.pending = b :: (bs ++ [d]) := hp
      have hlt : b.ticket < d.ticket := (List.pairwise_cons.mp (hp ▸ hs.ordered)).1 d (by simp)
      refine .inl ?_
      simp only [FirewallHost.complete, hp]
      refine ⟨⟨bs, rfl⟩, ?_⟩
      simp only [reportOf, List.find?_cons]
      rw [beq_false_of_ne (Nat.ne_of_lt hlt)]
      exact hr
  · refine .inr ?_
    have hc : s.complete outcome on = s := by simp only [FirewallHost.complete, hp]
    rw [hc]
    exact ⟨hp, hr⟩

theorem Awaits.disturb (hs : s.Accounted) (h : s.Awaits d) (i : FirewallEvent) :
    (s.disturb i).Awaits d := by
  cases i with
  | native outcome on => exact h.complete hs outcome on
  | relay desired health => exact h
  | startupStatus outcome =>
    simp only [FirewallHost.disturb]
    split <;> exact h

/-- What an effect of a call needs. -/
def Allows (t : ℕ) (s : FirewallHost) : FirewallHostEffect → Prop
  | .lease e => s.gate = some t ∧
    match e with
    | .readLease | .readOutcome => True
    | .install _ _ => s.slot.firewallGeneration = none
    | .recordEnsured generation role outcome =>
      s.slot.firewallGeneration = some (generation, role) ∧
        ∃ port interface, s.HasReport (.ensure role port interface) outcome
    | .recordDisabled generation role outcome =>
      s.slot.firewallGeneration = some (generation, role) ∧
        s.HasReport (.disable role) outcome ∧ (outcome = .inactive → s.Closed)
  | .lockLifecycle => s.gate ≠ some t
  | .unlockLifecycle => s.gate = some t
  | .dispatch operation => s.gate = some t ∧
    (∃ g, s.slot.firewallGeneration = some (g, operation.role)) ∧
    (operation ≠ .disable operation.role → s.Closed)
  | .await _ => s.gate = some t

/-- While a call holds the gate only what happens around the calls moves the state. -/
def Rely (t : ℕ) (s s' : FirewallHost) : Prop :=
  (s.gate = some t → s' = s ∨ ∃ i, s' = s.disturb i) ∧ (s.gate ≠ some t → s'.gate ≠ some t)

theorem rely_of_other {s' : FirewallHost} {u : ℕ} (hu : u ≠ t) (hg : s.gate = some t)
    (hg' : s'.gate = some t ∨ s'.gate = none) : Rely u s s' := by
  refine ⟨fun h => absurd (Option.some.inj (hg.symm.trans h)).symm hu, fun _ h => ?_⟩
  rcases hg' with h' | h' <;> rw [h'] at h
  · exact hu (Option.some.inj h).symm
  · cases h

theorem Accounted.lease (h : s.Accounted) {e : LeaseEffect} (o : Option String)
    {r : FirewallHostEffect.Reply (.lease e)} {s' : FirewallHost}
    (ha : s.Allows t (.lease e)) (he : s.answer t (.lease e) o = some (r, s')) :
    s'.Accounted ∧ s'.gate = s.gate := by
  cases he
  refine ⟨?_, rfl⟩
  cases e with
  | readLease => exact h
  | readOutcome => exact h
  | install generation role =>
    have hc := h.closed ha.2
    refine ⟨fun r hr => ?_, fun d hd => ?_, h.fresh, h.ordered, h.reported⟩
    · rw [hc.2 r] at hr
      cases hr
    · rw [hc.1] at hd
      cases hd
  | recordEnsured generation role outcome =>
    simp only [FirewallSlot.answer, if_pos ha.2.1]
    exact ⟨h.enabled, h.pending, h.fresh, h.ordered, h.reported⟩
  | recordDisabled generation role outcome =>
    simp only [FirewallSlot.answer, if_pos ha.2.1]
    by_cases ho : outcome = .inactive
    · have hc := ha.2.2.2 ho
      refine ⟨fun r hr => ?_, fun d hd => ?_, h.fresh, h.ordered, h.reported⟩
      · rw [hc.2 r] at hr
        cases hr
      · rw [hc.1] at hd
        cases hd
    · have hl := ha.2.1
      simp only [if_neg ho]
      exact ⟨fun r hr => hl ▸ h.enabled r hr,
        fun d hd => ⟨(h.pending d hd).1, hl ▸ (h.pending d hd).2⟩, h.fresh, h.ordered, h.reported⟩

theorem Accounted.dispatch (h : s.Accounted) {operation : FirewallOperation} {o : Option String}
    {r : FirewallHostEffect.Reply (.dispatch operation)} {s' : FirewallHost}
    (ha : s.Allows t (.dispatch operation))
    (he : s.answer t (.dispatch operation) o = some (r, s')) : s'.Accounted ∧ s'.gate = s.gate := by
  cases o with
  | none =>
    cases he
    refine ⟨⟨h.enabled, fun d hd => ?_, fun d hd => ?_, ?_, fun r hr => ?_⟩, rfl⟩
    · rcases List.mem_append.mp hd with hd | hd
      · exact h.pending d hd
      · cases List.mem_singleton.mp hd
        exact ⟨rfl, ha.2.1⟩
    · rcases List.mem_append.mp hd with hd | hd
      · exact Nat.lt_succ_of_lt (h.fresh d hd)
      · cases List.mem_singleton.mp hd
        exact Nat.lt_succ_self _
    · refine List.pairwise_append.mpr ⟨h.ordered, List.pairwise_singleton _ _, fun d hd d' hd' => ?_⟩
      cases List.mem_singleton.mp hd'
      exact h.fresh d hd
    · exact Nat.lt_succ_of_lt (h.reported r hr)
  | some refusal =>
    cases he
    refine ⟨⟨h.enabled, h.pending, fun d hd => Nat.lt_succ_of_lt (h.fresh d hd), h.ordered,
      fun r hr => ?_⟩, rfl⟩
    rcases List.mem_cons.mp hr with rfl | hr
    · exact Nat.lt_succ_self _
    · exact Nat.lt_succ_of_lt (h.reported r hr)

end FirewallHost

open FirewallHost

def firewallProtocol : Protocol firewallCalls where
  inv := FirewallHost.Accounted
  rely := FirewallHost.Rely
  guard t e s := s.Allows t e
  meets _ _ _ := True
  answer := by
    intro t s e o r s' hi hg _ ha
    cases e with
    | lease e =>
      obtain ⟨hi', hgate⟩ := hi.lease o hg ha
      exact ⟨hi', fun u hu => rely_of_other hu hg.1 (.inl (hgate.trans hg.1))⟩
    | dispatch operation =>
      obtain ⟨hi', hgate⟩ := hi.dispatch hg ha
      exact ⟨hi', fun u hu => rely_of_other hu hg.1 (.inl (hgate.trans hg.1))⟩
    | lockLifecycle =>
      simp only [firewallCalls, answer] at ha
      split at ha
      · next hn =>
        cases ha
        have hn := Option.isNone_iff_eq_none.mp hn
        refine ⟨⟨hi.enabled, hi.pending, hi.fresh, hi.ordered, hi.reported⟩, fun u hu => ?_⟩
        refine ⟨fun h => ?_, fun _ h => hu (Option.some.inj h).symm⟩
        rw [hn] at h
        cases h
      · cases ha
    | unlockLifecycle =>
      cases ha
      exact ⟨⟨hi.enabled, hi.pending, hi.fresh, hi.ordered, hi.reported⟩,
        fun u hu => rely_of_other hu hg (.inr rfl)⟩
    | await ticket =>
      obtain ⟨report, -, hr⟩ := Option.map_eq_some_iff.mp ha
      cases hr
      exact ⟨hi, fun u hu => rely_of_other hu hg (.inl hg)⟩
  disturb := fun {s} i hi =>
    ⟨hi.disturb i, fun u => ⟨fun _ => .inr ⟨i, rfl⟩, fun h => by
      rw [show firewallCalls.disturb s i = s.disturb i from rfl, disturb_gate]
      exact h⟩⟩
  abandon := by
    intro t s s' hi ha
    cases ha
    split
    · next hg =>
      exact ⟨⟨hi.enabled, hi.pending, hi.fresh, hi.ordered, hi.reported⟩,
        fun u hu => rely_of_other hu hg (.inr rfl)⟩
    · exact ⟨hi, fun u _ => ⟨fun _ => .inl rfl, fun h => h⟩⟩

theorem stable_gated {t : ℕ} {A : FirewallHost → Prop} (hgate : ∀ s, A s → s.gate = some t)
    (hA : ∀ s i, s.Accounted → A s → A (s.disturb i)) : firewallProtocol.Stable t A := by
  intro s s' hm hs
  rcases hm.2.2.1 (hgate s hs) with rfl | ⟨i, rfl⟩
  · exact hs
  · exact hA s i hm.1 hs

theorem stable_outside {t : ℕ} : firewallProtocol.Stable t fun s => s.gate ≠ some t :=
  fun _ _ hm hs => hm.2.2.2 hs

/-- The call holds the gate and the lease is known. -/
def Gated (t : ℕ) (lease : Option (UInt64 × FirewallRule)) (s : FirewallHost) : Prop :=
  s.gate = some t ∧ s.slot.firewallGeneration = lease

theorem Gated.disturb {t : ℕ} {lease : Option (UInt64 × FirewallRule)} {s : FirewallHost}
    (h : Gated t lease s) (i : FirewallEvent) : Gated t lease (s.disturb i) :=
  ⟨(disturb_gate s i).trans h.1, (disturb_lease s i).1.trans h.2⟩

theorem stable_leased {t : ℕ} {lease : Option (UInt64 × FirewallRule)} :
    firewallProtocol.Stable t (Gated t lease) :=
  stable_gated (fun _ h => h.1) fun _ i _ h => h.disturb i

section Triples

variable {t : ℕ} {g : UInt64} {lease : Option (UInt64 × FirewallRule)}

/-- A reported operation was dispatched under the lease that is still recorded. -/
theorem firewallRequest_triple (operation : FirewallOperation) :
    firewallProtocol.Triple t
      (fun s => Gated t (some (g, operation.role)) s ∧
        (operation ≠ .disable operation.role → s.Closed))
      (firewallRequest operation)
      (fun outcome s => Gated t (some (g, operation.role)) s ∧ s.HasReport operation outcome ∧
        (operation = .disable operation.role → outcome = .inactive → s.Closed)) := by
  have hpost : ∀ outcome, firewallProtocol.Stable t fun s =>
      Gated t (some (g, operation.role)) s ∧ s.HasReport operation outcome ∧
        (operation = .disable operation.role → outcome = .inactive → s.Closed) := fun outcome =>
    stable_gated (fun _ h => h.1.1) fun _ i _ h =>
      ⟨h.1.disturb i, h.2.1.disturb i, fun ho hi => (h.2.2 ho hi).disturb i⟩
  refine .request (fun reply s => match reply with
      | .error refusal => Gated t (some (g, operation.role)) s ∧
          s.HasReport operation (.unavailable refusal)
      | .ok ticket => Gated t (some (g, operation.role)) s ∧
          s.Awaits ⟨ticket, operation, s.installs⟩) ?_ ?_ ?_ ?_
  · exact stable_gated (fun _ h => h.1.1) fun _ i _ h =>
      ⟨h.1.disturb i, fun ho => (h.2 ho).disturb i⟩
  · exact fun s _ h => ⟨h.1.1, ⟨g, h.1.2⟩, h.2⟩
  · rintro s (_ | refusal) reply s' hi h - ha -
    · cases ha
      refine ⟨h.1, .inl ⟨⟨s.pending, rfl⟩, List.find?_eq_none.mpr fun r hr => ?_⟩⟩
      simpa using Nat.ne_of_lt (hi.reported r hr)
    · cases ha
      exact ⟨h.1, _, List.mem_cons_self, rfl, rfl, rfl⟩
  · rintro (refusal | ticket)
    · refine .done (stable_gated (fun _ h => h.1.1) fun _ i _ h =>
        ⟨h.1.disturb i, h.2.disturb i⟩) fun s _ h => ⟨h.1, h.2, fun _ ho => ?_⟩
      cases ho
    · refine .perform (e := FirewallHostEffect.await ticket) ?_ (fun s _ h => h.1.1) ?_ hpost
      · refine stable_gated (fun _ h => h.1.1) fun s i hi h => ⟨h.1.disturb i, ?_⟩
        rw [(disturb_lease s i).2]
        exact h.2.disturb hi i
      · intro s o outcome s' hi h _ ha _
        obtain ⟨report, hr, he⟩ := Option.map_eq_some_iff.mp ha
        cases he
        rcases h.2 with ⟨-, hn⟩ | ⟨hp, outcome, ho, hoff⟩
        · rw [hn] at hr
          cases hr
        · rw [ho] at hr
          cases hr
          refine ⟨h.1, ⟨_, List.mem_of_find?_eq_some ho, rfl, rfl, rfl⟩, fun hop hin => ⟨hp, ?_⟩⟩
          intro role
          by_contra hon
          obtain ⟨g', hg'⟩ := hi.enabled role (Bool.eq_true_of_not_eq_false hon)
          rw [h.1.2] at hg'
          cases hg'
          exact hon (hoff hop hin)

theorem leaseStep_read (L : Option (UInt64 × FirewallRule)) :
    firewallProtocol.Triple t (Gated t L) (leaseStep .readLease)
      (fun lease s => lease = L ∧ Gated t L s) := by
  refine .perform stable_leased (fun _ _ h => ⟨h.1, trivial⟩) ?_ fun _ =>
    (Protocol.Stable.const _).and stable_leased
  intro s o reply s' _ h _ ha _
  cases ha
  exact ⟨h.2, h⟩

theorem recordEnsured_triple {role : FirewallRule} {outcome : FirewallOutcome} {port : UInt16}
    {interface : Option NativeIdentity} :
    firewallProtocol.Triple t
      (fun s => Gated t (some (g, role)) s ∧ s.HasReport (.ensure role port interface) outcome)
      (leaseStep (.recordEnsured g role outcome)) (fun _ s => s.gate = some t) := by
  refine .perform ?_ (fun s _ h => ⟨h.1.1, h.1.2, port, interface, h.2⟩) ?_ fun _ =>
    stable_gated (fun _ h => h) fun s i _ h => (disturb_gate s i).trans h
  · exact stable_gated (fun _ h => h.1.1) fun _ i _ h => ⟨h.1.disturb i, h.2.disturb i⟩
  · intro s o reply s' _ h _ ha _
    cases ha
    exact h.1.1

theorem recordDisabled_triple {role : FirewallRule} {outcome : FirewallOutcome} :
    firewallProtocol.Triple t
      (fun s => Gated t (some (g, role)) s ∧ s.HasReport (.disable role) outcome ∧
        (outcome = .inactive → s.Closed))
      (leaseStep (.recordDisabled g role outcome))
      (fun _ s => Gated t (if outcome = .inactive then none else some (g, role)) s) := by
  refine .perform ?_ (fun s _ h => ⟨h.1.1, h.1.2, h.2⟩) ?_ fun _ => stable_leased
  · exact stable_gated (fun _ h => h.1.1) fun _ i _ h =>
      ⟨h.1.disturb i, h.2.1.disturb i, fun ho => (h.2.2 ho).disturb i⟩
  · intro s o reply s' _ h _ ha _
    cases ha
    refine ⟨h.1.1, ?_⟩
    simp only [FirewallSlot.answer, if_pos h.1.2]

/-- A retirement that succeeds leaves no lease of its generation. -/
theorem retireFirewallWith_triple (L : Option (UInt64 × FirewallRule)) :
    firewallProtocol.Triple t (Gated t L) (retireFirewallWith leaseStep firewallDisable g)
      (fun retired s => s.gate = some t ∧
        (retired = true → leasedRole L g ≠ none → Gated t none s)) := by
  refine .bind _ (leaseStep_read L) fun lease => .given (fun _ _ h => h.1) ?_
  rintro rfl
  cases hl : leasedRole lease g with
  | none =>
    exact .done ((Protocol.Stable.const _).and stable_leased) fun s _ h =>
      ⟨h.2.1, fun _ hne => absurd rfl hne⟩
  | some role =>
    have hlease := leasedRole_eq_some.mp hl
    refine .bind (fun outcome s => Gated t (some (g, role)) s ∧
        s.HasReport (.disable role) outcome ∧ (outcome = .inactive → s.Closed)) ?_ fun outcome => ?_
    · exact (firewallRequest_triple (.disable role)).conseq
        (fun s _ h => ⟨hlease ▸ h.2, fun hne => absurd rfl hne⟩)
        fun _ s _ h => ⟨h.1, h.2.1, h.2.2 rfl⟩
    · refine .bind _ recordDisabled_triple fun _ => .done stable_leased fun s _ h =>
        ⟨h.1, fun ho _ => ?_⟩
      rwa [if_pos (beq_iff_eq.mp ho)] at h

theorem retirePrior_triple (L : Option (UInt64 × FirewallRule)) :
    firewallProtocol.Triple t (Gated t L) (retirePrior leaseStep firewallDisable L)
      (fun retired s => s.gate = some t ∧ (retired = true → Gated t none s)) := by
  rcases L with _ | ⟨current, role⟩
  · exact .done stable_leased fun _ _ h => ⟨h.1, fun _ => h⟩
  · refine (retireFirewallWith_triple (g := current) (some (current, role))).conseq
      (fun _ _ h => h) fun _ _ _ h => ⟨h.1, fun hr => h.2 hr ?_⟩
    rw [leasedRole_eq_some.mpr rfl]
    exact Option.some_ne_none role

theorem installAndEnsure_triple (spec : ResolvedStartSpec) :
    firewallProtocol.Triple t (Gated t none)
      (installAndEnsure leaseStep firewallEnsure spec g) (fun _ s => s.gate = some t) := by
  have hgate : firewallProtocol.Stable t fun s => s.gate = some t :=
    stable_gated (fun _ h => h) fun s i _ h => (disturb_gate s i).trans h
  refine .bind (fun installed s => s.gate = some t ∧ (installed = true →
      Gated t (some (g, firewallRole spec.protocol)) s ∧ s.Closed)) ?_ fun installed => ?_
  · refine .perform stable_leased (fun _ _ h => ⟨h.1, h.2⟩) ?_ fun installed =>
      stable_gated (fun _ h => h.1) fun s i _ h => ⟨(disturb_gate s i).trans h.1, fun hi =>
        ⟨(h.2 hi).1.disturb i, (h.2 hi).2.disturb i⟩⟩
    intro s o installed s' hi h _ ha _
    have hclosed := hi.closed h.2
    cases ha
    refine ⟨h.1, fun hinst => ⟨⟨h.1, ?_⟩, hclosed⟩⟩
    have hcurrent : s.isGeneration g = true := hinst
    simp only [FirewallSlot.answer, hcurrent, ↓reduceIte]
  · cases installed with
    | false => exact .done (stable_gated (fun _ h => h.1) fun s i _ h =>
        ⟨(disturb_gate s i).trans h.1, fun hf => by cases hf⟩) fun _ _ h => h.1
    | true =>
      refine .bind (fun outcome s => Gated t (some (g, firewallRole spec.protocol)) s ∧
          s.HasReport (.ensure (firewallRole spec.protocol) spec.serverPort spec.bindIdentity)
            outcome) ?_ fun outcome => .bind _ recordEnsured_triple fun _ => .done hgate
              fun _ _ h => h
      exact (firewallRequest_triple (.ensure _ _ _)).conseq (fun s _ h =>
        ⟨(h.2 rfl).1, fun _ => (h.2 rfl).2⟩) fun _ _ _ h => ⟨h.1, h.2.1⟩

theorem applyFirewallWith_triple (L : Option (UInt64 × FirewallRule)) (spec : ResolvedStartSpec) :
    firewallProtocol.Triple t (Gated t L)
      (applyFirewallWith leaseStep firewallEnsure firewallDisable spec g)
      (fun _ s => s.gate = some t) := by
  have hgate : firewallProtocol.Stable t fun s => s.gate = some t :=
    stable_gated (fun _ h => h) fun s i _ h => (disturb_gate s i).trans h
  refine .bind _ (leaseStep_read L) fun prior => .given (fun _ _ h => h.1) ?_
  rintro rfl
  refine .bind (fun retired s => s.gate = some t ∧ (retired = true → Gated t none s))
    ((retirePrior_triple prior).conseq (fun _ _ h => h.2) fun _ _ _ h => h) fun retired => ?_
  cases retired with
  | true => exact (installAndEnsure_triple spec).conseq (fun _ _ h => h.2 rfl) fun _ _ _ h => h
  | false =>
    refine .perform (e := FirewallHostEffect.lease .readOutcome) ?_ (fun _ _ h => ⟨h.1, trivial⟩)
      ?_ fun _ => hgate
    · exact stable_gated (fun _ h => h.1) fun s i _ h =>
        ⟨(disturb_gate s i).trans h.1, fun hf => by cases hf⟩
    · intro s o reply s' _ h _ ha _
      cases ha
      exact h.1

end Triples

theorem underLifecycle_triple {t : ℕ} {α : Type} {body : FirewallProgram α}
    (h : ∀ L, firewallProtocol.Triple t (Gated t L) body fun _ s => s.gate = some t) :
    firewallProtocol.Triple t (fun s => s.gate ≠ some t) (underLifecycle body)
      fun _ s => s.gate ≠ some t := by
  have hgate : firewallProtocol.Stable t fun s => s.gate = some t :=
    stable_gated (fun _ h => h) fun s i _ h => (disturb_gate s i).trans h
  refine .bind (fun _ s => s.gate = some t) ?_ fun _ =>
    .bind (fun _ s => s.gate = some t) (fun s hi hs => h _ s hi ⟨hs, rfl⟩) fun _ =>
      .bind (fun _ s => s.gate ≠ some t) ?_ fun _ => .done stable_outside fun _ _ h => h
  · refine .perform stable_outside (fun _ _ h => h) ?_ fun _ => hgate
    intro s o reply s' _ _ _ ha _
    simp only [firewallCalls, FirewallHost.answer] at ha
    split at ha <;> cases ha
    rfl
  · refine .perform hgate (fun _ _ h => h) ?_ fun _ => stable_outside
    intro s o reply s' _ _ _ ha _
    cases ha
    exact fun h => by cases h

def firewallContract : firewallProtocol.Calls where
  pre _ t s := s.gate ≠ some t
  rest t s := s.gate ≠ some t
  stable _ := stable_outside
  safe k t := by
    have hpost : ∀ next s, s.gate ≠ some t →
        Protocol.Resumes (fun (_ : FirewallCall) t (s : FirewallHost) => s.gate ≠ some t)
          (fun t s => s.gate ≠ some t) t next s := fun next s h => by cases next <;> exact h
    cases k with
    | apply spec generation =>
      exact (underLifecycle_triple fun L => applyFirewallWith_triple L spec).conseq
        (fun _ _ h => h) fun next s _ h => hpost next s h
    | retire generation =>
      refine (underLifecycle_triple fun L => (retireFirewallWith_triple L).conseq (fun _ _ h => h)
        fun _ _ _ h => h.1).conseq (fun _ _ h => h) fun next s _ h => hpost next s h
  abandoned := by
    intro t s s' _ ha
    cases ha
    split
    · exact fun h => by cases h
    · next h => exact h

/-- Every state that the calls reach, with a caller dropped wherever it stops, is accounted for. -/
theorem firewall_sound {c : FirewallHost × Threads FirewallHostEffect FirewallHostEffect.Reply
    FirewallCall} (h : (firewallCalls.machine .new).Reachable c) :
    firewallProtocol.Sound firewallContract c := by
  have hr : (firewallCalls.machine .new).Reaches firewallContract.Admits c := by
    refine h.mono fun c act _ => ?_
    cases act with
    | spawn k => exact fun _ h => h
    | advance t o => exact fun _ _ => trivial
    | abandon t => exact trivial
    | disturb i => exact trivial
  refine .reached ⟨?_, ?_, ?_, .nil, ?_⟩ ?_ hr
  · exact fun role h => by cases h
  · exact fun d hd => by cases hd
  · exact fun d hd => by cases hd
  · exact fun r hr => by cases hr
  · exact fun t h => by cases h

/-- A step changes a recorded lease or its outcome by what was reported under that lease, clears
it after its own disable reported inactive, and installs a lease or dispatches its rule where no
rule is enabled and no operation on its way. -/
structure LeaseStep (s s' : FirewallHost) : Prop where
  recorded : s.slot.firewallGeneration ≠ none → s'.slot ≠ s.slot →
    ∃ operation, s.HasReport operation s'.slot.firewall
  cleared : ∀ g role, s.slot.firewallGeneration = some (g, role) →
    s'.slot.firewallGeneration ≠ some (g, role) →
    s'.slot.firewallGeneration = none ∧ s.HasReport (.disable role) .inactive ∧ s.Closed
  installed : ∀ lease, s'.slot.firewallGeneration = some lease →
    s.slot.firewallGeneration ≠ some lease ∨ s'.installs ≠ s.installs →
    s.slot.firewallGeneration = none ∧ s.Closed
  dispatched : ∀ d ∈ s'.pending, d ∉ s.pending → d.operation ≠ .disable d.operation.role →
    s.Closed ∧ d.installs = s.installs ∧
      ∃ g, s.slot.firewallGeneration = some (g, d.operation.role)

namespace LeaseStep

variable {s s' : FirewallHost} {t : ℕ}

/-- A step that leaves the lease alone and dispatches nothing. -/
theorem of_same (hslot : s.slot.firewallGeneration ≠ none → s'.slot = s.slot)
    (hlease : s'.slot.firewallGeneration = s.slot.firewallGeneration)
    (hinstalls : s'.installs = s.installs) (hpending : ∀ d ∈ s'.pending, d ∈ s.pending) :
    LeaseStep s s' where
  recorded hn hne := absurd (hslot hn) hne
  cleared g role h hne := absurd (hlease.trans h) hne
  installed lease h hne := by
    rcases hne with hne | hne
    · exact absurd (hlease.symm.trans h) hne
    · exact absurd hinstalls hne
  dispatched d hd hn := absurd (hpending d hd) hn

theorem disturb (s : FirewallHost) (i : FirewallEvent) : LeaseStep s (s.disturb i) := by
  refine of_same ?_ (disturb_lease s i).1 (disturb_lease s i).2 ?_
  · intro hn
    cases i with
    | native outcome on =>
      simp only [FirewallHost.disturb, complete]
      split <;> rfl
    | relay desired health => rfl
    | startupStatus outcome =>
      simp only [FirewallHost.disturb, if_neg fun h => hn (Option.isNone_iff_eq_none.mp h)]
  · intro d hd
    cases i with
    | native outcome on =>
      simp only [FirewallHost.disturb, complete] at hd
      split at hd
      · exact hd
      · next hp => exact hp ▸ List.mem_cons_of_mem _ hd
    | relay desired health => exact hd
    | startupStatus outcome =>
      simp only [FirewallHost.disturb] at hd
      split at hd <;> exact hd

theorem lease {e : LeaseEffect} {o : Option String} {r : FirewallHostEffect.Reply (.lease e)}
    (hi : s.Accounted) (ha : s.Allows t (.lease e))
    (he : s.answer t (.lease e) o = some (r, s')) : LeaseStep s s' := by
  cases he
  cases e with
  | readLease => exact of_same (fun _ => rfl) rfl rfl fun _ h => h
  | readOutcome => exact of_same (fun _ => rfl) rfl rfl fun _ h => h
  | install generation role =>
    refine ⟨fun hn => absurd ha.2 hn, fun g r hr => ?_, fun _ _ _ => ⟨ha.2, hi.closed ha.2⟩,
      fun d hd hn => absurd hd hn⟩
    rw [ha.2] at hr
    cases hr
  | recordEnsured generation role outcome =>
    obtain ⟨-, hl, port, interface, hrep⟩ := ha
    refine ⟨fun _ _ => ⟨.ensure role port interface, ?_⟩, fun g r hr hne => absurd ?_ hne, fun lease h hne => absurd hne ?_,
      fun d hd hn => absurd hd hn⟩
    · simpa only [FirewallSlot.answer, if_pos hl] using hrep
    · simpa only [FirewallSlot.answer, if_pos hl] using hr
    · rw [not_or, not_not, not_not]
      exact ⟨by simpa only [FirewallSlot.answer, if_pos hl] using h, rfl⟩
  | recordDisabled generation role outcome =>
    obtain ⟨-, hl, hrep, hclosed⟩ := ha
    refine ⟨fun _ _ => ⟨.disable role, ?_⟩, fun g r hr hne => ?_, fun lease h hne => absurd hne ?_,
      fun d hd hn => absurd hd hn⟩
    · simpa only [FirewallSlot.answer, if_pos hl] using hrep
    · rw [hl] at hr
      cases hr
      by_cases ho : outcome = .inactive
      · exact ⟨by simp only [FirewallSlot.answer, if_pos hl, if_pos ho], ho ▸ hrep, hclosed ho⟩
      · exact absurd (by simp only [FirewallSlot.answer, if_pos hl, if_neg ho]) hne
    · by_cases ho : outcome = .inactive
      · simp only [FirewallSlot.answer, if_pos hl, if_pos ho] at h
        cases h
      · rw [not_or, not_not, not_not]
        simp only [FirewallSlot.answer, if_pos hl, if_neg ho] at h
        exact ⟨hl.trans h, rfl⟩

theorem ofAnswer {e : FirewallHostEffect} {o : Option String} {r : e.Reply} (hi : s.Accounted)
    (ha : s.Allows t e) (he : s.answer t e o = some (r, s')) : LeaseStep s s' := by
  cases e with
  | lease e => exact lease hi ha he
  | lockLifecycle =>
    simp only [FirewallHost.answer] at he
    split at he <;> cases he
    exact of_same (fun _ => rfl) rfl rfl fun _ h => h
  | unlockLifecycle =>
    cases he
    exact of_same (fun _ => rfl) rfl rfl fun _ h => h
  | await ticket =>
    obtain ⟨report, -, hr⟩ := Option.map_eq_some_iff.mp he
    cases hr
    exact of_same (fun _ => rfl) rfl rfl fun _ h => h
  | dispatch operation =>
    cases o with
    | some refusal =>
      cases he
      exact of_same (fun _ => rfl) rfl rfl fun _ h => h
    | none =>
      cases he
      have hsame : LeaseStep s s := of_same (fun _ => rfl) rfl rfl fun _ h => h
      refine ⟨hsame.recorded, hsame.cleared, hsame.installed, fun d hd hn hensure => ?_⟩
      rcases List.mem_append.mp hd with hd | hd
      · exact absurd hd hn
      · cases List.mem_singleton.mp hd
        exact ⟨ha.2.2 hensure, rfl, ha.2.1⟩

end LeaseStep

/-- Every enabled rule is leased in the relay state, and every step keeps the lease's account. -/
theorem firewall_leases_accounted {c : FirewallHost × Threads FirewallHostEffect
    FirewallHostEffect.Reply FirewallCall} (h : (firewallCalls.machine .new).Reachable c) :
    (∀ role, c.1.enabled role = true → ∃ generation,
      c.1.slot.firewallGeneration = some (generation, role)) ∧
    ∀ act, LeaseStep c.1 (firewallCalls.step c act).1 := by
  have hs := firewall_sound h
  refine ⟨hs.inv.enabled, fun act => ?_⟩
  rcases firewallCalls.step_state c act with heq | ⟨t, e, o, r, hissue, ha⟩ | ⟨t, ha⟩ | ⟨i, hd⟩
  · rw [heq]
    exact .of_same (fun _ => rfl) rfl rfl fun _ h => h
  · exact .ofAnswer hs.inv (hs.issued hissue) ha
  · rw [← Option.some.inj ha]
    split <;> exact .of_same (fun _ => rfl) rfl rfl fun _ h => h
  · rw [hd]
    exact .disturb c.1 i

/-- An RTSP listener on every address. -/
def rtspSpec : ResolvedStartSpec where
  source := .udp 5000
  output := .rtsp 8554 "/stream-a"
  bindInterface := none
  bindIdentity := none
  bindScope := .allAddresses [] 0
  bindAddress := none
  advertisedIp := "192.168.1.20"
  username := ""
  password := ""

/-- A start dispatches its rule and is dropped before the rule is enabled. -/
def droppedApply : List (Act (Option String) FirewallEvent FirewallCall) :=
  [.disturb (.relay true (some 7)), .spawn (.apply rtspSpec 7), .advance 0 none, .advance 0 none,
    .advance 0 none, .advance 0 none, .abandon 0,
    .disturb (.native (.applied "PocketStream.RTSP.Inbound.v2" .created true []) true)]

theorem firewall_leases_accounted_dropped :
    (firewallCalls.run (.new, []) droppedApply).1.enabled .rtsp = true ∧
      ∃ generation, (firewallCalls.run (.new, []) droppedApply).1.slot.firewallGeneration =
        some (generation, .rtsp) :=
  have henabled : (firewallCalls.run (.new, []) droppedApply).1.enabled .rtsp = true := by
    decide +kernel
  ⟨henabled, (firewall_leases_accounted (firewallCalls.reachable_run .new droppedApply)).1 _ henabled⟩

end PocketStream
