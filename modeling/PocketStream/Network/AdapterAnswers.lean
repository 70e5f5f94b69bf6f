import PocketStream.Network.AdapterCache

/-! # What the adapter snapshot answers

Each step of a caller brings its answer nearer, and the mutex of the topology keeps a
qualification from being published over an invalidation.
-/

namespace PocketStream

open Foundation

namespace AdapterSnapshot

variable {α β ε : Type} {s s' : AdapterSnapshot α β ε} {g g' : Get α ε} {i j : ℕ}
  {call : Call α β ε}

def Qualifying.Sound (advances : ℕ) : Qualifying → Prop
  | .loaded generation l => generation = UInt64.ofNat l ∧ l ≤ advances
  | .begun generation l b => generation = UInt64.ofNat l ∧ l ≤ advances ∧ l ≤ b
  | .handed => True

theorem Qualifying.Sound.mono {q : Qualifying} {m n : ℕ} (h : q.Sound m) (hle : m ≤ n) :
    q.Sound n := by
  cases q with
  | loaded generation loaded => exact ⟨h.1, Nat.le_trans h.2 hle⟩
  | begun generation loaded begun => exact ⟨h.1, Nat.le_trans h.2.1 hle, h.2.2⟩
  | handed => trivial

/-- At most the invalidation of the holder is under way, and a publisher holds off the others. -/
def Exclusive (completed advances : ℕ) : Option (Holder β) → Prop
  | none | some (.observer .advance) | some (.observer .done) => completed = advances
  | some (.observer .clearValue) | some (.observer .clearQualified) => completed + 1 = advances
  | some (.publisher generation loaded begun _ checked) =>
    completed = advances ∧ (Qualifying.begun generation loaded begun).Sound advances ∧
      (checked = true → loaded = advances)

/-- The mutex of the topology and what is published under it. -/
structure Publishes (s : AdapterSnapshot α β ε) : Prop where
  bare : s.bare = []
  qualifying : ∀ q ∈ s.qualifying, q.Sound s.advances
  topology : Exclusive s.completed s.advances s.topology
  qualified : ∀ q ∈ s.qualified, s.completed ≤ q.2

theorem publishes_initial : (initial : AdapterSnapshot α β ε).Publishes where
  bare := rfl
  qualifying := nofun
  topology := rfl
  qualified := nofun

/-- A step of a `get` is none of the mutex of the topology. -/
theorem Moves.publishes (hm : s.Moves i g s' g') (h : s.Publishes) : s'.Publishes := by
  rw [hm.others]
  exact ⟨h.bare, h.qualifying, h.topology, h.qualified⟩

theorem Publishes.retireObserved {stage : RetireStage} (h : s.Publishes)
    (ht : s.topology = some (.observer stage)) :
    ({ s.retire stage with topology := some (.observer stage.next) } :
      AdapterSnapshot α β ε).Publishes := by
  have htopology := h.topology
  rw [ht] at htopology
  cases stage with
  | advance =>
    refine ⟨h.bare, fun q hq => (h.qualifying q hq).mono (Nat.le_succ _), ?_, h.qualified⟩
    exact congrArg (· + 1) htopology
  | clearValue => exact ⟨h.bare, h.qualifying, htopology, h.qualified⟩
  | clearQualified => exact ⟨h.bare, h.qualifying, htopology, nofun⟩
  | done => exact ⟨h.bare, h.qualifying, htopology, h.qualified⟩

/-- Under the mutex the generation is still that read before the query. -/
theorem Publishes.compare {generation : UInt64} {loaded begun : ℕ} {qualified : β}
    (h : s.Publishes) (hserves : s.Serves)
    (ht : s.topology = some (.publisher generation loaded begun qualified false))
    (hsame : generation = s.generation) :
    ({ s with topology := some (.publisher generation loaded begun qualified true) } :
      AdapterSnapshot α β ε).Publishes := by
  have htopology := h.topology
  rw [ht] at htopology
  obtain ⟨hcompleted, ⟨hgeneration, hloaded, hbegun⟩, -⟩ := htopology
  refine ⟨h.bare, h.qualifying, ⟨hcompleted, ⟨hgeneration, hloaded, hbegun⟩, fun _ => ?_⟩,
    h.qualified⟩
  refine ofNat_inj (Nat.lt_of_le_of_lt hloaded hserves.bound) hserves.bound ?_
  rw [← hgeneration, hsame, hserves.generation]

theorem Publishes.storeQualified {generation : UInt64} {loaded begun : ℕ} {qualified : β}
    (h : s.Publishes)
    (ht : s.topology = some (.publisher generation loaded begun qualified true)) :
    ({ s with qualified := some (qualified, begun), topology := none } :
      AdapterSnapshot α β ε).Publishes := by
  have htopology := h.topology
  rw [ht] at htopology
  obtain ⟨hcompleted, ⟨-, -, hbegun⟩, hchecked⟩ := htopology
  refine ⟨h.bare, h.qualifying, hcompleted, fun q hq => ?_⟩
  obtain rfl := Option.some.inj hq
  have hloaded := hchecked rfl
  change s.completed ≤ begun
  omega

theorem Serialized.bounded (h : Serialized s call) : Bounded s call := by
  cases call with
  | invalidate => exact h.elim
  | _ => exact h

theorem Publishes.step (h : s.Publishes) (hserves : s.Serves) (ha : Serialized s call)
    (hs : step s call = some s') : s'.Publishes := by
  rcases Call.caller_cases hs with ⟨i, g, -, hg, hs⟩ | hcaller
  · obtain ⟨g', hm⟩ := moves_stepGet hserves hg hs
    exact hm.publishes h
  have hbegan (i : ℕ) (q : Qualifying) (hq : s.qualifying[i]? = some q) : q.Sound s.advances :=
    h.qualifying q (List.mem_of_getElem? hq)
  have hset (i : ℕ) (q : Qualifying) (hq : q.Sound s.advances) :
      ∀ x ∈ s.qualifying.set i q, x.Sound s.advances := by
    intro x hx
    rcases List.mem_or_eq_of_mem_set hx with hx | rfl
    · exact h.qualifying x hx
    · exact hq
  cases call with
  | look | lock | load | beginQuery | complete | store | expire => cases hcaller
  | tick | get =>
    obtain rfl := Option.some.inj hs
    exact ⟨h.bare, h.qualifying, h.topology, h.qualified⟩
  | invalidate => exact ha.elim
  | retire i =>
    obtain ⟨stage, hstage, -⟩ := Option.map_eq_some_iff.mp hs
    rw [h.bare] at hstage
    cases hstage
  | observe =>
    obtain ⟨hfree, hs⟩ := Option.ite_none_right_eq_some.mp hs
    obtain rfl := Option.some.inj hs
    have htopology := h.topology
    rw [Option.isNone_iff_eq_none.mp hfree] at htopology
    exact ⟨h.bare, h.qualifying, htopology, h.qualified⟩
  | retireObserved =>
    unfold AdapterSnapshot.step at hs
    dsimp only at hs
    split at hs
    next stage ht =>
      obtain rfl := Option.some.inj hs
      exact h.retireObserved ht
    · cases hs
  | observed =>
    unfold AdapterSnapshot.step at hs
    dsimp only at hs
    have htopology := h.topology
    split at hs
    case h_1 ht | h_2 ht =>
      obtain rfl := Option.some.inj hs
      rw [ht] at htopology
      exact ⟨h.bare, h.qualifying, htopology, h.qualified⟩
    case h_3 => cases hs
  | capture =>
    obtain rfl := Option.some.inj hs
    refine ⟨h.bare, fun q hq => ?_, h.topology, h.qualified⟩
    rcases List.mem_append.mp hq with hq | hq
    · exact h.qualifying q hq
    · rw [List.mem_singleton.mp hq]
      exact ⟨hserves.generation, Nat.le_refl _⟩
  | beginQualifying i =>
    unfold AdapterSnapshot.step at hs
    dsimp only at hs
    split at hs
    next generation loaded hq =>
      obtain rfl := Option.some.inj hs
      obtain ⟨hgeneration, hloaded⟩ := hbegan i _ hq
      exact ⟨h.bare, hset i _ ⟨hgeneration, hloaded, hloaded⟩, h.topology, h.qualified⟩
    · cases hs
  | publish i qualified =>
    unfold AdapterSnapshot.step at hs
    dsimp only at hs
    split at hs
    next generation loaded begun hq ht =>
      obtain rfl := Option.some.inj hs
      have htopology := h.topology
      rw [ht] at htopology
      exact ⟨h.bare, hset i _ trivial, ⟨htopology, hbegan i _ hq, nofun⟩, h.qualified⟩
    · cases hs
  | compare =>
    unfold AdapterSnapshot.step at hs
    dsimp only at hs
    split at hs
    next generation loaded begun qualified ht =>
      split at hs
      next hsame =>
        obtain rfl := Option.some.inj hs
        exact h.compare hserves ht hsame
      · obtain rfl := Option.some.inj hs
        have htopology := h.topology
        rw [ht] at htopology
        exact ⟨h.bare, h.qualifying, htopology.1, h.qualified⟩
    · cases hs
  | storeQualified =>
    unfold AdapterSnapshot.step at hs
    dsimp only at hs
    split at hs
    next generation loaded begun qualified ht =>
      obtain rfl := Option.some.inj hs
      exact h.storeQualified ht
    · cases hs

theorem publishes_of_reaches (h : machine.Reaches Serialized s) : s.Serves ∧ s.Publishes :=
  h.invariant (P := fun s => s.Serves ∧ s.Publishes) (Q := fun _ => True) (fun _ _ => trivial)
    ⟨serves_initial, publishes_initial⟩ fun _ _ _ _ h ha hs =>
      ⟨h.1.step ha.bounded hs, h.2.step h.1 ha hs⟩

/-- A `get` keeps its place, and each of its steps brings its answer nearer. -/
theorem stepsLeft_step (h : s.Serves) (hg : s.gets[i]? = some g) (hs : step s call = some s') :
    ∃ g', s'.gets[i]? = some g' ∧
      g'.stepsLeft + (if call.caller = some i then 1 else 0) ≤ g.stepsLeft := by
  rcases Call.caller_cases hs with ⟨j, x, hcaller, hx, hs⟩ | hcaller
  · obtain ⟨x', hm⟩ := moves_stepGet h hx hs
    have hgets : s'.gets = s.gets.set j x' := by rw [hm.others]
    rw [hgets, hcaller]
    by_cases hj : j = i
    · subst hj
      obtain rfl := Option.some.inj (hg.symm.trans hx)
      have hlt := (List.getElem?_eq_some_iff.mp hg).1
      exact ⟨x', List.getElem?_set_self hlt, by rw [if_pos rfl]; exact hm.less⟩
    · have hne : some j ≠ some i := fun hji => hj (Option.some.inj hji)
      exact ⟨g, (List.getElem?_set_ne hj).trans hg, by rw [if_neg hne]; exact Nat.le_refl _⟩
  · obtain ⟨new, hgets, -⟩ := (leaves_step hcaller hs).gets
    have hlt := (List.getElem?_eq_some_iff.mp hg).1
    refine ⟨g, ?_, by simp [hcaller]⟩
    rw [hgets, List.getElem?_append_left hlt, hg]

theorem stepsLeft_run {calls : List (Call α β ε)} (h : s.Serves) (hg : s.gets[i]? = some g)
    (ha : machine.Admits Bounded s calls) (hr : machine.run s calls = some s') :
    ∃ g', s'.gets[i]? = some g' ∧
      g'.stepsLeft + calls.countP (fun call => call.caller = some i) ≤ g.stepsLeft := by
  induction calls generalizing s g with
  | nil =>
    obtain rfl := Option.some.inj hr
    exact ⟨g, hg, Nat.le_refl _⟩
  | cons call calls ih =>
    obtain ⟨s₁, hs, hr⟩ := Option.bind_eq_some_iff.mp hr
    obtain ⟨g₁, hg₁, hnear⟩ := stepsLeft_step h hg hs
    obtain ⟨g', hg', hleft⟩ := ih (h.step ha.1 hs) hg₁ (ha.2 s₁ hs) hr
    refine ⟨g', hg', ?_⟩
    rw [List.countP_cons]
    simp only [decide_eq_true_eq]
    omega

theorem Get.answered_of_stepsLeft (h : g.stepsLeft = 0) : ∃ answer, g.phase = .answered answer := by
  unfold Get.stepsLeft at h
  split at h
  case h_8 answer hp => exact ⟨answer, hp⟩
  all_goals cases h

theorem Get.stepsLeft_le (g : Get α ε) : g.stepsLeft ≤ 7 := by
  unfold Get.stepsLeft
  split <;> omega

/-- From its deadline on a `get` waits for nothing. -/
theorem unaided_enabled (hg : s.gets[i]? = some g)
    (hlate : g.calledAt + adapterQueryDeadline ≤ s.now) :
    (∃ answer, g.phase = .answered answer) ∨
      ∃ call : Call α β ε, call.caller = some i ∧ call.unaided ∧ (machine.step s call).isSome := by
  cases hp : g.phase with
  | called =>
    refine .inr ⟨.look i, rfl, rfl, ?_⟩
    cases hv : s.cached <;> simp [machine, step, stepGet, hg, hp, hv]
  | waiting => exact .inr ⟨.expire i, rfl, rfl, by simp [machine, step, stepGet, hg, hp, hlate]⟩
  | locked =>
    refine .inr ⟨.look i, rfl, rfl, ?_⟩
    cases hv : s.cached <;> simp [machine, step, stepGet, hg, hp, hv]
  | missed => exact .inr ⟨.load i, rfl, rfl, by simp [machine, step, stepGet, hg, hp]⟩
  | loaded generation loaded =>
    exact .inr ⟨.beginQuery i, rfl, rfl, by simp [machine, step, stepGet, hg, hp]⟩
  | querying generation loaded begun =>
    exact .inr ⟨.expire i, rfl, rfl, by simp [machine, step, stepGet, hg, hp, hlate]⟩
  | queried generation loaded begun adapters =>
    refine .inr ⟨.store i, rfl, rfl, ?_⟩
    by_cases hsame : generation = s.generation <;> simp [machine, step, stepGet, hg, hp, hsame]
  | answered answer => exact .inl ⟨answer, rfl⟩

/-- Under any interleaving a `get` is answered with data or an error of a query begun after every
advance before its call, or told of an advance since its own read of the generation, or of its
deadline: in seven steps of its own, and from the deadline on it waits neither for a query nor for
another caller. One query is in flight at a time. Under the mutex of the topology, what is
qualified is of a query begun after every completed invalidation. -/
theorem snapshot_serves (h : machine.Reaches Bounded s) :
    (∀ g ∈ s.gets, ∀ answer, g.phase = .answered answer → answer.Allowed g s.now) ∧
      (∀ (i j : ℕ) (g g' : Get α ε), s.gets[i]? = some g → s.gets[j]? = some g' →
        g.Querying → g'.Querying → i = j) ∧
      (∀ i g, s.gets[i]? = some g →
        (∀ calls s', machine.Admits Bounded s calls → machine.run s calls = some s' →
          7 ≤ calls.countP (fun call => call.caller = some i) →
          ∃ g' answer, s'.gets[i]? = some g' ∧ g'.phase = .answered answer) ∧
        (g.calledAt + adapterQueryDeadline ≤ s.now → (∃ answer, g.phase = .answered answer) ∨
          ∃ call : Call α β ε,
            call.caller = some i ∧ call.unaided ∧ (machine.step s call).isSome)) ∧
      (machine.Reaches Serialized s → ∀ q ∈ s.qualified, s.completed ≤ q.2) := by
  have hserves := serves_of_reaches h
  refine ⟨fun g hg answer hp => ?_, fun i j g g' hg hg' hq hq' => ?_,
    fun i g hg => ⟨fun calls s' ha hr hcount => ?_, unaided_enabled hg⟩,
    fun hserialized => (publishes_of_reaches hserialized).2.qualified⟩
  · obtain ⟨i, hg⟩ := List.mem_iff_getElem?.mp hg
    have hphase := (hserves.gets i g hg).2
    rwa [hp] at hphase
  · have hi := hserves.refresh i g hg hq.holds
    have hj := hserves.refresh j g' hg' hq'.holds
    exact Option.some.inj (hi.symm.trans hj)
  · obtain ⟨g', hg', hleft⟩ := stepsLeft_run hserves hg ha hr
    have hbound := g.stepsLeft_le
    obtain ⟨answer, hp⟩ := Get.answered_of_stepsLeft (g := g') (by omega)
    exact ⟨g', answer, hg', hp⟩

/-- An invalidation, a qualification and a `get` after it, and another `get`. -/
theorem snapshot_serves_cached :
    ∃ s : AdapterSnapshot ℕ ℕ ℕ, s.completed = 1 ∧ s.qualified = some (7, 1) ∧
      (∀ g ∈ s.gets, ∀ answer, g.phase = .answered answer → answer.Allowed g s.now) ∧
      (∃ g ∈ s.gets, g.advances = 1 ∧ g.phase = .answered (.adapters 5 1)) ∧
      ∀ q ∈ s.qualified, s.completed ≤ q.2 := by
  let calls : List (Call ℕ ℕ ℕ) := [.observe, .retireObserved, .retireObserved, .retireObserved,
    .observed, .capture, .beginQualifying 0, .publish 0 7, .compare, .storeQualified, .get,
    .look 0, .lock 0, .look 0, .load 0, .beginQuery 0, .complete 0 (.ok 5), .store 0, .get, .look 1]
  let s := (machine.run initial calls).get (by decide)
  have hr : machine.run initial calls = some s := (Option.some_get _).symm
  have hbounded : machine.Reaches Bounded s := .run .initial (by decide) hr
  have hserialized : machine.Reaches Serialized s := .run .initial (by decide) hr
  obtain ⟨hanswers, -, -, hqualified⟩ := snapshot_serves hbounded
  exact ⟨s, rfl, rfl, hanswers, ⟨_, .tail _ (.head _), rfl, rfl⟩, hqualified hserialized⟩

section Overtaken

/-- An invalidation of an observer. -/
def invalidation : List (Call α β ε) :=
  [.observe, .retireObserved, .retireObserved, .retireObserved, .observed]

theorem ticks_reaches (h : machine.Reaches Serialized s) (n : ℕ) :
    machine.Reaches Serialized { s with now := s.now + n } := by
  induction n with
  | zero => exact h
  | succ n ih =>
    refine .step ih ?_ (show machine.step _ .tick = some _ from rfl)
    exact trivial

theorem expire_reaches {advances calledAt : ℕ} (h : machine.Reaches Serialized s)
    (hg : s.gets[i]? = some ⟨advances, calledAt, .waiting⟩)
    (hlate : calledAt + adapterQueryDeadline ≤ s.now) :
    machine.Reaches Serialized (s.answer i ⟨advances, calledAt, .waiting⟩ .timeout) := by
  have hs : machine.step s (.expire i) =
      some (s.answer i ⟨advances, calledAt, .waiting⟩ .timeout) := by
    simp [machine, step, stepGet, hg, hlate]
  refine .step h ?_ hs
  exact trivial

theorem invalidations_reachable (h : machine.Reachable s) (ht : s.topology = none)
    (hv : s.value = none) (hq : s.qualified = none) (n : ℕ) :
    machine.Reachable { s with
      generation := s.generation + UInt64.ofNat n
      advances := s.advances + n
      completed := s.completed + n } := by
  obtain ⟨value, refresh, generation, qualified, topology, now, advances⟩ := s
  subst ht hv hq
  induction n with
  | zero => simpa using h
  | succ n ih =>
    have hnext : generation + UInt64.ofNat (n + 1) = generation + UInt64.ofNat n + 1 := by
      rw [UInt64.ofNat_add, ← UInt64.add_assoc]
      rfl
    dsimp only
    rw [hnext]
    exact ih.run (show machine.run _ invalidation = some _ from rfl)

/-- A bare invalidation comes between the comparison of a publication and its store. The query of
a `get` is overtaken. A `get` waits for `refresh` to its deadline. The generation comes round. -/
theorem snapshot_overtaken :
    (∃ s : AdapterSnapshot ℕ ℕ ℕ, machine.Reaches Bounded s ∧ s.completed = 1 ∧
      s.qualified = some (7, 0) ∧ s.gets.map Get.advances = [1]) ∧
    (∃ s : AdapterSnapshot ℕ ℕ ℕ, machine.Reaches Serialized s ∧
      s.gets.map Get.phase = [.answered (.changed 0 1)]) ∧
    (∃ s : AdapterSnapshot ℕ ℕ ℕ, machine.Reaches Serialized s ∧ s.advances = 0 ∧
      s.gets.map Get.phase = [.querying 0 0 0, .answered .timeout]) ∧
    ∃ s : AdapterSnapshot ℕ ℕ ℕ, machine.Reachable s ∧ s.bare = [] ∧ s.completed = 2 ^ 64 ∧
      s.qualified = some (7, 0) ∧
      s.gets.map (fun g => (g.advances, g.phase)) =
        [(0, .answered (.adapters 5 0)), (2 ^ 64, .answered (.adapters 5 0))] := by
  refine ⟨?_, ?_, ?_, ?_⟩
  · let calls : List (Call ℕ ℕ ℕ) := [.capture, .beginQualifying 0, .publish 0 7, .compare,
      .invalidate, .retire 0, .retire 0, .retire 0, .storeQualified, .get]
    have ha : machine.Admits Bounded initial calls := by decide
    exact ⟨_, .run .initial ha rfl, rfl, rfl, rfl⟩
  · let calls : List (Call ℕ ℕ ℕ) := [.get, .look 0, .lock 0, .look 0, .load 0, .beginQuery 0] ++
      invalidation ++ [.complete 0 (.ok 5), .store 0]
    have ha : machine.Admits Serialized initial calls := by decide
    exact ⟨_, .run .initial ha rfl, rfl⟩
  · let calls : List (Call ℕ ℕ ℕ) := [.get, .look 0, .lock 0, .look 0, .load 0, .beginQuery 0,
      .get, .look 1]
    have ha : machine.Admits Serialized initial calls := by decide
    have hwaits := ticks_reaches (.run .initial ha rfl) adapterQueryDeadline
    exact ⟨_, expire_reaches (i := 1) hwaits rfl (Nat.le_refl _), rfl, rfl⟩
  · let begins : List (Call ℕ ℕ ℕ) := [.get, .look 0, .lock 0, .look 0, .load 0, .beginQuery 0,
      .capture, .beginQualifying 0]
    let ends : List (Call ℕ ℕ ℕ) := [.publish 0 7, .compare, .storeQualified,
      .complete 0 (.ok 5), .store 0, .get, .look 1]
    have hbegins : machine.Reachable _ :=
      .run .initial (show machine.run _ begins = some _ from rfl)
    have hround := invalidations_reachable hbegins rfl rfl rfl (2 ^ 64)
    exact ⟨_, hround.run (show machine.run _ ends = some _ from rfl), rfl, rfl, rfl, rfl⟩

end Overtaken

end AdapterSnapshot

end PocketStream
