import PocketStream.Network.AdapterSnapshot

/-! # What the adapter snapshot keeps

A result that is kept has the generation read before its query began, so a caller that
finds it under the same generation is served by a query begun after every advance before
its call.
-/

namespace PocketStream

open Foundation

namespace AdapterSnapshot

variable {α β ε : Type} {s s' : AdapterSnapshot α β ε} {g g' : Get α ε} {i j : ℕ}
  {call : Call α β ε}

/-- Data or an error of a query begun after every advance before the call, an advance since the
call's own read of the generation, or the deadline. -/
def Answer.Allowed (g : Get α ε) (now : ℕ) : Answer α ε → Prop
  | .adapters _ begun | .failed _ begun => g.advances ≤ begun
  | .changed loaded found => g.advances ≤ loaded ∧ loaded < found
  | .timeout => g.calledAt + adapterQueryDeadline ≤ now

namespace Get

def Sound (s : AdapterSnapshot α β ε) (g : Get α ε) : Prop :=
  g.advances ≤ s.advances ∧
    match g.phase with
    | .called | .waiting | .locked | .missed => True
    | .loaded generation loaded =>
      generation = UInt64.ofNat loaded ∧ g.advances ≤ loaded ∧ loaded ≤ s.advances
    | .querying generation loaded begun | .queried generation loaded begun _ =>
      generation = UInt64.ofNat loaded ∧ g.advances ≤ loaded ∧ loaded ≤ begun ∧ loaded ≤ s.advances
    | .answered answer => answer.Allowed g s.now

/-- It holds `refresh`. -/
def Holds (g : Get α ε) : Prop :=
  match g.phase with
  | .locked | .missed | .loaded _ _ | .querying _ _ _ | .queried _ _ _ _ => True
  | .called | .waiting | .answered _ => False

def Querying (g : Get α ε) : Prop :=
  match g.phase with
  | .querying _ _ _ => True
  | _ => False

/-- How many steps it makes at most. -/
def stepsLeft (g : Get α ε) : ℕ :=
  match g.phase with
  | .called => 7
  | .waiting => 6
  | .locked => 5
  | .missed => 4
  | .loaded _ _ => 3
  | .querying _ _ _ => 2
  | .queried _ _ _ _ => 1
  | .answered _ => 0

theorem Querying.holds (h : g.Querying) : g.Holds := by
  unfold Querying at h
  unfold Holds
  split at h <;> simp_all

theorem Sound.mono (h : g.Sound s) (hadvances : s.advances ≤ s'.advances) (hnow : s.now ≤ s'.now) :
    g.Sound s' := by
  obtain ⟨hcalled, hphase⟩ := h
  refine ⟨Nat.le_trans hcalled hadvances, ?_⟩
  cases hp : g.phase with
  | called | waiting | locked | missed => trivial
  | loaded generation loaded =>
    rw [hp] at hphase
    exact ⟨hphase.1, hphase.2.1, Nat.le_trans hphase.2.2 hadvances⟩
  | querying generation loaded begun | queried generation loaded begun adapters =>
    rw [hp] at hphase
    exact ⟨hphase.1, hphase.2.1, hphase.2.2.1, Nat.le_trans hphase.2.2.2 hadvances⟩
  | answered answer =>
    rw [hp] at hphase
    cases answer with
    | timeout => exact Nat.le_trans hphase hnow
    | adapters | failed | changed => exact hphase

end Get

/-- The cache and its callers. -/
structure Serves (s : AdapterSnapshot α β ε) : Prop where
  generation : s.generation = UInt64.ofNat s.advances
  bound : s.advances < 2 ^ 64
  value : ∀ v ∈ s.value, v.generation = UInt64.ofNat v.loaded ∧ v.loaded ≤ v.begun ∧
    v.loaded ≤ s.advances
  gets : ∀ (i : ℕ) (g : Get α ε), s.gets[i]? = some g → g.Sound s
  refresh : ∀ (i : ℕ) (g : Get α ε), s.gets[i]? = some g → g.Holds → s.refresh = some i

theorem ofNat_inj {a b : ℕ} (ha : a < 2 ^ 64) (hb : b < 2 ^ 64)
    (h : UInt64.ofNat a = UInt64.ofNat b) : a = b := by
  have hnat := congrArg UInt64.toNat h
  rwa [UInt64.toNat_ofNat_of_lt' ha, UInt64.toNat_ofNat_of_lt' hb] at hnat

theorem serves_initial : (initial : AdapterSnapshot α β ε).Serves where
  generation := rfl
  bound := Nat.two_pow_pos 64
  value := nofun
  gets _ _ h := by cases h
  refresh _ _ h := by cases h

/-- What is cached is of a query begun after every advance. -/
theorem Serves.cached (h : s.Serves) {v : CachedAdapters α} (hv : s.cached = some v) :
    s.advances ≤ v.begun := by
  obtain ⟨hvalue, hfresh⟩ := Option.filter_eq_some_iff.mp hv
  obtain ⟨hgeneration, hbegun, hle⟩ := h.value v hvalue
  have hsame : v.generation = s.generation := by
    have := ((Bool.and_eq_true _ _).mp hfresh).1
    exact eq_of_beq this
  have heq : v.loaded = s.advances := by
    refine ofNat_inj (Nat.lt_of_le_of_lt hle h.bound) h.bound ?_
    rw [← hgeneration, hsame, h.generation]
  omega

/-- What a step of a `get` leaves, and what it does with the cache. -/
structure Moves (s : AdapterSnapshot α β ε) (i : ℕ) (g : Get α ε) (s' : AdapterSnapshot α β ε)
    (g' : Get α ε) : Prop where
  others : s' = { s with
    gets := s.gets.set i g'
    value := s'.value
    refresh := s'.refresh }
  advances : g'.advances = g.advances
  calledAt : g'.calledAt = g.calledAt
  less : g'.stepsLeft < g.stepsLeft
  sound : g'.Sound s
  value : ∀ v ∈ s'.value, v ∈ s.value ∨ v.generation = UInt64.ofNat v.loaded ∧
    v.loaded ≤ v.begun ∧ v.loaded ≤ s.advances
  holds : g'.Holds → s'.refresh = some i
  refresh : ∀ j, j ≠ i → s.refresh = some j → s'.refresh = some j

section Steps

variable {advances calledAt : ℕ} {before after : Phase α ε}

/-- A step that neither takes nor leaves the mutex. -/
theorem moves_setPhase (hless : (⟨advances, calledAt, after⟩ : Get α ε).stepsLeft <
      (⟨advances, calledAt, before⟩ : Get α ε).stepsLeft)
    (hsound : (⟨advances, calledAt, after⟩ : Get α ε).Sound s)
    (hholds : (⟨advances, calledAt, after⟩ : Get α ε).Holds → s.refresh = some i) :
    s.Moves i ⟨advances, calledAt, before⟩ (s.setPhase i ⟨advances, calledAt, before⟩ after)
      ⟨advances, calledAt, after⟩ where
  others := rfl
  advances := rfl
  calledAt := rfl
  less := hless
  sound := hsound
  value _ hv := .inl hv
  holds := hholds
  refresh _ _ h := h

theorem moves_answer {answer : Answer α ε}
    (hleft : 0 < (⟨advances, calledAt, before⟩ : Get α ε).stepsLeft)
    (hcalled : advances ≤ s.advances)
    (hallowed : answer.Allowed (⟨advances, calledAt, before⟩ : Get α ε) s.now) :
    s.Moves i ⟨advances, calledAt, before⟩ (s.answer i ⟨advances, calledAt, before⟩ answer)
      ⟨advances, calledAt, .answered answer⟩ where
  others := rfl
  advances := rfl
  calledAt := rfl
  less := hleft
  sound := ⟨hcalled, by cases answer <;> exact hallowed⟩
  value _ hv := .inl hv
  holds := False.elim
  refresh j hj h := by
    have hother : s.refresh ≠ some i := fun hi => hj (Option.some.inj (h.symm.trans hi))
    exact (if_neg hother).trans h

end Steps

theorem moves_stepGet (h : s.Serves) (hg : s.gets[i]? = some g)
    (hs : s.stepGet i g call = some s') : ∃ g', s.Moves i g s' g' := by
  obtain ⟨hcalled, hphase⟩ := h.gets i g hg
  have hrefresh := h.refresh i g hg
  obtain ⟨advances, calledAt, phase⟩ := g
  cases call with
  | look k =>
    cases phase with
    | called =>
      cases hv : s.cached with
      | some v =>
        simp only [stepGet, hv, Option.some.injEq] at hs
        subst hs
        exact ⟨_, moves_answer (by simp [Get.stepsLeft]) hcalled
          (Nat.le_trans hcalled (h.cached hv))⟩
      | none =>
        simp only [stepGet, hv, Option.some.injEq] at hs
        subst hs
        exact ⟨_, moves_setPhase (by simp [Get.stepsLeft]) ⟨hcalled, trivial⟩ False.elim⟩
    | locked =>
      cases hv : s.cached with
      | some v =>
        simp only [stepGet, hv, Option.some.injEq] at hs
        subst hs
        exact ⟨_, moves_answer (by simp [Get.stepsLeft]) hcalled
          (Nat.le_trans hcalled (h.cached hv))⟩
      | none =>
        simp only [stepGet, hv, Option.some.injEq] at hs
        subst hs
        exact ⟨_, moves_setPhase (by simp [Get.stepsLeft]) ⟨hcalled, trivial⟩
          fun _ => hrefresh trivial⟩
    | _ => cases hs
  | lock k =>
    cases phase with
    | waiting =>
      cases hr : s.refresh with
      | some j => simp only [stepGet, hr, reduceCtorEq] at hs
      | none =>
        simp only [stepGet, hr, Option.some.injEq] at hs
        subst hs
        refine ⟨⟨advances, calledAt, .locked⟩, rfl, rfl, rfl, by simp [Get.stepsLeft],
          ⟨hcalled, trivial⟩, fun _ hv => .inl hv, fun _ => rfl, fun j _ hj => ?_⟩
        cases hr.symm.trans hj
    | _ => cases hs
  | load k =>
    cases phase with
    | missed =>
      obtain rfl := Option.some.inj hs
      exact ⟨_, moves_setPhase (by simp [Get.stepsLeft])
        ⟨hcalled, h.generation, hcalled, Nat.le_refl _⟩ fun _ => hrefresh trivial⟩
    | _ => cases hs
  | beginQuery k =>
    cases phase with
    | loaded generation loaded =>
      obtain rfl := Option.some.inj hs
      obtain ⟨hgeneration, hle, hloaded⟩ := hphase
      exact ⟨_, moves_setPhase (by simp [Get.stepsLeft])
        ⟨hcalled, hgeneration, hle, hloaded, hloaded⟩ fun _ => hrefresh trivial⟩
    | _ => cases hs
  | complete k result =>
    cases phase with
    | querying generation loaded begun =>
      cases result with
      | ok adapters =>
        obtain rfl := Option.some.inj hs
        exact ⟨_, moves_setPhase (by simp [Get.stepsLeft]) ⟨hcalled, hphase⟩
          fun _ => hrefresh trivial⟩
      | error e =>
        obtain rfl := Option.some.inj hs
        obtain ⟨-, hle, hbegun, -⟩ := hphase
        exact ⟨_, moves_answer (by simp [Get.stepsLeft]) hcalled (Nat.le_trans hle hbegun)⟩
    | _ => cases hs
  | store k =>
    cases phase with
    | queried generation loaded begun adapters =>
      obtain ⟨hgeneration, hle, hbegun, hloaded⟩ := hphase
      unfold stepGet at hs
      dsimp only at hs
      split at hs
      · obtain rfl := Option.some.inj hs
        have hmoves : s.Moves i ⟨advances, calledAt, .queried generation loaded begun adapters⟩
            (s.answer i _ (.adapters adapters begun)) _ :=
          moves_answer (by simp [Get.stepsLeft]) hcalled (Nat.le_trans hle hbegun)
        refine ⟨_, { hmoves with others := rfl, value := fun v hv => .inr ?_ }⟩
        obtain rfl := Option.some.inj hv
        exact ⟨hgeneration, hbegun, hloaded⟩
      next hchanged =>
        obtain rfl := Option.some.inj hs
        have hne : loaded ≠ s.advances := by
          rintro rfl
          exact hchanged (hgeneration.trans h.generation.symm)
        exact ⟨_, moves_answer (by simp [Get.stepsLeft]) hcalled
          ⟨hle, Nat.lt_of_le_of_ne hloaded hne⟩⟩
    | _ => cases hs
  | expire k =>
    cases phase with
    | waiting | querying generation loaded begun =>
      obtain ⟨hlate, hs⟩ := Option.ite_none_right_eq_some.mp hs
      obtain rfl := Option.some.inj hs
      exact ⟨_, moves_answer (by simp [Get.stepsLeft]) hcalled hlate⟩
    | _ => cases hs
  | _ => cases hs

theorem Moves.get_cases {x : Get α ε} (hm : s.Moves i g s' g') (hg : s.gets[i]? = some g)
    (hx : s'.gets[j]? = some x) : j = i ∧ x = g' ∨ j ≠ i ∧ s.gets[j]? = some x := by
  have hgets : s'.gets = s.gets.set i g' := congrArg AdapterSnapshot.gets hm.others
  have hlt := (List.getElem?_eq_some_iff.mp hg).1
  rw [hgets] at hx
  by_cases hj : j = i
  · subst hj
    rw [List.getElem?_set_self hlt] at hx
    exact .inl ⟨rfl, (Option.some.inj hx).symm⟩
  · rw [List.getElem?_set_ne (Ne.symm hj)] at hx
    exact .inr ⟨hj, hx⟩

theorem Moves.serves (hm : s.Moves i g s' g') (h : s.Serves) (hg : s.gets[i]? = some g) :
    s'.Serves := by
  have hgeneration : s'.generation = s.generation := by rw [hm.others]
  have hadvances : s'.advances = s.advances := by rw [hm.others]
  have hnow : s'.now = s.now := by rw [hm.others]
  constructor
  case generation => rw [hgeneration, hadvances, h.generation]
  case bound => exact hadvances ▸ h.bound
  case value =>
    intro v hv
    rw [hadvances]
    exact (hm.value v hv).elim (h.value v) id
  case gets =>
    intro j x hx
    have hsound : x.Sound s := by
      rcases hm.get_cases hg hx with ⟨rfl, rfl⟩ | ⟨-, hx⟩
      · exact hm.sound
      · exact h.gets j x hx
    exact hsound.mono (Nat.le_of_eq hadvances.symm) (Nat.le_of_eq hnow.symm)
  case refresh =>
    intro j x hx hholds
    rcases hm.get_cases hg hx with ⟨rfl, rfl⟩ | ⟨hj, hx⟩
    · exact hm.holds hholds
    · exact hm.refresh j hj (h.refresh j x hx hholds)

/-- What a call that is no step of a `get` leaves, and what it may add. -/
structure Leaves (s : AdapterSnapshot α β ε) (call : Call α β ε) (s' : AdapterSnapshot α β ε) :
    Prop where
  generation : s.generation = UInt64.ofNat s.advances →
    s'.generation = UInt64.ofNat s'.advances
  bound : Bounded s call → s.advances < 2 ^ 64 → s'.advances < 2 ^ 64
  advances : s.advances ≤ s'.advances
  now : s.now ≤ s'.now
  value : ∀ v ∈ s'.value, v ∈ s.value
  gets : ∃ new, s'.gets = s.gets ++ new ∧ ∀ g ∈ new, g = ⟨s.advances, s.now, .called⟩
  refresh : s'.refresh = s.refresh

theorem leaves_same (hgeneration : s'.generation = s.generation)
    (hadvances : s'.advances = s.advances) (hnow : s.now ≤ s'.now) (hvalue : s'.value = s.value)
    (hgets : s'.gets = s.gets) (hrefresh : s'.refresh = s.refresh) : s.Leaves call s' where
  generation h := by rw [hgeneration, hadvances, h]
  bound _ h := hadvances ▸ h
  advances := Nat.le_of_eq hadvances.symm
  now := hnow
  value _ hv := hvalue ▸ hv
  gets := ⟨[], by rw [hgets, List.append_nil], nofun⟩
  refresh := hrefresh

theorem leaves_retire (hbound : Bounded s call → s.advances + 1 < 2 ^ 64) (stage : RetireStage) :
    s.Leaves call (s.retire stage) := by
  cases stage with
  | advance =>
    refine ⟨fun h => ?_, fun hb _ => hbound hb, Nat.le_succ _, Nat.le_refl _, fun _ hv => hv,
      ⟨[], (List.append_nil _).symm, nofun⟩, rfl⟩
    change s.generation + 1 = UInt64.ofNat (s.advances + 1)
    rw [h, UInt64.ofNat_add]
    rfl
  | clearValue =>
    exact ⟨id, fun _ h => h, Nat.le_refl _, Nat.le_refl _, nofun,
      ⟨[], (List.append_nil _).symm, nofun⟩, rfl⟩
  | clearQualified | done => exact leaves_same rfl rfl (Nat.le_refl _) rfl rfl rfl

/-- A call is a step of a `get`, or leaves the callers alone. -/
theorem Call.caller_cases (hs : step s call = some s') :
    (∃ i g, call.caller = some i ∧ s.gets[i]? = some g ∧ s.stepGet i g call = some s') ∨
      call.caller = none := by
  cases call with
  | look i | lock i | load i | beginQuery i | complete i result | store i | expire i =>
    obtain ⟨g, hg, hs⟩ := Option.bind_eq_some_iff.mp hs
    exact .inl ⟨i, g, rfl, hg, hs⟩
  | _ => exact .inr rfl

theorem leaves_step (hcaller : call.caller = none) (hs : step s call = some s') :
    s.Leaves call s' := by
  cases call with
  | look | lock | load | beginQuery | complete | store | expire => cases hcaller
  | tick =>
    obtain rfl := Option.some.inj hs
    exact leaves_same rfl rfl (Nat.le_succ _) rfl rfl rfl
  | get =>
    obtain rfl := Option.some.inj hs
    exact ⟨id, fun _ h => h, Nat.le_refl _, Nat.le_refl _, fun _ hv => hv,
      ⟨_, rfl, fun _ hg => List.mem_singleton.mp hg⟩, rfl⟩
  | invalidate | capture =>
    obtain rfl := Option.some.inj hs
    exact leaves_same rfl rfl (Nat.le_refl _) rfl rfl rfl
  | retire i =>
    obtain ⟨stage, -, rfl⟩ := Option.map_eq_some_iff.mp hs
    exact { leaves_retire id stage with }
  | retireObserved =>
    unfold AdapterSnapshot.step at hs
    dsimp only at hs
    split at hs
    next stage ht =>
      obtain rfl := Option.some.inj hs
      exact { leaves_retire id stage with }
    · cases hs
  | observe =>
    obtain ⟨-, hs⟩ := Option.ite_none_right_eq_some.mp hs
    obtain rfl := Option.some.inj hs
    exact leaves_same rfl rfl (Nat.le_refl _) rfl rfl rfl
  | observed | beginQualifying i | publish i qualified | storeQualified =>
    unfold AdapterSnapshot.step at hs
    dsimp only at hs
    split at hs
    all_goals
      first
        | cases hs; done
        | obtain rfl := Option.some.inj hs
          exact leaves_same rfl rfl (Nat.le_refl _) rfl rfl rfl
  | compare =>
    unfold AdapterSnapshot.step at hs
    dsimp only at hs
    split at hs
    · split at hs <;> obtain rfl := Option.some.inj hs <;>
        exact leaves_same rfl rfl (Nat.le_refl _) rfl rfl rfl
    · cases hs

theorem Leaves.get_cases {x : Get α ε} (hl : s.Leaves call s') (hx : s'.gets[j]? = some x) :
    s.gets[j]? = some x ∨ x = ⟨s.advances, s.now, .called⟩ := by
  obtain ⟨new, hgets, hnew⟩ := hl.gets
  rw [hgets] at hx
  by_cases hj : j < s.gets.length
  · exact .inl ((List.getElem?_append_left hj).symm.trans hx)
  · rw [List.getElem?_append_right (Nat.le_of_not_lt hj)] at hx
    exact .inr (hnew x (List.mem_of_getElem? hx))

theorem Leaves.serves (hl : s.Leaves call s') (h : s.Serves) (hb : Bounded s call) :
    s'.Serves where
  generation := hl.generation h.generation
  bound := hl.bound hb h.bound
  value v hv := by
    obtain ⟨hgeneration, hbegun, hloaded⟩ := h.value v (hl.value v hv)
    exact ⟨hgeneration, hbegun, Nat.le_trans hloaded hl.advances⟩
  gets i g hg := by
    have hsound : g.Sound s := by
      rcases hl.get_cases hg with hg | rfl
      · exact h.gets i g hg
      · exact ⟨Nat.le_refl _, trivial⟩
    exact hsound.mono hl.advances hl.now
  refresh i g hg hholds := by
    rcases hl.get_cases hg with hg | rfl
    · exact hl.refresh.trans (h.refresh i g hg hholds)
    · exact hholds.elim

theorem Serves.step (h : s.Serves) (hb : Bounded s call) (hs : step s call = some s') :
    s'.Serves := by
  rcases Call.caller_cases hs with ⟨i, g, -, hg, hs⟩ | hcaller
  · obtain ⟨g', hm⟩ := moves_stepGet h hg hs
    exact hm.serves h hg
  · exact (leaves_step hcaller hs).serves h hb

theorem serves_of_reaches (h : machine.Reaches Bounded s) : s.Serves :=
  h.invariant (Q := fun _ => True) (fun _ _ => trivial) serves_initial
    fun _ _ _ _ h hb hs => h.step hb hs

end AdapterSnapshot

end PocketStream
