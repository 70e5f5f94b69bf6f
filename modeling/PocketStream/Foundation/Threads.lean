import PocketStream.Foundation.Machine
import PocketStream.Foundation.Program

/-! # Threads over a shared state

Any number of programs run over one state, one effect at a time and in any
order. A protocol says what holds between any two effects, what each thread may
rely on while others move, and what an effect needs when it is issued; threads
that keep to it are safe together.
-/

namespace Foundation

open Program Relation

variable {ε : Type} {ρ : ε → Type} {σ ω ι κ α β : Type}

/-- How an effect of a thread is answered (not at all while it is blocked), what happens
outside the threads, what a thread dropped at an effect leaves (nothing where threads are never
dropped), and the program of each call. A call goes on as another call or returns. -/
structure Shared (ε : Type) (ρ : ε → Type) (σ ω ι κ : Type) where
  answer : ℕ → σ → (e : ε) → ω → Option (ρ e × σ)
  disturb : σ → ι → σ
  abandon : ℕ → σ → Option σ
  start : κ → Program ε ρ (Option κ)

abbrev Threads (ε : Type) (ρ : ε → Type) (κ : Type) := List (Program ε ρ (Option κ))

inductive Act (ω ι κ : Type) where
  | spawn (call : κ)
  | advance (t : ℕ) (outcome : ω)
  | abandon (t : ℕ)
  | disturb (change : ι)

namespace Shared

variable (M : Shared ε ρ σ ω ι κ)

def advance (c : σ × Threads ε ρ κ) (t : ℕ) (o : ω) : σ × Threads ε ρ κ :=
  match c.2[t]? with
  | some (.request e next) =>
    match M.answer t c.1 e o with
    | some (r, s) => (s, c.2.set t (next r))
    | none => c
  | some (.done (some call)) => (c.1, c.2.set t (M.start call))
  | _ => c

def drop (c : σ × Threads ε ρ κ) (t : ℕ) : σ × Threads ε ρ κ :=
  match c.2[t]? with
  | some (.request _ _) =>
    match M.abandon t c.1 with
    | some s => (s, c.2.set t (.done none))
    | none => c
  | _ => c

def step (c : σ × Threads ε ρ κ) : Act ω ι κ → σ × Threads ε ρ κ
  | .spawn call => (c.1, c.2 ++ [M.start call])
  | .advance t o => M.advance c t o
  | .abandon t => M.drop c t
  | .disturb i => (M.disturb c.1 i, c.2)

/-- The threads from a state in which no call has started. -/
def machine (initial : σ) : Machine (σ × Threads ε ρ κ) (Act ω ι κ) where
  initial := (initial, [])
  step c act := some (M.step c act)

def run (c : σ × Threads ε ρ κ) (acts : List (Act ω ι κ)) : σ × Threads ε ρ κ :=
  acts.foldl M.step c

theorem reachable_run (initial : σ) (acts : List (Act ω ι κ)) :
    (M.machine initial).Reachable (M.run (initial, []) acts) := by
  suffices h : ∀ c, (M.machine initial).Reachable c →
      (M.machine initial).Reachable (M.run c acts) from h _ .initial
  induction acts with
  | nil => exact fun _ h => h
  | cons act acts ih => exact fun c h => ih _ (.step h trivial rfl)

end Shared

/-- A system with more state, of which another keeps a part: what it adds decides nothing. -/
structure Shared.Erases {τ : Type} (N : Shared ε ρ τ ω ι κ) (M : Shared ε ρ σ ω ι κ) (f : τ → σ) :
    Prop where
  answer : ∀ t s e o, M.answer t (f s) e o = (N.answer t s e o).map fun (r, s') => (r, f s')
  disturb : ∀ s i, M.disturb (f s) i = f (N.disturb s i)
  abandon : ∀ t s, M.abandon t (f s) = (N.abandon t s).map f
  start : M.start = N.start

namespace Shared.Erases

variable {τ : Type} {N : Shared ε ρ τ ω ι κ} {M : Shared ε ρ σ ω ι κ} {f : τ → σ}

theorem step (h : N.Erases M f) (c : τ × Threads ε ρ κ) (act : Act ω ι κ) :
    M.step (f c.1, c.2) act = (f (N.step c act).1, (N.step c act).2) := by
  cases act with
  | spawn call => simp only [Shared.step, h.start]
  | disturb i => simp only [Shared.step, h.disturb]
  | abandon t =>
    simp only [Shared.step, Shared.drop]
    cases c.2[t]? with
    | none => rfl
    | some p =>
      rcases p with _ | ⟨e, next⟩
      · rfl
      · simp only [h.abandon]
        cases N.abandon t c.1 <;> rfl
  | advance t o =>
    simp only [Shared.step, Shared.advance]
    cases c.2[t]? with
    | none => rfl
    | some p =>
      rcases p with (_ | call) | ⟨e, next⟩
      · rfl
      · simp only [h.start]
      · simp only [h.answer]
        cases N.answer t c.1 e o <;> rfl

theorem run (h : N.Erases M f) (c : τ × Threads ε ρ κ) (acts : List (Act ω ι κ)) :
    M.run (f c.1, c.2) acts = (f (N.run c acts).1, (N.run c acts).2) := by
  induction acts generalizing c with
  | nil => rfl
  | cons act acts ih =>
    change M.run (M.step (f c.1, c.2) act) acts = _
    rw [h.step]
    exact ih _

end Shared.Erases

/-- The effect a thread issues next. -/
def Issues (c : σ × Threads ε ρ κ) (t : ℕ) (e : ε) : Prop :=
  ∃ next, c.2[t]? = some (.request e next)

/-- The thread has not been started or has returned. -/
def AtRest (c : σ × Threads ε ρ κ) (t : ℕ) : Prop :=
  c.2[t]? = none ∨ c.2[t]? = some (.done none)

/-- An operation that moves changes the state by the answer of its effect. -/
theorem Shared.advance_state (M : Shared ε ρ σ ω ι κ) (c : σ × Threads ε ρ κ) (t : ℕ) (o : ω) :
    (M.advance c t o).1 = c.1 ∨
      ∃ e r, Issues c t e ∧ M.answer t c.1 e o = some (r, (M.advance c t o).1) := by
  cases hp : c.2[t]? with
  | none => exact .inl (by simp only [advance, hp])
  | some p =>
    rcases p with (_ | k) | ⟨e, next⟩
    · exact .inl (by simp only [advance, hp])
    · exact .inl (by simp only [advance, hp])
    · cases ha : M.answer t c.1 e o with
      | none => exact .inl (by simp only [advance, hp, ha])
      | some r =>
        refine .inr ⟨e, r.1, ⟨next, hp⟩, ?_⟩
        simp only [advance, hp, ha]

/-- A step changes the state by the answer of an effect, by a dropped thread or from outside. -/
theorem Shared.step_state (M : Shared ε ρ σ ω ι κ) (c : σ × Threads ε ρ κ) (act : Act ω ι κ) :
    (M.step c act).1 = c.1 ∨
      (∃ t e o r, Issues c t e ∧ M.answer t c.1 e o = some (r, (M.step c act).1)) ∨
      (∃ t, M.abandon t c.1 = some (M.step c act).1) ∨
      ∃ i, (M.step c act).1 = M.disturb c.1 i := by
  cases act with
  | spawn k => exact .inl rfl
  | disturb i => exact .inr (.inr (.inr ⟨i, rfl⟩))
  | advance t o =>
    rcases M.advance_state c t o with h | ⟨e, r, h⟩
    · exact .inl h
    · exact .inr (.inl ⟨t, e, o, r, h⟩)
  | abandon t =>
    cases hp : c.2[t]? with
    | none => exact .inl (by simp only [step, drop, hp])
    | some p =>
      rcases p with _ | ⟨e, next⟩
      · exact .inl (by simp only [step, drop, hp])
      · cases ha : M.abandon t c.1 with
        | none => exact .inl (by simp only [step, drop, hp, ha])
        | some s => exact .inr (.inr (.inl ⟨t, by simp only [step, drop, hp, ha]⟩))

/-- An invariant, what thread `t` may rely on, what its effects need, and the condition under
which they may run; with the proof that effects and disturbances keep to it. -/
structure Protocol (M : Shared ε ρ σ ω ι κ) where
  inv : σ → Prop
  rely : ℕ → σ → σ → Prop
  guard : ℕ → ε → σ → Prop
  meets : ℕ → σ → ε → Prop
  answer : ∀ {t s e o r s'}, inv s → guard t e s → meets t s e →
    M.answer t s e o = some (r, s') → inv s' ∧ ∀ u, u ≠ t → rely u s s'
  disturb : ∀ {s} i, inv s → inv (M.disturb s i) ∧ ∀ u, rely u s (M.disturb s i)
  abandon : ∀ {t s s'}, inv s → M.abandon t s = some s' → inv s' ∧ ∀ u, u ≠ t → rely u s s'

namespace Protocol

variable {M : Shared ε ρ σ ω ι κ} (P : Protocol M) (t : ℕ)

def Moves (s s' : σ) : Prop := P.inv s ∧ P.inv s' ∧ P.rely t s s'

/-- The moves of others keep the assertion. -/
def Stable (A : σ → Prop) : Prop := ∀ s s', P.Moves t s s' → A s → A s'

/-- Every effect is issued where its guard holds, and every return lands in `post`. -/
def Safe (post : α → σ → Prop) : Program ε ρ α → σ → Prop
  | done a, s => ∀ s₁, ReflTransGen (P.Moves t) s s₁ → P.inv s₁ → post a s₁
  | request e next, s => ∀ s₁, ReflTransGen (P.Moves t) s s₁ → P.inv s₁ →
      P.guard t e s₁ ∧ ∀ o r s₂, P.meets t s₁ e → M.answer t s₁ e o = some (r, s₂) →
        P.inv s₂ → Safe post (next r) s₂

variable {P t} {A B : σ → Prop} {post : α → σ → Prop}

theorem Stable.moves (hA : P.Stable t A) {s s' : σ} (h : ReflTransGen (P.Moves t) s s')
    (hs : A s) : A s' := by
  induction h with
  | refl => exact hs
  | tail _ hstep ih => exact hA _ _ hstep ih

theorem Stable.and (hA : P.Stable t A) (hB : P.Stable t B) : P.Stable t fun s => A s ∧ B s :=
  fun s s' h hs => ⟨hA s s' h hs.1, hB s s' h hs.2⟩

theorem Stable.or (hA : P.Stable t A) (hB : P.Stable t B) : P.Stable t fun s => A s ∨ B s :=
  fun s s' h hs => hs.imp (hA s s' h) (hB s s' h)

theorem Stable.const (φ : Prop) : P.Stable t fun _ => φ := fun _ _ _ h => h

theorem Safe.moves {p : Program ε ρ α} {s s' : σ} (h : P.Safe t post p s)
    (hm : P.Moves t s s') : P.Safe t post p s' := by
  cases p with
  | done a => exact fun s₁ h₁ => h s₁ (.head hm h₁)
  | request e next => exact fun s₁ h₁ => h s₁ (.head hm h₁)

theorem Safe.mono {post' : α → σ → Prop} (hp : ∀ a s, P.inv s → post a s → post' a s) :
    ∀ {p : Program ε ρ α} {s : σ}, P.Safe t post p s → P.Safe t post' p s
  | done _, _, h => fun s₁ h₁ hi => hp _ _ hi (h s₁ h₁ hi)
  | request _ _, _, h => fun s₁ h₁ hi =>
    ⟨(h s₁ h₁ hi).1, fun o r s₂ hm ha hi₂ => Safe.mono hp ((h s₁ h₁ hi).2 o r s₂ hm ha hi₂)⟩

theorem Safe.bind {f : α → Program ε ρ β} {post' : β → σ → Prop} :
    ∀ {p : Program ε ρ α} {s : σ}, P.inv s →
      P.Safe t (fun a s' => P.Safe t post' (f a) s') p s → P.Safe t post' (p >>= f) s
  | done _, s, hi, h => h s .refl hi
  | request _ _, _, _, h => fun s₁ h₁ hi =>
    ⟨(h s₁ h₁ hi).1, fun o r s₂ hm ha hi₂ => Safe.bind hi₂ ((h s₁ h₁ hi).2 o r s₂ hm ha hi₂)⟩

variable (P t) in
/-- The program is safe from every state of `pre`. -/
def Triple (pre : σ → Prop) (p : Program ε ρ α) (post : α → σ → Prop) : Prop :=
  ∀ s, P.inv s → pre s → P.Safe t post p s

variable {pre : σ → Prop}

namespace Triple

theorem conseq {pre' : σ → Prop} {post' : α → σ → Prop} {p : Program ε ρ α}
    (h : P.Triple t pre p post) (hpre : ∀ s, P.inv s → pre' s → pre s)
    (hpost : ∀ a s, P.inv s → post a s → post' a s) : P.Triple t pre' p post' :=
  fun s hi hs => (h s hi (hpre s hi hs)).mono hpost

theorem done {a : α} (hst : P.Stable t pre) (h : ∀ s, P.inv s → pre s → post a s) :
    P.Triple t pre (Program.done a) post :=
  fun _ _ hs _ hm hi => h _ hi (hst.moves hm hs)

theorem request {e : ε} {next : ρ e → Program ε ρ α} (mid : ρ e → σ → Prop)
    (hst : P.Stable t pre) (hg : ∀ s, P.inv s → pre s → P.guard t e s)
    (hr : ∀ s o r s', P.inv s → pre s → P.meets t s e → M.answer t s e o = some (r, s') →
      P.inv s' → mid r s')
    (hn : ∀ r, P.Triple t (mid r) (next r) post) : P.Triple t pre (.request e next) post := by
  intro s _ hs s₁ hm hi
  have hs₁ := hst.moves hm hs
  exact ⟨hg s₁ hi hs₁, fun o r s₂ hmeets ha hi₂ => hn r s₂ hi₂ (hr s₁ o r s₂ hi hs₁ hmeets ha hi₂)⟩

theorem perform {e : ε} {post : ρ e → σ → Prop} (hst : P.Stable t pre)
    (hg : ∀ s, P.inv s → pre s → P.guard t e s)
    (hr : ∀ s o r s', P.inv s → pre s → P.meets t s e → M.answer t s e o = some (r, s') →
      P.inv s' → post r s')
    (hpost : ∀ r, P.Stable t (post r)) : P.Triple t pre (Program.perform e) post :=
  .request post hst hg hr fun r => .done (hpost r) fun _ _ h => h

theorem bind {f : α → Program ε ρ β} {p : Program ε ρ α} {post' : β → σ → Prop}
    (mid : α → σ → Prop) (hp : P.Triple t pre p mid)
    (hf : ∀ a, P.Triple t (mid a) (f a) post') : P.Triple t pre (p >>= f) post' :=
  fun s hi hs => ((hp s hi hs).mono fun a s' hi' h => hf a s' hi' h).bind hi

/-- A fact that the assertion implies may be used to prove the rest. -/
theorem given {φ : Prop} {p : Program ε ρ α} (hφ : ∀ s, P.inv s → pre s → φ)
    (h : φ → P.Triple t pre p post) : P.Triple t pre p post :=
  fun s hi hs => h (hφ s hi hs) s hi hs

theorem of_exists {ξ : Type} {p : Program ε ρ α} {pre : ξ → σ → Prop}
    (h : ∀ x, P.Triple t (pre x) p post) : P.Triple t (fun s => ∃ x, pre x s) p post := by
  rintro s hi ⟨x, hs⟩
  exact h x s hi hs

section Fallible

variable {E : Type} {x : ExceptT E (Program ε ρ) α} {f : α → ExceptT E (Program ε ρ) β}
  {bad : E → σ → Prop} {good : β → σ → Prop}

/-- A failure ends the program where it happens. -/
theorem tryBind (mid : α → σ → Prop) (hx : P.Triple t pre x.run (World.returns mid bad))
    (hbad : ∀ e, P.Stable t (bad e))
    (hf : ∀ a, P.Triple t (mid a) (f a).run (World.returns good bad)) :
    P.Triple t pre (x >>= f).run (World.returns good bad) := by
  apply Triple.bind (World.returns mid bad) hx
  rintro (e | a)
  · exact .done (hbad e) fun _ _ h => h
  · exact hf a

theorem tryPure {b : β} (hst : P.Stable t pre) (h : ∀ s, P.inv s → pre s → good b s) :
    P.Triple t pre (Pure.pure b : ExceptT E (Program ε ρ) β).run (World.returns good bad) :=
  .done hst h

theorem tryThrow {e : E} (hst : P.Stable t pre) (h : ∀ s, P.inv s → pre s → bad e s) :
    P.Triple t pre (MonadExcept.throw e : ExceptT E (Program ε ρ) β).run
      (World.returns good bad) :=
  .done hst h

/-- A value that may be an error. -/
theorem tryDone {r : Except E β} (hst : P.Stable t pre)
    (h : ∀ s, P.inv s → pre s → World.returns good bad r s) :
    P.Triple t pre (ExceptT.mk (.done r) : ExceptT E (Program ε ρ) β).run
      (World.returns good bad) :=
  .done hst h

/-- A program that does not fail. -/
theorem lift {p : Program ε ρ β} (hp : P.Triple t pre p good) (hgood : ∀ b, P.Stable t (good b)) :
    P.Triple t pre (ExceptT.lift p : ExceptT E (Program ε ρ) β).run (World.returns good bad) := by
  apply Triple.bind good hp
  intro b
  exact .done (hgood b) fun _ _ h => h

end Fallible

end Triple

/-! ### Runs -/

/-- A call that ends takes no part or goes on as the next call. -/
def Resumes (pre : κ → ℕ → σ → Prop) (rest : ℕ → σ → Prop) (t : ℕ) : Option κ → σ → Prop
  | none => rest t
  | some k => pre k t

variable (P) in
/-- What a call assumes when it starts, and what holds of a thread that takes no part: each
call is safe, and ends taking no part or as what the next call assumes. -/
structure Calls where
  pre : κ → ℕ → σ → Prop
  rest : ℕ → σ → Prop
  stable : ∀ t, P.Stable t (rest t)
  safe : ∀ k t, P.Triple t (pre k t) (M.start k) (Resumes pre rest t)
  abandoned : ∀ {t s s'}, P.inv s → M.abandon t s = some s' → rest t s'

/-- What a thread is safe for in a state. -/
def Calls.holds (C : P.Calls) (t : ℕ) (s : σ) : Option (Program ε ρ (Option κ)) → Prop
  | none => C.rest t s
  | some p => P.Safe t (Resumes C.pre C.rest t) p s

variable (P) in
/-- The invariant, and what each thread is safe for. -/
structure Sound (C : P.Calls) (c : σ × Threads ε ρ κ) : Prop where
  inv : P.inv c.1
  threads : ∀ t, C.holds t c.1 c.2[t]?

/-- The steps a run may take: a call starts where its assumption holds, and an effect runs under
its condition. -/
def Calls.Admits (C : P.Calls) (c : σ × Threads ε ρ κ) : Act ω ι κ → Prop
  | .spawn k => ∀ s, C.rest c.2.length s → C.pre k c.2.length s
  | .advance t _ => ∀ e, Issues c t e → P.meets t c.1 e
  | .abandon _ | .disturb _ => True

variable {C : P.Calls} {c : σ × Threads ε ρ κ}

theorem Calls.holds_moves {s s' : σ} {x : Option (Program ε ρ (Option κ))} (h : C.holds t s x)
    (hm : P.Moves t s s') : C.holds t s' x := by
  cases x with
  | none => exact C.stable t s s' hm h
  | some p => exact Safe.moves h hm

theorem Sound.initial {s : σ} (hi : P.inv s) (hrest : ∀ t, C.rest t s) : P.Sound C (s, []) :=
  ⟨hi, fun t => hrest t⟩

theorem Sound.disturb (h : P.Sound C c) (i : ι) : P.Sound C (M.disturb c.1 i, c.2) := by
  obtain ⟨hi, hrely⟩ := P.disturb i h.inv
  exact ⟨hi, fun t => C.holds_moves (h.threads t) ⟨h.inv, hi, hrely t⟩⟩

theorem Sound.spawn {k : κ} (h : P.Sound C c)
    (hpre : ∀ s, C.rest c.2.length s → C.pre k c.2.length s) :
    P.Sound C (c.1, c.2 ++ [M.start k]) := by
  refine ⟨h.inv, fun t => ?_⟩
  have ht := h.threads t
  rcases Nat.lt_trichotomy t c.2.length with hlt | rfl | hgt
  · simpa [List.getElem?_append_left hlt] using ht
  · rw [List.getElem?_eq_none (Nat.le_refl _)] at ht
    simp only [List.getElem?_concat_length]
    exact C.safe k _ c.1 h.inv (hpre _ ht)
  · rw [List.getElem?_eq_none (Nat.le_of_lt hgt)] at ht
    rw [List.getElem?_eq_none (by simp; omega)]
    exact ht

/-- One thread moves, and every other is safe for what it was. -/
theorem Sound.set {s : σ} {p : Program ε ρ (Option κ)} (hi : P.inv s) (hlt : t < c.2.length)
    (hp : C.holds t s (some p)) (hothers : ∀ u, u ≠ t → C.holds u s c.2[u]?) :
    P.Sound C (s, c.2.set t p) := by
  refine ⟨hi, fun u => ?_⟩
  rcases eq_or_ne u t with rfl | hne
  · simpa [List.getElem?_set_self hlt] using hp
  · simpa only [List.getElem?_set_ne hne.symm] using hothers u hne

theorem Sound.advance {o : ω} (h : P.Sound C c) (hm : ∀ e, Issues c t e → P.meets t c.1 e) :
    P.Sound C (M.advance c t o) := by
  unfold Shared.advance
  have ht := h.threads t
  cases hp : c.2[t]? with
  | none => exact h
  | some p =>
    obtain ⟨hlt, -⟩ := List.getElem?_eq_some_iff.mp hp
    rw [hp] at ht
    cases p with
    | request e next =>
      simp only
      cases ha : M.answer t c.1 e o with
      | none => exact h
      | some r =>
        obtain ⟨hg, hnext⟩ := ht c.1 .refl h.inv
        have hmeets := hm e ⟨next, hp⟩
        obtain ⟨hi, hrely⟩ := P.answer h.inv hg hmeets ha
        exact .set hi hlt (hnext o r.1 r.2 hmeets ha hi) fun u hu =>
          C.holds_moves (h.threads u) ⟨h.inv, hi, hrely u hu⟩
    | done next =>
      cases next with
      | none => exact h
      | some k =>
        have hpre := ht c.1 .refl h.inv
        exact .set h.inv hlt (C.safe k t c.1 h.inv hpre) fun u _ => h.threads u

theorem Sound.drop (h : P.Sound C c) (t : ℕ) : P.Sound C (M.drop c t) := by
  unfold Shared.drop
  cases hp : c.2[t]? with
  | none => exact h
  | some p =>
    obtain ⟨hlt, -⟩ := List.getElem?_eq_some_iff.mp hp
    cases p with
    | done next => exact h
    | request e next =>
      simp only
      cases ha : M.abandon t c.1 with
      | none => exact h
      | some s =>
        obtain ⟨hi, hrely⟩ := P.abandon h.inv ha
        have hrest := C.abandoned h.inv ha
        exact .set hi hlt (fun s₁ hm _ => (C.stable t).moves hm hrest) fun u hu =>
          C.holds_moves (h.threads u) ⟨h.inv, hi, hrely u hu⟩

theorem Sound.step {act : Act ω ι κ} (h : P.Sound C c) (ha : C.Admits c act) :
    P.Sound C (M.step c act) := by
  cases act with
  | spawn k => exact h.spawn ha
  | advance t o => exact h.advance ha
  | abandon t => exact h.drop t
  | disturb i => exact h.disturb i

/-- Every state that admitted steps reach is sound. -/
theorem Sound.reached {initial : σ} (hi : P.inv initial) (hrest : ∀ t, C.rest t initial)
    (h : (M.machine initial).Reaches C.Admits c) : P.Sound C c := by
  induction h with
  | initial => exact .initial hi hrest
  | step _ ha hs ih =>
    cases hs
    exact ih.step ha

theorem Sound.atRest (h : P.Sound C c) (ht : AtRest c t) : C.rest t c.1 := by
  have hs := h.threads t
  rcases ht with hn | hd
  · rwa [hn] at hs
  · rw [hd] at hs
    exact hs c.1 .refl h.inv

theorem Sound.issued {e : ε} (h : P.Sound C c) (he : Issues c t e) : P.guard t e c.1 := by
  obtain ⟨next, hp⟩ := he
  have hs := h.threads t
  rw [hp] at hs
  exact (hs c.1 .refl h.inv).1

end Protocol

end Foundation
