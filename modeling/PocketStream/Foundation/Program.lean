import Mathlib.Logic.Relation

/-! # Effectful programs under interference

A program stops at each of its effects and continues from the reply. A world
says how an effect is answered, for every outcome it may have, and what the
environment may do to the state while the program is stopped. Triples bound
every state in which an effect is issued and every state a program returns in,
whatever the outcomes and the interference.
-/

namespace Foundation

variable {ε : Type} {ρ : ε → Type} {σ ω ι α β : Type}

/-- A computation that stops at an effect `e` and continues from a reply in `ρ e`. -/
inductive Program (ε : Type) (ρ : ε → Type) (α : Type) where
  | done (a : α)
  | request (e : ε) (next : ρ e → Program ε ρ α)

namespace Program

def bind : Program ε ρ α → (α → Program ε ρ β) → Program ε ρ β
  | done a, f => f a
  | request e next, f => request e fun r => bind (next r) f

instance : Monad (Program ε ρ) where
  pure := done
  bind := bind

/-- The value of a program that has returned. -/
def returned : Program ε ρ α → Option α
  | done a => some a
  | request _ _ => none

/-- The program that issues one effect and returns its reply. -/
def perform (e : ε) : Program ε ρ (ρ e) := request e done

@[simp] theorem pure_eq_done (a : α) : (pure a : Program ε ρ α) = done a := rfl

@[simp] theorem done_bind (a : α) (f : α → Program ε ρ β) : (done a >>= f) = f a := rfl

@[simp] theorem request_bind (e : ε) (next : ρ e → Program ε ρ α) (f : α → Program ε ρ β) :
    (request e next >>= f) = request e fun r => next r >>= f := rfl

@[simp] theorem perform_bind (e : ε) (f : ρ e → Program ε ρ β) :
    (perform e >>= f) = request e f := rfl

end Program

open Program Relation

/-- How every effect is answered under every outcome, and the moves of everything
that is not the program. -/
structure World (ε : Type) (ρ : ε → Type) (σ ω ι : Type) where
  handle : σ → (e : ε) → ω → ρ e × σ
  interfere : σ → ι → σ

inductive Move (ω ι : Type) where
  | reply (outcome : ω)
  | interfere (change : ι)

namespace World

variable (W : World ε ρ σ ω ι)

def step : σ × Program ε ρ α → Move ω ι → σ × Program ε ρ α
  | (s, request e next), .reply o => ((W.handle s e o).2, next (W.handle s e o).1)
  | (s, done a), .reply _ => (s, done a)
  | (s, p), .interfere i => (W.interfere s i, p)

def run (c : σ × Program ε ρ α) (moves : List (Move ω ι)) : σ × Program ε ρ α :=
  moves.foldl W.step c

def Interferes (s s' : σ) : Prop := ReflTransGen (fun s s' => ∃ i, W.interfere s i = s') s s'

/-- Interference keeps the assertion. -/
def Stable (P : σ → Prop) : Prop := ∀ s i, P s → P (W.interfere s i)

variable {W} {guard : ε → σ → Prop}

theorem Stable.and {P Q : σ → Prop} (hP : W.Stable P) (hQ : W.Stable Q) :
    W.Stable fun s => P s ∧ Q s :=
  fun s i h => ⟨hP s i h.1, hQ s i h.2⟩

theorem Stable.interferes {P : σ → Prop} (hP : W.Stable P) {s s' : σ}
    (h : W.Interferes s s') (hs : P s) : P s' := by
  induction h with
  | refl => exact hs
  | tail _ hstep ih =>
    obtain ⟨i, rfl⟩ := hstep
    exact hP _ i ih

variable (W guard) in
/-- Every effect is issued in a state its guard allows, and every return lands in `post`. -/
def Safe (post : α → σ → Prop) : Program ε ρ α → σ → Prop
  | done a, s => ∀ s₁, W.Interferes s s₁ → post a s₁
  | request e next, s => ∀ s₁, W.Interferes s s₁ →
      guard e s₁ ∧ ∀ o, Safe post (next (W.handle s₁ e o).1) (W.handle s₁ e o).2

variable {post : α → σ → Prop}

theorem Safe.interfere {p : Program ε ρ α} {s : σ} (h : W.Safe guard post p s) (i : ι) :
    W.Safe guard post p (W.interfere s i) := by
  cases p with
  | done a => exact fun s₁ h₁ => h s₁ (.head ⟨i, rfl⟩ h₁)
  | request e next => exact fun s₁ h₁ => h s₁ (.head ⟨i, rfl⟩ h₁)

theorem Safe.step {c : σ × Program ε ρ α} (h : W.Safe guard post c.2 c.1) (m : Move ω ι) :
    W.Safe guard post (W.step c m).2 (W.step c m).1 := by
  obtain ⟨s, p⟩ := c
  cases m with
  | interfere i => cases p <;> exact h.interfere i
  | reply o =>
    cases p with
    | done a => exact h
    | request e next => exact (h s .refl).2 o

theorem Safe.run {c : σ × Program ε ρ α} (h : W.Safe guard post c.2 c.1) (moves : List (Move ω ι)) :
    W.Safe guard post (W.run c moves).2 (W.run c moves).1 := by
  induction moves generalizing c with
  | nil => exact h
  | cons m moves ih => exact ih (h.step m)

theorem Safe.issued {e : ε} {next : ρ e → Program ε ρ α} {s : σ}
    (h : W.Safe guard post (request e next) s) : guard e s :=
  (h s .refl).1

/-- What interference and every permitted effect keep holds throughout a run. -/
theorem Safe.invariant {I : σ → Prop} (hst : W.Stable I)
    (heffect : ∀ e s o, guard e s → I s → I (W.handle s e o).2) {c : σ × Program ε ρ α}
    (h : W.Safe guard post c.2 c.1) (hI : I c.1) (moves : List (Move ω ι)) :
    I (W.run c moves).1 := by
  induction moves generalizing c with
  | nil => exact hI
  | cons m moves ih =>
    refine ih (h.step m) ?_
    obtain ⟨s, p⟩ := c
    cases m with
    | interfere i => cases p <;> exact hst s i hI
    | reply o =>
      cases p with
      | done a => exact hI
      | request e next => exact heffect e s o h.issued hI

theorem Safe.returned {a : α} {s : σ} (h : W.Safe guard post (done a) s) : post a s :=
  h s .refl

theorem Safe.trivial : ∀ (p : Program ε ρ α) (s : σ),
    W.Safe (fun _ _ => True) (fun _ _ => True) p s
  | .done _, _ => fun _ _ => True.intro
  | .request _ next, _ => fun _ _ => ⟨True.intro, fun _ => Safe.trivial (next _) _⟩

theorem Safe.mono {post' : α → σ → Prop} (hp : ∀ a s, post a s → post' a s) :
    ∀ {p : Program ε ρ α} {s : σ}, W.Safe guard post p s → W.Safe guard post' p s
  | done _, _, h => fun s₁ h₁ => hp _ _ (h s₁ h₁)
  | request _ _, _, h => fun s₁ h₁ => ⟨(h s₁ h₁).1, fun o => Safe.mono hp ((h s₁ h₁).2 o)⟩

theorem Safe.guarded {guard' : ε → σ → Prop} (hg : ∀ e s, guard e s → guard' e s) :
    ∀ {p : Program ε ρ α} {s : σ}, W.Safe guard post p s → W.Safe guard' post p s
  | done _, _, h => h
  | request _ _, _, h => fun s₁ h₁ =>
    ⟨hg _ _ (h s₁ h₁).1, fun o => Safe.guarded hg ((h s₁ h₁).2 o)⟩

theorem Safe.bind {f : α → Program ε ρ β} {post' : β → σ → Prop} :
    ∀ {p : Program ε ρ α} {s : σ},
      W.Safe guard (fun a s' => W.Safe guard post' (f a) s') p s → W.Safe guard post' (p >>= f) s
  | done _, s, h => h s .refl
  | request _ _, _, h => fun s₁ h₁ => ⟨(h s₁ h₁).1, fun o => Safe.bind ((h s₁ h₁).2 o)⟩

variable (W guard) in
/-- The program is safe from every state of `pre`. -/
def Triple (pre : σ → Prop) (p : Program ε ρ α) (post : α → σ → Prop) : Prop :=
  ∀ s, pre s → W.Safe guard post p s

variable {pre : σ → Prop}

theorem Triple.conseq {pre' : σ → Prop} {post' : α → σ → Prop} {p : Program ε ρ α}
    (h : W.Triple guard pre p post) (hpre : ∀ s, pre' s → pre s)
    (hpost : ∀ a s, post a s → post' a s) : W.Triple guard pre' p post' :=
  fun s hs => (h s (hpre s hs)).mono hpost

theorem Triple.done {a : α} (hst : W.Stable pre) (h : ∀ s, pre s → post a s) :
    W.Triple guard pre (Program.done a) post :=
  fun _ hs _ hi => h _ (hst.interferes hi hs)

theorem Triple.request {e : ε} {next : ρ e → Program ε ρ α} (mid : ρ e → σ → Prop)
    (hst : W.Stable pre) (hg : ∀ s, pre s → guard e s)
    (hr : ∀ s o, pre s → mid (W.handle s e o).1 (W.handle s e o).2)
    (hn : ∀ r, W.Triple guard (mid r) (next r) post) :
    W.Triple guard pre (Program.request e next) post := by
  intro s hs s₁ hi
  have hs₁ := hst.interferes hi hs
  exact ⟨hg s₁ hs₁, fun o => hn _ _ (hr s₁ o hs₁)⟩

theorem Triple.perform {e : ε} {post : ρ e → σ → Prop} (hst : W.Stable pre)
    (hg : ∀ s, pre s → guard e s)
    (hr : ∀ s o, pre s → post (W.handle s e o).1 (W.handle s e o).2)
    (hpost : ∀ r, W.Stable (post r)) : W.Triple guard pre (Program.perform e) post :=
  .request post hst hg hr fun r => .done (hpost r) fun _ h => h

theorem Triple.bind {f : α → Program ε ρ β} {p : Program ε ρ α} {post' : β → σ → Prop}
    (mid : α → σ → Prop) (hp : W.Triple guard pre p mid)
    (hf : ∀ a, W.Triple guard (mid a) (f a) post') : W.Triple guard pre (p >>= f) post' :=
  fun s hs => ((hp s hs).mono hf).bind

section Fallible

variable {E : Type} {x : ExceptT E (Program ε ρ) α} {f : α → ExceptT E (Program ε ρ) β}

/-- The postcondition of a program that returns a value or fails. -/
def returns (good : α → σ → Prop) (bad : E → σ → Prop) : Except E α → σ → Prop
  | .ok a => good a
  | .error e => bad e

theorem Stable.returns {good : α → σ → Prop} {bad : E → σ → Prop} (hg : ∀ a, W.Stable (good a))
    (hb : ∀ e, W.Stable (bad e)) : ∀ r, W.Stable (World.returns good bad r)
  | .ok a => hg a
  | .error e => hb e

variable {post : Except E β → σ → Prop}

/-- A failure ends the program where it happens. -/
theorem Safe.tryBind {s : σ}
    (h : W.Safe guard (returns (fun a => W.Safe guard post (f a).run) fun e => post (.error e))
      x.run s) : W.Safe guard post (x >>= f).run s := by
  change W.Safe guard post (Program.bind x.run (ExceptT.bindCont f)) s
  generalize x.run = p at h
  induction p generalizing s with
  | done a =>
    cases a with
    | ok a => exact h s .refl
    | error e => exact h
  | request e next ih => exact fun s₁ h₁ => ⟨(h s₁ h₁).1, fun o => ih _ ((h s₁ h₁).2 o)⟩

theorem Triple.tryBind (mid : α → σ → Prop)
    (hx : W.Triple guard pre x.run (returns mid fun e => post (.error e)))
    (hf : ∀ a, W.Triple guard (mid a) (f a).run post) :
    W.Triple guard pre (x >>= f).run post :=
  fun s hs => Safe.tryBind ((hx s hs).mono fun a s' h => by
    cases a with
    | ok a => exact hf a s' h
    | error e => exact h)

theorem Triple.throw {e : E} (hst : W.Stable pre) (h : ∀ s, pre s → post (.error e) s) :
    W.Triple guard pre (MonadExcept.throw e : ExceptT E (Program ε ρ) β).run post :=
  .done hst h

theorem Triple.throwBind {e : E} (hst : W.Stable pre) (h : ∀ s, pre s → post (.error e) s) :
    W.Triple guard pre ((MonadExcept.throw e : ExceptT E (Program ε ρ) α) >>= f).run post :=
  .tryBind (fun _ _ => False) (.done hst h) fun _ _ h => h.elim

theorem Triple.pure {b : β} (hst : W.Stable pre) (h : ∀ s, pre s → post (.ok b) s) :
    W.Triple guard pre (Pure.pure b : ExceptT E (Program ε ρ) β).run post :=
  .done hst h

end Fallible

end World

end Foundation
