import PocketStream.Foundation.Program
import Mathlib.Data.List.Infix

/-! # Programs with a record of their own

A routine is a program that keeps a record while it runs and may give up at any
point; the record survives the failure. A logged world remembers every effect
with its reply, so that an assertion can speak of what was issued before.
-/

namespace Foundation

variable {ε : Type} {ρ : ε → Type} {σ ω ι τ E α β : Type}

/-- A program over a record in `τ` that returns a value or fails with an error in `E`. -/
abbrev Routine (ε : Type) (ρ : ε → Type) (τ E α : Type) := ExceptT E (StateT τ (Program ε ρ)) α

namespace Routine

/-- An effect whose reply is a value. -/
def ask (e : ε) : Routine ε ρ τ E (ρ e) := fun t => Program.request e fun r => .done (.ok r, t)

/-- An effect whose reply may be an error. -/
def attempt (e : ε) (f : ρ e → Except E α) : Routine ε ρ τ E α :=
  fun t => Program.request e fun r => .done (f r, t)

def record : Routine ε ρ τ E τ := fun t => .done (.ok t, t)

def change (f : τ → τ) : Routine ε ρ τ E Unit := fun t => .done (.ok (), f t)

/-- The early failure of a check. -/
def refuseIf (c : Prop) [Decidable c] (e : E) : Routine ε ρ τ E Unit :=
  if c then throw e else pure ()

/-- A value that may be an error. -/
def require : Except E α → Routine ε ρ τ E α
  | .ok a => pure a
  | .error e => throw e

/-- The outcome of a routine as a value. -/
def caught (x : Routine ε ρ τ E α) : Routine ε ρ τ E (Except E α) :=
  fun t => (x t).bind fun r => .done (.ok r.1, r.2)

/-- One routine after the other, until one fails. -/
def each (f : α → Routine ε ρ τ E Unit) : List α → Routine ε ρ τ E Unit
  | [] => pure ()
  | a :: l => do
    f a
    each f l

/-- The values the routines return, in order. -/
def gather (f : α → Routine ε ρ τ E (Option β)) : List α → Routine ε ρ τ E (List β)
  | [] => pure []
  | a :: l => do
    let b ← f a
    let bs ← gather f l
    return b.toList ++ bs

end Routine

open Routine

namespace World

/-- What a routine that succeeds or fails leaves behind. -/
def ends (good : α → τ → σ → Prop) (bad : E → τ → σ → Prop) : Except E α × τ → σ → Prop
  | (.ok a, t) => good a t
  | (.error e, t) => bad e t

variable (W : World ε ρ σ ω ι) (guard : ε → σ → Prop)

/-- From every record and state of `pre`, the routine is safe, and it ends in `good` or `bad`. -/
structure Runs (pre : τ → σ → Prop) (x : Routine ε ρ τ E α) (good : α → τ → σ → Prop)
    (bad : E → τ → σ → Prop) : Prop where
  triple : ∀ t, W.Triple guard (pre t) (x t) (ends good bad)

variable {W guard} {pre pre' : τ → σ → Prop} {x : Routine ε ρ τ E α} {f : α → Routine ε ρ τ E β}
  {good good' : α → τ → σ → Prop} {post : β → τ → σ → Prop} {bad bad' : E → τ → σ → Prop}

namespace Runs

theorem conseq (h : W.Runs guard pre x good bad) (hpre : ∀ t s, pre' t s → pre t s)
    (hgood : ∀ a t s, good a t s → good' a t s) (hbad : ∀ e t s, bad e t s → bad' e t s) :
    W.Runs guard pre' x good' bad' :=
  ⟨fun t => (h.triple t).conseq (hpre t) fun r s hr => by
    obtain ⟨a | e, t'⟩ := r
    · exact hbad _ _ _ hr
    · exact hgood _ _ _ hr⟩

theorem bind (mid : α → τ → σ → Prop) (hx : W.Runs guard pre x mid bad)
    (hbad : ∀ e t, W.Stable (bad e t))
    (hf : ∀ a, W.Runs guard (mid a) (f a) post bad) : W.Runs guard pre (x >>= f) post bad := by
  refine ⟨fun t s hs => ?_⟩
  change W.Safe guard _ (Program.bind (x t) fun p => ExceptT.bindCont f p.1 p.2) s
  refine Safe.bind ((hx.triple t s hs).mono fun r s' h => ?_)
  obtain ⟨e | a, t'⟩ := r
  · exact fun s₁ h₁ => (hbad e t').interferes h₁ h
  · exact (hf a).triple t' s' h

variable {c : Prop} {_ : Decidable c} {e : ε} {err : E}

theorem pure {a : α} (hst : ∀ t, W.Stable (pre t)) (h : ∀ t s, pre t s → good a t s) :
    W.Runs guard pre (Pure.pure a : Routine ε ρ τ E α) good bad :=
  ⟨fun t => .done (hst t) (h t)⟩

theorem throw (hst : ∀ t, W.Stable (pre t)) (h : ∀ t s, pre t s → bad err t s) :
    W.Runs guard pre (MonadExcept.throw err : Routine ε ρ τ E α) good bad :=
  ⟨fun t => .done (hst t) (h t)⟩

theorem refuseIf (hst : ∀ t, W.Stable (pre t)) (h : ∀ t s, pre t s → c → bad err t s) :
    W.Runs guard pre (Routine.refuseIf c err) (fun _ t s => pre t s ∧ ¬ c) bad := by
  by_cases hc : c
  · rw [Routine.refuseIf, if_pos hc]
    exact .throw hst fun t s hs => h t s hs hc
  · rw [Routine.refuseIf, if_neg hc]
    exact .pure hst fun t s hs => ⟨hs, hc⟩

theorem record (hst : ∀ t, W.Stable (pre t)) :
    W.Runs guard pre (Routine.record : Routine ε ρ τ E τ) (fun a t s => pre t s ∧ a = t) bad :=
  ⟨fun t => .done (hst t) fun _ hs => ⟨hs, rfl⟩⟩

theorem change {f : τ → τ} {after : τ → σ → Prop} (hst : ∀ t, W.Stable (pre t))
    (h : ∀ t s, pre t s → after (f t) s) :
    W.Runs guard pre (Routine.change f : Routine ε ρ τ E Unit) (fun _ => after) bad :=
  ⟨fun t => .done (hst t) (h t)⟩

theorem require {r : Except E α} (hst : ∀ t, W.Stable (pre t))
    (h : ∀ e t s, pre t s → r = .error e → bad e t s) :
    W.Runs guard pre (Routine.require r) (fun a t s => pre t s ∧ r = .ok a) bad := by
  cases r with
  | ok a => exact .pure hst fun t s hs => ⟨hs, rfl⟩
  | error e => exact .throw hst fun t s hs => h e t s hs rfl

theorem ask {good : ρ e → τ → σ → Prop} (hst : ∀ t, W.Stable (pre t))
    (hg : ∀ t s, pre t s → guard e s)
    (hr : ∀ t s o, pre t s → good (W.handle s e o).1 t (W.handle s e o).2)
    (hgood : ∀ r t, W.Stable (good r t)) :
    W.Runs guard pre (Routine.ask e : Routine ε ρ τ E (ρ e)) good bad :=
  ⟨fun t => .request (fun r => good r t) (hst t) (hg t) (hr t) fun r =>
    .done (hgood r t) fun _ h => h⟩

theorem attempt {g : ρ e → Except E α} (mid : ρ e → τ → σ → Prop) (hst : ∀ t, W.Stable (pre t))
    (hg : ∀ t s, pre t s → guard e s)
    (hr : ∀ t s o, pre t s → mid (W.handle s e o).1 t (W.handle s e o).2)
    (hmid : ∀ r t, W.Stable (mid r t))
    (hgood : ∀ r a t s, mid r t s → g r = .ok a → good a t s)
    (hbad : ∀ r err t s, mid r t s → g r = .error err → bad err t s) :
    W.Runs guard pre (Routine.attempt e g : Routine ε ρ τ E α) good bad :=
  ⟨fun t => .request (fun r => mid r t) (hst t) (hg t) (hr t) fun r =>
    .done (hmid r t) fun s hm => by
      cases h : g r with
      | ok a => exact hgood r a t s hm h
      | error err => exact hbad r err t s hm h⟩

/-- A fact that the assertion implies may be used to prove the rest. -/
theorem given {φ : Prop} (hφ : ∀ t s, pre t s → φ) (h : φ → W.Runs guard pre x good bad) :
    W.Runs guard pre x good bad :=
  ⟨fun t s hs => (h (hφ t s hs)).triple t s hs⟩

/-! Rules that keep an assertion. -/

theorem check {bad : E → τ → σ → Prop} (hst : ∀ t, W.Stable (pre t))
    (h : ∀ t s, pre t s → c → bad err t s) :
    W.Runs guard pre (Routine.refuseIf c err) (fun _ => pre) bad :=
  (refuseIf hst h).conseq (fun _ _ h => h) (fun _ _ _ h => h.1) fun _ _ _ h => h

theorem look (hst : ∀ t, W.Stable (pre t)) :
    W.Runs guard pre (Routine.record : Routine ε ρ τ E τ) (fun _ => pre) bad :=
  (record hst).conseq (fun _ _ h => h) (fun _ _ _ h => h.1) fun _ _ _ h => h

theorem demand {r : Except E α} (hst : ∀ t, W.Stable (pre t))
    (h : ∀ e t s, pre t s → r = .error e → bad e t s) :
    W.Runs guard pre (Routine.require r) (fun _ => pre) bad :=
  (require hst h).conseq (fun _ _ h => h) (fun _ _ _ h => h.1) fun _ _ _ h => h

/-- The invariant of a loop, by what is left to do. -/
theorem each {f : α → Routine ε ρ τ E Unit} (I : List α → τ → σ → Prop) {xs : List α}
    (hst : ∀ l t, W.Stable (I l t)) (hbad : ∀ e t, W.Stable (bad e t))
    (hf : ∀ a l, a :: l <:+ xs → W.Runs guard (I (a :: l)) (f a) (fun _ => I l) bad) :
    W.Runs guard (I xs) (Routine.each f xs) (fun _ => I []) bad := by
  induction xs with
  | nil => exact .pure (hst []) fun _ _ h => h
  | cons a l ih =>
    apply bind (fun _ => I l) (hf a l (List.suffix_refl _)) hbad
    rintro ⟨⟩
    exact ih fun b l' h => hf b l' (h.trans (List.suffix_cons a l))

/-- Every value gathered is one of the kind each routine returns. -/
theorem gather {f : α → Routine ε ρ τ E (Option β)} (P : β → Prop) {xs : List α}
    (hst : ∀ t, W.Stable (pre t)) (hbad : ∀ e t, W.Stable (bad e t))
    (hf : ∀ a ∈ xs, W.Runs guard pre (f a) (fun b t s => pre t s ∧ ∀ c ∈ b, P c) bad) :
    W.Runs guard pre (Routine.gather f xs) (fun bs t s => pre t s ∧ ∀ c ∈ bs, P c) bad := by
  induction xs with
  | nil => exact .pure hst fun _ _ h => ⟨h, by simp⟩
  | cons a l ih =>
    apply bind _ (hf a List.mem_cons_self) hbad
    intro b
    apply given fun _ _ h => h.2
    intro hb
    apply bind _ ((ih fun c hc => hf c (List.mem_cons_of_mem a hc)).conseq (fun _ _ h => h.1)
      (fun _ _ _ h => h) fun _ _ _ h => h) hbad
    intro bs
    apply given fun _ _ h => h.2
    intro hbs
    refine .pure (fun t s i h => ⟨hst t s i h.1, h.2⟩) fun t s h => ⟨h.1, fun c hc => ?_⟩
    rcases List.mem_append.mp hc with hc | hc
    · exact hb c (by simpa using hc)
    · exact hbs c hc

/-- A caught failure is a value like any other. -/
theorem caught (h : W.Runs guard pre x good bad) (hgood : ∀ a t, W.Stable (good a t))
    (hbad : ∀ e t, W.Stable (bad e t)) :
    W.Runs guard pre x.caught (fun r t => ends good bad (r, t)) bad' := by
  refine ⟨fun t s hs => ?_⟩
  refine Safe.bind ((h.triple t s hs).mono fun r s' hr => ?_)
  obtain ⟨e | a, t'⟩ := r
  · exact fun s₁ h₁ => (hbad e t').interferes h₁ hr
  · exact fun s₁ h₁ => (hgood a t').interferes h₁ hr

end Runs

/-! ### Worlds without interference -/

section Still

variable {W : World ε ρ σ ω Empty} {guard : ε → σ → Prop} {pre pre' bad bad' : τ → σ → Prop}
  {x : Routine ε ρ τ E α} {f : α → Routine ε ρ τ E β} {good mid : α → τ → σ → Prop}
  {post : β → τ → σ → Prop}

theorem stable_still (P : σ → Prop) : W.Stable P := fun _ i => i.elim

/-- A run that ends, of a routine that does not fail, has returned a value. -/
theorem Safe.succeeds {s s' : σ} {p : Program ε ρ (Except E α × τ)} {good : α → τ → σ → Prop}
    (h : W.Safe guard (ends good fun _ _ _ => False) p s) {moves : List (Move ω Empty)}
    {ended : Except E α × τ} (hrun : W.run (s, p) moves = (s', .done ended)) :
    ∃ a, ended.1 = .ok a ∧ good a ended.2 s' := by
  have hsafe := Safe.run (c := (s, p)) h moves
  rw [hrun] at hsafe
  obtain ⟨e | a, t⟩ := ended
  · exact hsafe.returned.elim
  · exact ⟨a, rfl, hsafe.returned⟩

variable (W guard) in
/-- A routine in a world where nothing else moves, whatever its error. -/
abbrev Acts (pre : τ → σ → Prop) (x : Routine ε ρ τ E α) (good : α → τ → σ → Prop)
    (bad : τ → σ → Prop) : Prop :=
  W.Runs guard pre x good fun _ => bad

namespace Acts

theorem via (mid : α → τ → σ → Prop) (hx : W.Acts guard pre x mid bad')
    (hbad : ∀ t s, bad' t s → bad t s) (hf : ∀ a, W.Acts guard (mid a) (f a) post bad) :
    W.Acts guard pre (x >>= f) post bad :=
  .bind mid (hx.conseq (fun _ _ h => h) (fun _ _ _ h => h) fun _ _ _ h => hbad _ _ h)
    (fun _ _ => stable_still _) hf

theorem seq (hx : W.Acts guard pre x mid bad') (hbad : ∀ t s, bad' t s → bad t s)
    (hf : ∀ a, W.Acts guard (mid a) (f a) post bad) : W.Acts guard pre (x >>= f) post bad :=
  .via mid hx hbad hf

theorem weaken (hx : W.Acts guard pre x good bad) (hpre : ∀ t s, pre' t s → pre t s) :
    W.Acts guard pre' x good bad :=
  hx.conseq hpre (fun _ _ _ h => h) fun _ _ _ h => h

theorem of_exists {κ : Type} {p : κ → τ → σ → Prop} (h : ∀ k, W.Acts guard (p k) x good bad) :
    W.Acts guard (fun t s => ∃ k, p k t s) x good bad := by
  refine ⟨fun t s hs => ?_⟩
  obtain ⟨k, hk⟩ := hs
  exact (h k).triple t s hk

theorem pure {a : α} (h : ∀ t s, pre t s → good a t s) :
    W.Acts guard pre (Pure.pure a : Routine ε ρ τ E α) good bad :=
  Runs.pure (fun _ => stable_still _) h

theorem throw {err : E} (h : ∀ t s, pre t s → bad t s) :
    W.Acts guard pre (MonadExcept.throw err : Routine ε ρ τ E α) good bad :=
  Runs.throw (fun _ => stable_still _) h

theorem refuseIf {c : Prop} [Decidable c] {err : E} :
    W.Acts guard pre (Routine.refuseIf c err) (fun _ t s => pre t s ∧ ¬ c) pre :=
  Runs.refuseIf (fun _ => stable_still _) fun _ _ h _ => h

theorem require {r : Except E α} :
    W.Acts guard pre (Routine.require r) (fun a t s => pre t s ∧ r = .ok a) pre :=
  Runs.require (fun _ => stable_still _) fun _ _ _ h _ => h

theorem record :
    W.Acts guard pre (Routine.record : Routine ε ρ τ E τ) (fun a t s => pre t s ∧ a = t) pre :=
  Runs.record fun _ => stable_still _

theorem change {g : τ → τ} (h : ∀ t s, pre t s → pre' (g t) s) :
    W.Acts guard pre (Routine.change g : Routine ε ρ τ E Unit) (fun _ => pre') bad :=
  Runs.change (fun _ => stable_still _) h

theorem attempt {e : ε} {g : ρ e → Except E α} (mid : ρ e → τ → σ → Prop)
    (hg : ∀ t s, pre t s → guard e s)
    (hr : ∀ t s o, pre t s → mid (W.handle s e o).1 t (W.handle s e o).2)
    (hgood : ∀ r a t s, mid r t s → g r = .ok a → good a t s)
    (hbad : ∀ r err t s, mid r t s → g r = .error err → bad t s) :
    W.Acts guard pre (Routine.attempt e g) good bad :=
  Runs.attempt mid (fun _ => stable_still _) hg hr (fun _ _ => stable_still _) hgood hbad

theorem each {g : α → Routine ε ρ τ E Unit} (I : List α → τ → σ → Prop) {xs : List α}
    (hf : ∀ a l, a :: l <:+ xs → W.Acts guard (I (a :: l)) (g a) (fun _ => I l) bad) :
    W.Acts guard (I xs) (Routine.each g xs) (fun _ => I []) bad :=
  Runs.each I (fun _ _ => stable_still _) (fun _ _ => stable_still _) hf

theorem caught (h : W.Acts guard pre x good bad) :
    W.Acts guard pre x.caught (fun r t => ends good (fun _ => bad) (r, t)) bad' :=
  Runs.caught h (fun _ _ => stable_still _) fun _ _ => stable_still _

end Acts

end Still

/-! ### The log of a run -/

/-- The effects issued so far with their replies, the earliest first. -/
abbrev Log (ε : Type) (ρ : ε → Type) := List ((e : ε) × ρ e)

/-- The world that is only its log: every effect is answered as the outcome says. -/
def answers : World ε ρ (Log ε ρ) ((e : ε) → ρ e) Empty where
  handle l e o := (o e, l ++ [⟨e, o e⟩])
  interfere l _ := l

/-- An effect in a world that is only its log. -/
theorem answers_attempt {guard : ε → Log ε ρ → Prop} {pre bad : τ → Log ε ρ → Prop} {e : ε}
    {g : ρ e → Except E α} {good : α → τ → Log ε ρ → Prop} (hg : ∀ t l, pre t l → guard e l)
    (hgood : ∀ t l r a, pre t l → g r = .ok a → good a t (l ++ [⟨e, r⟩]))
    (hbad : ∀ t l r err, pre t l → g r = .error err → bad t (l ++ [⟨e, r⟩])) :
    answers.Acts guard pre (attempt e g) good bad := by
  apply Acts.attempt (fun r t l => ∃ l', pre t l' ∧ l = l' ++ [⟨e, r⟩]) hg
  · exact fun t l o h => ⟨l, h, rfl⟩
  · rintro r a t l ⟨l', h, rfl⟩ ha
    exact hgood t l' r a h ha
  · rintro r err t l ⟨l', h, rfl⟩ herr
    exact hbad t l' r err h herr

variable (W) in
/-- The world that remembers what was issued in it. -/
def logged : World ε ρ (σ × Log ε ρ) ω ι where
  handle s e o := ((W.handle s.1 e o).1, ((W.handle s.1 e o).2, s.2 ++ [⟨e, (W.handle s.1 e o).1⟩]))
  interfere s i := (W.interfere s.1 i, s.2)

theorem logged_interferes {s s' : σ × Log ε ρ} (h : W.logged.Interferes s s') : s'.2 = s.2 := by
  induction h with
  | refl => rfl
  | tail _ hstep ih =>
    obtain ⟨i, rfl⟩ := hstep
    exact ih

/-- A log only grows. -/
theorem Safe.grows {guard : ε → σ × Log ε ρ → Prop} {post : α → σ × Log ε ρ → Prop}
    {p : Program ε ρ α} {s : σ × Log ε ρ} (h : W.logged.Safe guard post p s) :
    W.logged.Safe (fun e s' => guard e s' ∧ s.2 <+: s'.2) (fun a s' => post a s' ∧ s.2 <+: s'.2)
      p s := by
  suffices ∀ l, l <+: s.2 → W.logged.Safe (fun e s' => guard e s' ∧ l <+: s'.2)
      (fun a s' => post a s' ∧ l <+: s'.2) p s from this s.2 (List.prefix_refl _)
  intro l hl
  induction p generalizing s with
  | done a => exact fun s₁ h₁ => ⟨h s₁ h₁, logged_interferes h₁ ▸ hl⟩
  | request e next ih =>
    intro s₁ h₁
    have hl₁ : l <+: s₁.2 := logged_interferes h₁ ▸ hl
    exact ⟨⟨(h s₁ h₁).1, hl₁⟩, fun o => ih _ ((h s₁ h₁).2 o)
      (hl₁.trans (List.prefix_append _ _))⟩

/-- What was issued before a routine is in the log after it. -/
theorem Runs.issued {guard : ε → σ × Log ε ρ → Prop} {pre : τ → σ × Log ε ρ → Prop}
    {x : Routine ε ρ τ E α} {good : α → τ → σ × Log ε ρ → Prop} {bad : E → τ → σ × Log ε ρ → Prop}
    (h : W.logged.Runs guard pre x good bad) (event : (e : ε) × ρ e) :
    W.logged.Runs guard (fun t s => pre t s ∧ event ∈ s.2) x
      (fun a t s => good a t s ∧ event ∈ s.2) (fun e t s => bad e t s ∧ event ∈ s.2) := by
  refine ⟨fun t s hs => ?_⟩
  refine ((h.triple t s hs.1).grows.mono fun r s' hr => ?_).guarded fun e s' hg => hg.1
  obtain ⟨a | e, t'⟩ := r
  · exact ⟨hr.1, hr.2.subset hs.2⟩
  · exact ⟨hr.1, hr.2.subset hs.2⟩

/-- What a log says for good keeps every routine safe whose effects need no more. -/
theorem Runs.lasting {guard : ε → σ × Log ε ρ → Prop} {P : Log ε ρ → Prop}
    (hP : ∀ l l', l <+: l' → P l → P l') (hg : ∀ e s, P s.2 → guard e s)
    (x : Routine ε ρ τ E α) :
    W.logged.Runs guard (fun _ s => P s.2) x (fun _ _ s => P s.2) (fun _ _ s => P s.2) := by
  refine ⟨fun t s hs => ?_⟩
  refine ((Safe.trivial (x t) s).grows.mono fun r s' hr => ?_).guarded fun e s' he =>
    hg e s' (hP _ _ he.2 hs)
  obtain ⟨a | e, t'⟩ := r
  · exact hP _ _ hr.2 hs
  · exact hP _ _ hr.2 hs

end World

end Foundation
