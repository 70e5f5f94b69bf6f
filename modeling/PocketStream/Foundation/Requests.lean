import PocketStream.Foundation.Program

/-! # What a program may issue

The effects that a program can come to, whatever the replies to the effects before are. A
barrier stops the search: an effect of the barrier is reached, and nothing behind it.
-/

namespace Foundation

variable {ε : Type} {ρ : ε → Type} {α β : Type} {barrier : ε → Prop} {e e' : ε}

namespace Program

/-- Some replies lead to the effect, without an effect of the barrier before it. -/
def Issues (barrier : ε → Prop) (e : ε) : Program ε ρ α → Prop
  | done _ => False
  | request e' next => e' = e ∨ ¬ barrier e' ∧ ∃ r, Issues barrier e (next r)

/-- Some replies lead to the value, without an effect of the barrier. -/
def Returns (barrier : ε → Prop) (a : α) : Program ε ρ α → Prop
  | done b => b = a
  | request e next => ¬ barrier e ∧ ∃ r, Returns barrier a (next r)

@[simp] theorem issues_done {a : α} : ¬ (done a : Program ε ρ α).Issues barrier e := id

@[simp] theorem issues_request {next : ρ e' → Program ε ρ α} :
    (request e' next).Issues barrier e ↔
      e' = e ∨ ¬ barrier e' ∧ ∃ r, (next r).Issues barrier e := Iff.rfl

@[simp] theorem returns_done {a b : α} : (done b : Program ε ρ α).Returns barrier a ↔ b = a :=
  Iff.rfl

@[simp] theorem returns_request {a : α} {next : ρ e' → Program ε ρ α} :
    (request e' next).Returns barrier a ↔ ¬ barrier e' ∧ ∃ r, (next r).Returns barrier a := Iff.rfl

@[simp] theorem issues_perform : (perform e' : Program ε ρ (ρ e')).Issues barrier e ↔ e' = e := by
  simp [perform]

@[simp] theorem returns_perform {r : ρ e} :
    (perform e : Program ε ρ (ρ e)).Returns barrier r ↔ ¬ barrier e := by
  simp [perform]

/-- A sequence issues what its first part issues, and what is issued from a value of it. -/
theorem issues_bind {f : α → Program ε ρ β} : ∀ {p : Program ε ρ α},
    (p >>= f).Issues barrier e ↔
      p.Issues barrier e ∨ ∃ a, p.Returns barrier a ∧ (f a).Issues barrier e
  | done a => by simp
  | request e' next => by
    rw [request_bind, issues_request, issues_request]
    simp only [issues_bind, returns_request]
    constructor
    · rintro (rfl | ⟨hb, r, h | ⟨a, ha, h⟩⟩)
      · exact .inl (.inl rfl)
      · exact .inl (.inr ⟨hb, r, h⟩)
      · exact .inr ⟨a, ⟨hb, r, ha⟩, h⟩
    · rintro ((rfl | ⟨hb, r, h⟩) | ⟨a, ⟨hb, r, ha⟩, h⟩)
      · exact .inl rfl
      · exact .inr ⟨hb, r, .inl h⟩
      · exact .inr ⟨hb, r, .inr ⟨a, ha, h⟩⟩

theorem not_issues_bind {f : α → Program ε ρ β} {p : Program ε ρ α} (hp : ¬ p.Issues barrier e)
    (hf : ∀ a, ¬ (f a).Issues barrier e) : ¬ (p >>= f).Issues barrier e := by
  rw [issues_bind, not_or, not_exists]
  exact ⟨hp, fun a h => hf a h.2⟩

theorem returns_bind {f : α → Program ε ρ β} {b : β} : ∀ {p : Program ε ρ α},
    (p >>= f).Returns barrier b ↔ ∃ a, p.Returns barrier a ∧ (f a).Returns barrier b
  | done a => by simp
  | request e' next => by
    rw [request_bind, returns_request]
    simp only [returns_bind, returns_request]
    constructor
    · rintro ⟨hb, r, a, ha, h⟩
      exact ⟨a, ⟨hb, r, ha⟩, h⟩
    · rintro ⟨a, ⟨hb, r, ha⟩, h⟩
      exact ⟨hb, r, a, ha, h⟩

end Program

end Foundation
