import PocketStream.Foundation.Machine

/-! # Machines with a budget

A rank that no step raises and every turn lowers bounds the turns of a run by
the rank it starts with, however many other steps stand between them.
-/

namespace Foundation

variable {σ κ : Type}

namespace Machine

/-- How many steps of a run from `s` are turns. -/
def turns (M : Machine σ κ) (turn : σ → σ → Bool) (s : σ) : List κ → ℕ
  | [] => 0
  | call :: calls =>
    match M.step s call with
    | none => 0
    | some s' => (if turn s s' then 1 else 0) + M.turns turn s' calls

/-- No step raises the rank and every turn lowers it, in the states an invariant describes. -/
structure Ranked (M : Machine σ κ) (P : σ → Prop) (turn : σ → σ → Bool) (rank : σ → ℕ) :
    Prop where
  kept : ∀ s call s', P s → M.step s call = some s' → P s'
  spent : ∀ s call s', P s → M.step s call = some s' →
    (if turn s s' then 1 else 0) + rank s' ≤ rank s

variable {M : Machine σ κ} {P : σ → Prop} {turn : σ → σ → Bool} {rank : σ → ℕ} {s s' : σ}
  {calls : List κ}

theorem Ranked.inv (h : M.Ranked P turn rank) (hs : P s) (hr : M.run s calls = some s') :
    P s' := by
  induction calls generalizing s with
  | nil => exact Option.some.inj hr ▸ hs
  | cons call calls ih =>
    obtain ⟨s₁, hstep, hr⟩ := Option.bind_eq_some_iff.mp hr
    exact ih (h.kept s call s₁ hs hstep) hr

theorem Ranked.turns_le (h : M.Ranked P turn rank) (hs : P s)
    (hr : M.run s calls = some s') : M.turns turn s calls + rank s' ≤ rank s := by
  induction calls generalizing s with
  | nil =>
    cases hr
    simp [turns]
  | cons call calls ih =>
    obtain ⟨s₁, hstep, hr⟩ := Option.bind_eq_some_iff.mp hr
    have hspent := h.spent s call s₁ hs hstep
    have hrest := ih (h.kept s call s₁ hs hstep) hr
    simp only [turns, hstep]
    omega

end Machine

end Foundation
