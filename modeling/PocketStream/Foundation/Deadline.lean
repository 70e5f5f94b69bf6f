import PocketStream.Foundation.Program

/-! # Programs under a deadline

A program that runs as part of a larger one, in a larger world, and that may be
dropped at any of its stops. What is safe on its own is safe there, and what
holds at all of its stops holds when it is dropped.
-/

namespace Foundation

variable {ε ε' : Type} {ρ : ε → Type} {ρ' : ε' → Type} {σ σ' ω ω' ι ι' α : Type}

namespace Program

/-- Every effect is issued through `wrap`, and one that is not answered ends the program. -/
def deadline (wrap : ε → ε') (answer : ∀ e, ρ' (wrap e) → Option (ρ e)) :
    Program ε ρ α → Program ε' ρ' (Option α)
  | done a => done (some a)
  | request e next => request (wrap e) fun r =>
    match answer e r with
    | none => done none
    | some r => deadline wrap answer (next r)

end Program

namespace World

variable {W : World ε ρ σ ω ι} {W' : World ε' ρ' σ' ω' ι'} {guard : ε → σ → Prop}
  {guard' : ε' → σ' → Prop} {post : α → σ → Prop}

/-- What every stop and every return imply holds where a program is. -/
theorem Safe.holds {I : σ → Prop} (hguard : ∀ e s, guard e s → I s)
    (hpost : ∀ a s, post a s → I s) {p : Program ε ρ α} {s : σ} (h : W.Safe guard post p s) :
    I s := by
  cases p with
  | done a => exact hpost a s (h s .refl)
  | request e next => exact hguard e s (h s .refl).1

/-- The larger world `W'` answers the effects of `W` on a part of its state, and keeps a frame
around them. -/
structure Embeds (W : World ε ρ σ ω ι) (W' : World ε' ρ' σ' ω' ι') (guard : ε → σ → Prop)
    (wrap : ε → ε') (answer : ∀ e, ρ' (wrap e) → Option (ρ e)) (part : σ' → σ)
    (frame : σ' → Prop) : Prop where
  frame_stable : W'.Stable frame
  interferes : ∀ s i, W.Interferes (part s) (part (W'.interfere s i))
  frame_handle : ∀ s e o, frame s → guard e (part s) → frame (W'.handle s (wrap e) o).2
  answered : ∀ s e o r, frame s → answer e (W'.handle s (wrap e) o).1 = some r →
    ∃ o', W.handle (part s) e o' = (r, part (W'.handle s (wrap e) o).2)
  dropped : ∀ s e o, frame s → answer e (W'.handle s (wrap e) o).1 = none →
    part (W'.handle s (wrap e) o).2 = part s ∨
      ∃ o', part (W'.handle s (wrap e) o).2 = (W.handle (part s) e o').2

variable {wrap : ε → ε'} {answer : ∀ e, ρ' (wrap e) → Option (ρ e)} {part : σ' → σ}
  {frame : σ' → Prop}

theorem Embeds.interferes_of (h : Embeds W W' guard wrap answer part frame) {s s₁ : σ'}
    (hi : W'.Interferes s s₁) : W.Interferes (part s) (part s₁) := by
  induction hi with
  | refl => exact .refl
  | tail _ hstep ih =>
    obtain ⟨i, rfl⟩ := hstep
    exact ih.trans (h.interferes _ i)

/-- A program that is safe on its own is safe under a deadline in the larger world. -/
theorem Safe.deadline {I : σ → Prop} (h : Embeds W W' guard wrap answer part frame)
    (hI : W.Stable I) (hguard : ∀ e s, guard e s → I s) (hpost : ∀ a s, post a s → I s)
    (hguard' : ∀ e s, frame s → guard e (part s) → guard' (wrap e) s) {p : Program ε ρ α} {s : σ'}
    (hp : W.Safe guard post p (part s)) (hs : frame s) :
    W'.Safe guard'
      (fun r s => frame s ∧ match r with
        | none => I (part s)
        | some a => post a (part s)) (p.deadline wrap answer) s := by
  induction p generalizing s with
  | done a =>
    intro s₁ hi
    exact ⟨h.frame_stable.interferes hi hs, hp _ (h.interferes_of hi)⟩
  | request e next ih =>
    rw [Program.deadline]
    intro s₁ hi
    have hs₁ := h.frame_stable.interferes hi hs
    obtain ⟨he, hnext⟩ := hp _ (h.interferes_of hi)
    refine ⟨hguard' e s₁ hs₁ he, fun o => ?_⟩
    have hframe := h.frame_handle s₁ e o hs₁ he
    cases hr : answer e (W'.handle s₁ (wrap e) o).1 with
    | some r =>
      obtain ⟨o', ho'⟩ := h.answered s₁ e o r hs₁ hr
      have hsafe := hnext o'
      rw [ho'] at hsafe
      simpa only [hr] using ih r hsafe hframe
    | none =>
      have hkept : I (part (W'.handle s₁ (wrap e) o).2) := by
        obtain hsame | ⟨o', ho'⟩ := h.dropped s₁ e o hs₁ hr
        · rw [hsame]
          exact hguard e _ he
        · rw [ho']
          exact (hnext o').holds hguard hpost
      simp only [hr]
      intro s₂ hi₂
      exact ⟨h.frame_stable.interferes hi₂ hframe, hI.interferes (h.interferes_of hi₂) hkept⟩

end World

end Foundation
