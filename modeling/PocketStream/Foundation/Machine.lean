import Mathlib.Data.List.Basic

/-! # Machines and their runs

A machine takes calls one after another, in any order it accepts them. An
assertion that holds at the start and is kept by every admissible step holds in
every state that admissible steps reach.
-/

namespace Foundation

variable {σ κ : Type}

/-- An initial state and the calls each state accepts. -/
structure Machine (σ κ : Type) where
  initial : σ
  step : σ → κ → Option σ

namespace Machine

variable (M : Machine σ κ)

def run (s : σ) (calls : List κ) : Option σ := calls.foldlM M.step s

/-- Reached by a run whose steps are all admissible. -/
inductive Reaches (admissible : σ → κ → Prop) : σ → Prop where
  | initial : Reaches admissible M.initial
  | step {s s' : σ} {call : κ} (h : Reaches admissible s) (ha : admissible s call)
      (hs : M.step s call = some s') : Reaches admissible s'

/-- Reached by any run. -/
def Reachable (s : σ) : Prop := M.Reaches (fun _ _ => True) s

variable {M} {admissible : σ → κ → Prop} {s s' : σ} {P Q : σ → Prop}

theorem Reaches.reachable (h : M.Reaches admissible s) : M.Reachable s := by
  induction h with
  | initial => exact .initial
  | step _ _ hs ih => exact .step ih trivial hs

theorem Reaches.mono {admissible' : σ → κ → Prop}
    (ha : ∀ s call, admissible s call → admissible' s call) (h : M.Reaches admissible s) :
    M.Reaches admissible' s := by
  induction h with
  | initial => exact .initial
  | step _ hadm hs ih => exact .step ih (ha _ _ hadm) hs

theorem Reachable.run {calls : List κ} (h : M.Reachable s) (hr : M.run s calls = some s') :
    M.Reachable s' := by
  induction calls generalizing s with
  | nil => exact Option.some.inj hr ▸ h
  | cons call calls ih =>
    obtain ⟨s₁, hs, hr⟩ := Option.bind_eq_some_iff.mp hr
    exact ih (.step h trivial hs) hr

/-- Every step of the run from `s` is admissible. -/
def Admits (M : Machine σ κ) (admissible : σ → κ → Prop) (s : σ) : List κ → Prop
  | [] => True
  | call :: calls => admissible s call ∧ ∀ s', M.step s call = some s' → M.Admits admissible s' calls

instance [∀ s call, Decidable (admissible s call)] :
    ∀ (s : σ) (calls : List κ), Decidable (M.Admits admissible s calls)
  | _, [] => isTrue trivial
  | s, call :: calls =>
    have : Decidable (∀ s', M.step s call = some s' → M.Admits admissible s' calls) :=
      match M.step s call with
      | none => isTrue nofun
      | some s₁ =>
        have := instDecidableAdmits s₁ calls
        decidable_of_iff (M.Admits admissible s₁ calls)
          ⟨fun ha _ hs => Option.some.inj hs ▸ ha, fun ha => ha s₁ rfl⟩
    inferInstanceAs (Decidable (admissible s call ∧
      ∀ s', M.step s call = some s' → M.Admits admissible s' calls))

theorem Reaches.run {calls : List κ} (h : M.Reaches admissible s)
    (ha : M.Admits admissible s calls) (hr : M.run s calls = some s') :
    M.Reaches admissible s' := by
  induction calls generalizing s with
  | nil => exact Option.some.inj hr ▸ h
  | cons call calls ih =>
    obtain ⟨s₁, hs, hr⟩ := Option.bind_eq_some_iff.mp hr
    exact ih (.step h ha.1 hs) (ha.2 s₁ hs) hr

theorem Reachable.invariant (hinit : P M.initial)
    (hstep : ∀ s call s', P s → M.step s call = some s' → P s') (h : M.Reachable s) : P s := by
  induction h with
  | initial => exact hinit
  | step _ _ hs ih => exact hstep _ _ _ ih hs

/-- An assertion kept by the admissible steps of states that a known invariant describes. -/
theorem Reaches.invariant (hQ : ∀ s, M.Reachable s → Q s) (hinit : P M.initial)
    (hstep : ∀ s call s', Q s → P s → admissible s call → M.step s call = some s' → P s')
    (h : M.Reaches admissible s) : P s := by
  induction h with
  | initial => exact hinit
  | step h ha hs ih => exact hstep _ _ _ (hQ _ h.reachable) ih ha hs

end Machine

end Foundation
