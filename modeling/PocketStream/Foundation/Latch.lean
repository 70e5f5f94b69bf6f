import Mathlib.Data.List.Induction

/-! # Machines that report

A step may report a value. If a report spends the state, and only a renewal makes
it fresh again, then no stretch without a renewal reports twice. If the state
keeps what it reported first, whatever it keeps was reported since the last
renewal.
-/

namespace Foundation

variable {σ ι ω : Type}

structure Reporter (σ ι ω : Type) where
  step : σ → ι → Option ω × σ

namespace Reporter

variable (R : Reporter σ ι ω)

def run (s : σ) (calls : List ι) : σ := calls.foldl (fun s i => (R.step s i).2) s

def reports (s : σ) : List ι → List ω
  | [] => []
  | i :: calls => (R.step s i).1.toList ++ reports (R.step s i).2 calls

/-- A report spends the state, which stays spent until a renewal. -/
structure Spends (Spent : σ → Prop) (renews : ι → Bool) : Prop where
  report : ∀ s i o, renews i = false → (R.step s i).1 = some o → ¬Spent s ∧ Spent (R.step s i).2
  keep : ∀ s i, renews i = false → Spent s → Spent (R.step s i).2

/-- The state holds its first report until a renewal. -/
structure Latches (held : σ → Option ω) (renews : ι → Bool) : Prop where
  keep : ∀ s i, renews i = false → held (R.step s i).2 = (held s).or (R.step s i).1
  renew : ∀ s i, renews i = true → held (R.step s i).2 = none

variable {R} {Spent : σ → Prop} {held : σ → Option ω} {renews : ι → Bool} {s : σ}
  {calls : List ι}

@[simp] theorem run_nil : R.run s [] = s := rfl

@[simp] theorem run_cons (i : ι) : R.run s (i :: calls) = R.run (R.step s i).2 calls := rfl

theorem run_append (before after : List ι) :
    R.run s (before ++ after) = R.run (R.run s before) after := by
  simp [run]

theorem Spends.silent (h : R.Spends Spent renews) (hs : Spent s)
    (hc : ∀ i ∈ calls, renews i = false) : R.reports s calls = [] := by
  induction calls generalizing s with
  | nil => rfl
  | cons i calls ih =>
    have hi : renews i = false := hc i List.mem_cons_self
    have hnone : (R.step s i).1 = none := by
      cases ho : (R.step s i).1 with
      | none => rfl
      | some o => exact absurd hs (h.report s i o hi ho).1
    simp only [reports, hnone, Option.toList_none, List.nil_append]
    exact ih (h.keep s i hi hs) fun j hj => hc j (List.mem_cons_of_mem _ hj)

theorem Spends.once (h : R.Spends Spent renews) (hc : ∀ i ∈ calls, renews i = false) :
    (R.reports s calls).length ≤ 1 := by
  induction calls generalizing s with
  | nil => exact Nat.zero_le _
  | cons i calls ih =>
    have hi : renews i = false := hc i List.mem_cons_self
    have hrest : ∀ j ∈ calls, renews j = false := fun j hj => hc j (List.mem_cons_of_mem _ hj)
    cases ho : (R.step s i).1 with
    | none => simpa [reports, ho] using ih hrest
    | some o =>
      have hspent := (h.report s i o hi ho).2
      simp [reports, ho, h.silent hspent hrest]

/-- What is held was reported since the last renewal. -/
theorem Latches.origin (h : R.Latches held renews) (hs : held s = none) {o : ω}
    (ho : held (R.run s calls) = some o) : ∃ before i after, calls = before ++ i :: after ∧
      (R.step (R.run s before) i).1 = some o ∧ ∀ j ∈ i :: after, renews j = false := by
  induction calls using List.reverseRecOn with
  | nil => cases hs.symm.trans ho
  | append_singleton calls last ih =>
    rw [run_append] at ho
    simp only [run_cons, run_nil] at ho
    by_cases hlast : renews last = true
    · cases (h.renew _ last hlast).symm.trans ho
    · have hlast : renews last = false := by simpa using hlast
      rw [h.keep _ last hlast] at ho
      cases hheld : held (R.run s calls) with
      | none =>
        rw [hheld, Option.none_or] at ho
        exact ⟨calls, last, [], rfl, ho, by simpa using hlast⟩
      | some o' =>
        rw [hheld, Option.some_or] at ho
        obtain ⟨before, i, after, rfl, hi, hrest⟩ := ih (hheld.trans ho)
        refine ⟨before, i, after ++ [last], by simp, hi, fun j hj => ?_⟩
        rw [← List.cons_append] at hj
        obtain hj | hj := List.mem_append.mp hj
        · exact hrest j hj
        · exact List.mem_singleton.mp hj ▸ hlast

end Reporter

end Foundation
