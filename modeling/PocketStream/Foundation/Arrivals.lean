import Mathlib.Data.List.Chain
import Mathlib.Data.Nat.Notation

/-! # Arrivals without a gap

Times of arrival, the newest first. A stretch is gapless when each arrival comes
within a bound of the one before it.
-/

namespace Foundation

/-- Each time comes less than `gap` after the next older one. -/
def Gapless (gap : ℕ) (times : List ℕ) : Prop :=
  times.IsChain fun later earlier => later < earlier + gap

instance (gap : ℕ) (times : List ℕ) : Decidable (Gapless gap times) :=
  inferInstanceAs (Decidable (List.IsChain _ _))

/-- A gapless stretch of the newest arrivals begins at `since`. -/
def SteadySince (gap since : ℕ) (arrivals : List ℕ) : Prop :=
  ∃ n, Gapless gap (arrivals.take n) ∧ (arrivals.take n).getLast? = some since

/-- Up to `now` there have been arrivals for `window` without a gap. -/
def ArrivingFor (gap window : ℕ) (arrivals : List ℕ) (now : ℕ) : Prop :=
  ∃ n < arrivals.length + 1, Gapless gap (now :: arrivals.take n) ∧
    ((arrivals.take n).getLast?.any fun first => first + window ≤ now) = true

instance (gap window : ℕ) (arrivals : List ℕ) (now : ℕ) :
    Decidable (ArrivingFor gap window arrivals now) :=
  inferInstanceAs (Decidable (∃ n < arrivals.length + 1, _))

variable {gap window since now last : ℕ} {arrivals : List ℕ}

theorem steadySince_single : SteadySince gap now (now :: arrivals) :=
  ⟨1, .singleton now, rfl⟩

/-- A stretch that begins anywhere includes the newest arrival. -/
theorem SteadySince.head (h : SteadySince gap since arrivals) : ∃ last, arrivals.head? = some last := by
  obtain ⟨n, -, hlast⟩ := h
  cases arrivals with
  | nil => simp at hlast
  | cons last older => exact ⟨last, rfl⟩

theorem gapless_cons (h : Gapless gap (arrivals.take n)) (hhead : arrivals.head? = some last)
    (hnow : now < last + gap) : Gapless gap (now :: arrivals.take n) := by
  cases arrivals with
  | nil => cases hhead
  | cons first older =>
    obtain rfl := Option.some.inj hhead
    cases n with
    | zero => exact .singleton now
    | succ n => exact .cons_cons hnow h

theorem SteadySince.cons (h : SteadySince gap since arrivals) (hhead : arrivals.head? = some last)
    (hnow : now < last + gap) : SteadySince gap since (now :: arrivals) := by
  obtain ⟨n, hgapless, hlast⟩ := h
  refine ⟨n + 1, gapless_cons hgapless hhead hnow, ?_⟩
  rw [List.take_succ_cons, List.getLast?_cons, hlast]
  rfl

/-- A stretch that is long enough, and whose newest arrival is not too old. -/
theorem SteadySince.arrivingFor (h : SteadySince gap since arrivals)
    (hhead : arrivals.head? = some last) (hnow : now < last + gap) (hlong : since + window ≤ now) :
    ArrivingFor gap window arrivals now := by
  obtain ⟨n, hgapless, hlast⟩ := h
  refine ⟨min n arrivals.length, by omega, ?_, ?_⟩
  · rw [← List.take_eq_take_min]
    exact gapless_cons hgapless hhead hnow
  · rw [← List.take_eq_take_min, hlast]
    simpa using hlong

end Foundation
