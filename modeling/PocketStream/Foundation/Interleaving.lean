import Mathlib.Logic.Function.Basic
import Mathlib.Data.List.Nodup

/-! # Threads at stages

What a step of one thread leaves true of all of them. Each thread is at a stage;
a lock is held by the thread whose stage says so, and a history records each
thread once, when its stage says that it has taken effect.
-/

namespace Foundation

variable {ι σ : Type} {lock : Option ι} {order : List ι} {stage : ι → σ} {p q : σ → Bool}

/-- The lock is held by the thread whose stage says so. -/
def Held (lock : Option ι) (stage : ι → σ) (p : σ → Bool) : Prop :=
  ∀ i, lock = some i ↔ p (stage i) = true

/-- The history names once each thread that has taken effect. -/
structure Recorded (order : List ι) (stage : ι → σ) (p : σ → Bool) : Prop where
  nodup : order.Nodup
  mem_iff : ∀ i, i ∈ order ↔ p (stage i) = true

/-- No thread is at a stage of this kind. -/
def Quiet (stage : ι → σ) (p : σ → Bool) : Prop := ∀ i, p (stage i) = false

theorem Held.free (h : Held lock stage p) (hl : lock = none) : Quiet stage p := fun i => by
  rw [Bool.eq_false_iff, ne_eq, ← h i, hl]
  exact nofun

theorem Held.other (h : Held lock stage p) {i j : ι} (hi : p (stage i) = true) (hj : j ≠ i) :
    p (stage j) = false := by
  rw [Bool.eq_false_iff]
  intro hp
  rw [← h] at hi hp
  exact hj (Option.some.inj (hp.symm.trans hi))

theorem Quiet.mono (h : Quiet stage q) (hpq : ∀ s, p s = true → q s = true) : Quiet stage p :=
  fun i => Bool.eq_false_iff.mpr fun hp => Bool.false_ne_true ((h i).symm.trans (hpq _ hp))

variable [DecidableEq ι] {i : ι} {s : σ}

theorem Held.keep (h : Held lock stage p) (hs : p s = p (stage i)) :
    Held lock (Function.update stage i s) p := by
  intro j
  rw [h j]
  by_cases hj : j = i
  · rw [hj, Function.update_self, hs]
  · rw [Function.update_of_ne hj]

theorem Held.acquire (h : Held lock stage p) (hl : lock = none) (hs : p s = true) :
    Held (some i) (Function.update stage i s) p := by
  intro j
  by_cases hj : j = i
  · simp [hj, hs]
  · simp [Function.update_of_ne hj, h.free hl j, Ne.symm hj]

theorem Held.release (h : Held lock stage p) (hi : p (stage i) = true) (hs : p s = false) :
    Held none (Function.update stage i s) p := by
  intro j
  by_cases hj : j = i
  · simp [hj, hs]
  · simp [Function.update_of_ne hj, h.other hi hj]

theorem Recorded.keep (h : Recorded order stage p) (hs : p s = p (stage i)) :
    Recorded order (Function.update stage i s) p where
  nodup := h.nodup
  mem_iff j := by
    rw [h.mem_iff j]
    by_cases hj : j = i
    · rw [hj, Function.update_self, hs]
    · rw [Function.update_of_ne hj]

theorem Recorded.record (h : Recorded order stage p) (hi : p (stage i) = false)
    (hs : p s = true) : Recorded (order ++ [i]) (Function.update stage i s) p where
  nodup := by
    have hnew : i ∉ order := by simp [h.mem_iff, hi]
    refine List.nodup_append.mpr ⟨h.nodup, List.nodup_singleton i, fun a ha b hb he => ?_⟩
    rw [List.mem_singleton.mp hb] at he
    exact hnew (he ▸ ha)
  mem_iff j := by
    by_cases hj : j = i
    · simp [hj, hs]
    · simp [h.mem_iff, hj]

theorem Quiet.of_update (h : Quiet (Function.update stage i s) p) (hi : p (stage i) = false) :
    Quiet stage p := fun j => by
  by_cases hj : j = i
  · rw [hj, hi]
  · rw [← h j, Function.update_of_ne hj]

theorem not_quiet_update (hs : p s = true) : ¬ Quiet (Function.update stage i s) p := fun h => by
  have := h i
  rw [Function.update_self, hs] at this
  cases this

end Foundation
