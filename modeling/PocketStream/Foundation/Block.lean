import Mathlib.Algebra.Group.Nat.Defs
import Mathlib.Data.Set.Basic

/-! # Aligned blocks

The numbers that agree above a number of low bits. Of two such blocks one lies
within the other or they are disjoint, so they meet exactly when one holds the
first number of the other.
-/

namespace Foundation

/-- The numbers with one quotient by a power of two. -/
structure Block where
  bits : ℕ
  index : ℕ
  deriving DecidableEq, Repr

namespace Block

instance : Membership ℕ Block := ⟨fun b x => x / 2 ^ b.bits = b.index⟩

instance (x : ℕ) (b : Block) : Decidable (x ∈ b) := inferInstanceAs (Decidable (_ = _))

/-- The block of a number. -/
def of (bits x : ℕ) : Block := ⟨bits, x / 2 ^ bits⟩

def first (b : Block) : ℕ := b.index * 2 ^ b.bits

def last (b : Block) : ℕ := (b.index + 1) * 2 ^ b.bits - 1

variable {a b : Block} {x : ℕ}

theorem mem_def : x ∈ b ↔ x / 2 ^ b.bits = b.index := Iff.rfl

theorem mem_of (bits x : ℕ) : x ∈ of bits x := rfl

theorem eq_of_mem (hbits : a.bits = b.bits) (ha : x ∈ a) (hb : x ∈ b) : a = b := by
  cases a
  cases b
  cases hbits
  exact congrArg _ (ha.symm.trans hb)

theorem mem_iff : x ∈ b ↔ b.first ≤ x ∧ x ≤ b.last := by
  have hpos : 0 < 2 ^ b.bits := Nat.two_pow_pos _
  rw [mem_def, Nat.div_eq_iff hpos, first, last, Nat.succ_mul]

theorem first_mem (b : Block) : b.first ∈ b := Nat.mul_div_cancel _ (Nat.two_pow_pos _)

theorem first_le_last (b : Block) : b.first ≤ b.last := (mem_iff.mp b.first_mem).2

theorem last_mem (b : Block) : b.last ∈ b := mem_iff.mpr ⟨b.first_le_last, le_rfl⟩

/-- A block that meets another one of no more bits holds all of it. -/
theorem mem_of_meet (hbits : a.bits ≤ b.bits) {y : ℕ} (ha : x ∈ a) (hb : x ∈ b) (hy : y ∈ a) :
    y ∈ b := by
  have hdiv (z : ℕ) : z / 2 ^ b.bits = z / 2 ^ a.bits / 2 ^ (b.bits - a.bits) := by
    rw [Nat.div_div_eq_div_mul, ← Nat.pow_add, Nat.add_sub_cancel' hbits]
  rw [mem_def, hdiv, mem_def.mp hy, ← mem_def.mp ha, ← hdiv, mem_def.mp hb]

theorem meet_iff : (∃ x, x ∈ a ∧ x ∈ b) ↔ b.first ∈ a ∨ a.first ∈ b := by
  constructor
  · rintro ⟨x, ha, hb⟩
    rcases Nat.le_total a.bits b.bits with h | h
    · exact .inr (mem_of_meet h ha hb a.first_mem)
    · exact .inl (mem_of_meet h hb ha b.first_mem)
  · rintro (h | h)
    · exact ⟨_, h, b.first_mem⟩
    · exact ⟨_, a.first_mem, h⟩

/-- Two blocks are disjoint when one ends before the other begins. -/
theorem apart_iff : (∀ x ∈ a, x ∉ b) ↔ a.last < b.first ∨ b.last < a.first := by
  constructor
  · intro h
    by_contra hc
    obtain ⟨hab, hba⟩ := not_or.mp hc
    rcases Nat.le_total a.first b.first with hle | hle
    · exact h _ (mem_iff.mpr ⟨hle, not_lt.mp hab⟩) b.first_mem
    · exact h _ a.first_mem (mem_iff.mpr ⟨hle, not_lt.mp hba⟩)
  · intro h x ha hb
    rw [mem_iff] at ha hb
    omega

end Block

end Foundation
