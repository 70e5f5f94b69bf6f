import Mathlib.Algebra.Group.Nat.Defs
import Mathlib.Data.List.Basic

/-! # Generations

A gate has a generation and a flag. Work takes the generation of the day as its
ticket, and the ticket is good while the gate is open in that generation.
Whatever reopens a closed gate also advances the generation, so a ticket once
void stays void, until the 64-bit generation comes round again.
-/

namespace Foundation

structure Gate where
  generation : UInt64
  active : Bool
  deriving DecidableEq, Repr

inductive GateStep where
  /-- The next generation, with the gate open or closed. -/
  | enter (active : Bool)
  /-- The next generation, with the gate as it is. -/
  | bump
  | close

namespace Gate

def valid (g : Gate) (ticket : UInt64) : Bool := g.active && ticket == g.generation

def step (g : Gate) : GateStep → Gate
  | .enter active => ⟨g.generation + 1, active⟩
  | .bump => { g with generation := g.generation + 1 }
  | .close => { g with active := false }

def run (g : Gate) (steps : List GateStep) : Gate := steps.foldl step g

/-- How often the steps advance the generation. -/
def advances : List GateStep → ℕ
  | [] => 0
  | .close :: steps => advances steps
  | _ :: steps => advances steps + 1

variable {g : Gate} {before after steps : List GateStep}

theorem advances_append : advances (before ++ after) = advances before + advances after := by
  induction before with
  | nil => simp [advances]
  | cons s before ih => cases s <;> simp only [List.cons_append, advances, ih] <;> omega

theorem run_append : g.run (before ++ after) = (g.run before).run after := List.foldl_append

theorem add_succ_ofNat (a : UInt64) (n : ℕ) : a + 1 + UInt64.ofNat n = a + UInt64.ofNat (n + 1) := by
  rw [UInt64.ofNat_add, UInt64.add_assoc, UInt64.add_comm 1]
  rfl

theorem run_generation : (g.run steps).generation = g.generation + UInt64.ofNat (advances steps) := by
  induction steps generalizing g with
  | nil => simp [run, advances]
  | cons s steps ih =>
    have h := ih (g := g.step s)
    cases s with
    | close => exact h
    | bump => exact h.trans (add_succ_ofNat _ _)
    | enter active => exact h.trans (add_succ_ofNat _ _)

/-- Steps that do not advance the generation only close the gate. -/
theorem active_of_advances_eq_zero (h : advances steps = 0) (ha : (g.run steps).active = true) :
    g.active = true := by
  induction steps generalizing g with
  | nil => exact ha
  | cons s steps ih =>
    cases s with
    | close => cases ih (g := g.step .close) h ha
    | bump => cases h
    | enter active => cases h

/-- A generation comes round again only after all others. -/
theorem advances_eq_zero (hn : advances steps < 2 ^ 64)
    (h : (g.run steps).generation = g.generation) : advances steps = 0 := by
  rw [run_generation] at h
  have hnat := congrArg UInt64.toNat h
  simp only [UInt64.toNat_add, UInt64.toNat_ofNat'] at hnat
  have := g.generation.toNat_lt
  omega

theorem valid_iff {ticket : UInt64} :
    g.valid ticket = true ↔ g.active = true ∧ ticket = g.generation := by
  simp [valid]

/-- A ticket that is void at some point stays void. -/
theorem void_forever (hn : advances (before ++ after) < 2 ^ 64)
    (h : (g.run before).valid g.generation = false) :
    (g.run (before ++ after)).valid g.generation = false := by
  refine Bool.eq_false_iff.mpr fun hvalid => ?_
  obtain ⟨hactive, hgen⟩ := valid_iff.mp hvalid
  have hzero := advances_eq_zero hn hgen.symm
  rw [advances_append] at hzero
  have hbefore : (g.run before).generation = g.generation := by
    rw [run_generation, show advances before = 0 by omega]
    simp
  rw [run_append] at hactive
  have := active_of_advances_eq_zero (show advances after = 0 by omega) hactive
  rw [valid_iff.mpr ⟨this, hbefore.symm⟩] at h
  cases h

/-- A ticket is void once the generation has advanced. -/
theorem void_of_advance (hpos : 0 < advances steps) (hn : advances steps < 2 ^ 64) :
    (g.run steps).valid g.generation = false := by
  refine Bool.eq_false_iff.mpr fun hvalid => ?_
  obtain ⟨-, hgen⟩ := valid_iff.mp hvalid
  have := advances_eq_zero hn hgen.symm
  omega

end Gate

end Foundation
