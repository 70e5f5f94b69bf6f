import Mathlib.Data.List.Perm.Basic
import Mathlib.Data.List.Range

/-! # Tickets

Tickets are numbered as they are drawn, and each is called once. Those that still
wait do so in the order they were drawn, so that each call of the first one brings
every other one nearer to its turn.
-/

namespace Foundation

structure Tickets where
  drawn : ℕ
  waiting : List ℕ
  called : List ℕ

namespace Tickets

/-- Every ticket drawn was called, once, or waits in its place. -/
structure Sound (t : Tickets) : Prop where
  inOrder : t.waiting.Pairwise (· < ·)
  once : (t.called ++ t.waiting).Perm (List.range t.drawn)

def draw (t : Tickets) : Tickets := ⟨t.drawn + 1, t.waiting ++ [t.drawn], t.called⟩

def call (t : Tickets) (n : ℕ) : Tickets := ⟨t.drawn, t.waiting.erase n, n :: t.called⟩

/-- How many tickets wait up to a given one. -/
def ahead (t : Tickets) (n : ℕ) : ℕ := t.waiting.countP (· ≤ n)

variable {t : Tickets} {m n : ℕ}

theorem Sound.lt_of_waiting (h : t.Sound) (hn : n ∈ t.waiting) : n < t.drawn :=
  List.mem_range.mp (h.once.mem_iff.mp (List.mem_append_right _ hn))

theorem Sound.lt_of_called (h : t.Sound) (hn : n ∈ t.called) : n < t.drawn :=
  List.mem_range.mp (h.once.mem_iff.mp (List.mem_append_left _ hn))

theorem Sound.not_called (h : t.Sound) (hn : n ∈ t.waiting) : n ∉ t.called :=
  fun hc => (List.nodup_append.mp (h.once.nodup_iff.mpr List.nodup_range)).2.2 n hc n hn rfl

theorem Sound.count_called (h : t.Sound) (hn : n < t.drawn) (hw : n ∉ t.waiting) :
    t.called.count n = 1 := by
  have hcount := h.once.count_eq n
  rwa [List.count_append, List.count_eq_zero_of_not_mem hw, Nat.add_zero,
    List.nodup_range.count, if_pos (List.mem_range.mpr hn)] at hcount

theorem Sound.draw (h : t.Sound) : t.draw.Sound where
  inOrder := List.pairwise_append.mpr ⟨h.inOrder, List.pairwise_singleton _ _,
    fun _ hn _ hm => List.mem_singleton.mp hm ▸ h.lt_of_waiting hn⟩
  once := by
    rw [Tickets.draw, ← List.append_assoc, List.range_succ]
    exact h.once.append_right _

theorem Sound.call (h : t.Sound) (hn : n ∈ t.waiting) : (t.call n).Sound where
  inOrder := h.inOrder.sublist List.erase_sublist
  once := by
    have hmoved : (n :: t.called ++ t.waiting.erase n).Perm (t.called ++ t.waiting) :=
      (List.perm_middle.symm).trans ((List.perm_cons_erase hn).symm.append_left _)
    exact hmoved.trans h.once

theorem not_waiting_of_ahead (hzero : t.ahead n = 0) : n ∉ t.waiting := by
  intro hw
  have hnone := List.countP_eq_zero.mp hzero n hw
  exact hnone (decide_eq_true (Nat.le_refl n))

theorem ahead_draw (hn : n < t.drawn) : t.draw.ahead n = t.ahead n := by
  rw [ahead, draw, List.countP_append, List.countP_singleton, if_neg (by simpa using hn),
    Nat.add_zero, ahead]

theorem ahead_call_le : (t.call m).ahead n ≤ t.ahead n :=
  List.erase_sublist.countP_le

/-- A call of the first ticket brings the others one nearer. -/
theorem Sound.ahead_call (h : t.Sound) {rest : List ℕ} (hw : t.waiting = m :: rest) :
    (t.call m).ahead n ≤ t.ahead n - 1 := by
  rw [ahead, ahead, Tickets.call, hw, List.erase_cons_head, List.countP_cons]
  split
  · exact Nat.le_refl _
  next hm =>
    have hlt := (List.pairwise_cons.mp (hw ▸ h.inOrder)).1
    have hzero : rest.countP (· ≤ n) = 0 := by
      refine List.countP_eq_zero.mpr fun k hk hle => hm (decide_eq_true ?_)
      exact Nat.le_trans (Nat.le_of_lt (hlt k hk)) (of_decide_eq_true hle)
    rw [hzero]

end Tickets

end Foundation
