import Mathlib.Data.List.Perm.Basic

/-! # Bounded windows

Jobs are started in their order: a bounded number of them at first, and one more for
each that ends, whichever that is. Every job is started once, no more than the bound
are under way, and once none is, all of them have ended.
-/

namespace Foundation

structure Window (α β : Type) where
  waiting : List α
  pending : List α
  started : List α
  /-- The jobs that ended, with their outcomes. -/
  ended : List (α × β)

namespace Window

variable {α β : Type} {cap : ℕ} {jobs : List α}

/-- The first waiting job starts. -/
def next (w : Window α β) : Window α β :=
  match w.waiting with
  | [] => w
  | a :: rest =>
    { w with waiting := rest, pending := w.pending ++ [a], started := w.started ++ [a] }

def fill : ℕ → Window α β → Window α β
  | 0, w => w
  | n + 1, w => fill n w.next

/-- The window as it opens on its jobs. -/
def opened (cap : ℕ) (jobs : List α) : Window α β := fill cap ⟨jobs, [], [], []⟩

/-- The pending job at the given place ends, and the next one starts. -/
def finish (w : Window α β) (i : ℕ) (b : β) : Option (Window α β) :=
  w.pending[i]?.map fun a =>
    { w with pending := w.pending.eraseIdx i, ended := w.ended ++ [(a, b)] }.next

/-- Every job is waiting or started, and every started one is pending or has ended. -/
structure Accounted (jobs : List α) (w : Window α β) : Prop where
  order : w.started ++ w.waiting = jobs
  started : w.started.Perm (w.ended.map Prod.fst ++ w.pending)

/-- No job waits while there is room. -/
structure Full (cap : ℕ) (w : Window α β) : Prop where
  pending : w.pending.length ≤ cap
  waiting : w.waiting ≠ [] → w.pending.length = cap

variable {w w' : Window α β} {i : ℕ} {b : β}

theorem Accounted.next (h : w.Accounted jobs) : w.next.Accounted jobs := by
  obtain ⟨horder, hstarted⟩ := h
  unfold Window.next
  split
  · exact ⟨horder, hstarted⟩
  next a rest hw =>
    refine ⟨?_, ?_⟩
    · rw [← horder, hw, List.append_assoc]
      rfl
    · rw [← List.append_assoc]
      exact hstarted.append_right [a]

theorem Accounted.fill (h : w.Accounted jobs) (n : ℕ) : (fill n w).Accounted jobs := by
  induction n generalizing w with
  | zero => exact h
  | succ n ih => exact ih h.next

theorem accounted_opened (cap : ℕ) (jobs : List α) :
    (opened cap jobs : Window α β).Accounted jobs :=
  Accounted.fill (w := ⟨jobs, [], [], []⟩) ⟨rfl, .refl _⟩ cap

theorem next_pending (w : Window α β) :
    w.next.pending.length = w.pending.length + min 1 w.waiting.length := by
  unfold next
  split
  next hw => simp [hw]
  next a rest hw =>
    rw [hw, List.length_append]
    simp

theorem next_waiting (w : Window α β) : w.next.waiting.length = w.waiting.length - 1 := by
  unfold next
  split
  next hw => simp [hw]
  next a rest hw => simp [hw]

/-- Room for some more jobs is filled by that many. -/
theorem full_fill (n : ℕ) (h : w.pending.length + n ≤ cap)
    (hroom : w.waiting ≠ [] → w.pending.length + n = cap) : (fill n w).Full cap := by
  induction n generalizing w with
  | zero => exact ⟨h, hroom⟩
  | succ n ih =>
    have hp := next_pending w
    have hw := next_waiting w
    refine ih (by omega) fun hnext => ?_
    have hmore : w.next.waiting.length ≠ 0 := fun h0 => hnext (List.length_eq_zero_iff.mp h0)
    have := hroom fun h0 => hmore (by rw [hw, h0]; rfl)
    omega

theorem full_opened (cap : ℕ) (jobs : List α) : (opened cap jobs : Window α β).Full cap :=
  full_fill cap (by simp) fun _ => by simp

theorem Accounted.finish (h : w.Accounted jobs) (hf : w.finish i b = some w') :
    w'.Accounted jobs := by
  obtain ⟨a, ha, rfl⟩ := Option.map_eq_some_iff.mp hf
  refine Accounted.next ⟨h.order, h.started.trans ?_⟩
  obtain ⟨hi, rfl⟩ := List.getElem?_eq_some_iff.mp ha
  rw [List.map_append, List.append_assoc]
  exact (List.getElem_cons_eraseIdx_perm hi).symm.append_left _

theorem Full.finish (h : w.Full cap) (hf : w.finish i b = some w') : w'.Full cap := by
  obtain ⟨a, ha, rfl⟩ := Option.map_eq_some_iff.mp hf
  obtain ⟨hi, -⟩ := List.getElem?_eq_some_iff.mp ha
  have hlen := List.length_eraseIdx_of_lt hi
  have := h.pending
  refine full_fill 1 (by simp only [hlen]; omega) fun hw => ?_
  have := h.waiting hw
  simp only [hlen]
  omega

/-- As many jobs as have ended and are still to end. -/
theorem Accounted.length (h : w.Accounted jobs) :
    w.ended.length + w.pending.length + w.waiting.length = jobs.length := by
  have hlen := h.started.length_eq
  rw [← h.order, List.length_append, hlen, List.length_append, List.length_map]

theorem finish_ended (hf : w.finish i b = some w') : w'.ended.length = w.ended.length + 1 := by
  obtain ⟨a, -, rfl⟩ := Option.map_eq_some_iff.mp hf
  unfold next
  split <;> simp

/-- Once no job is pending, every job has ended. -/
theorem ended_of_idle (ha : w.Accounted jobs) (hf : w.Full cap) (hcap : 0 < cap)
    (hidle : w.pending = []) : (w.ended.map Prod.fst).Perm jobs := by
  have hnone : w.waiting = [] := by
    by_contra hw
    have := hf.waiting hw
    rw [hidle, List.length_nil] at this
    omega
  rw [← ha.order, hnone, List.append_nil]
  have := ha.started
  rw [hidle, List.append_nil] at this
  exact this.symm

end Window

end Foundation
