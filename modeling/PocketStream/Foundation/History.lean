import Mathlib.Data.List.Induction

/-! # Components and their histories

A component answers one call after another. Its history pairs every call with the reply, so
that a law about a reply can speak of the calls before it and of what they were told.
-/

namespace Foundation

variable {σ κ ρ : Type}

/-- Where an entry of a list that grew at its end stands. -/
theorem append_cons_eq_concat {α : Type} {before after xs : List α} {x y : α} :
    xs ++ [y] = before ++ x :: after ↔
      (after = [] ∧ x = y ∧ before = xs) ∨
        ∃ rest, after = rest ++ [y] ∧ xs = before ++ x :: rest := by
  constructor
  · intro h
    rcases List.eq_nil_or_concat after with rfl | ⟨rest, z, rfl⟩
    · obtain ⟨rfl, hx⟩ := List.append_inj' h (by simp)
      obtain rfl := (List.cons.inj hx).1
      exact .inl ⟨rfl, rfl, rfl⟩
    · have hsplit : xs ++ [y] = (before ++ x :: rest) ++ [z] := by simpa using h
      obtain ⟨rfl, hz⟩ := List.append_inj' hsplit (by simp)
      obtain rfl := (List.cons.inj hz).1
      exact .inr ⟨rest, List.concat_eq_append, rfl⟩
  · rintro (⟨rfl, rfl, rfl⟩ | ⟨rest, rfl, rfl⟩)
    · rfl
    · simp

/-- An initial state, and the reply and the next state for each call. -/
structure Component (σ κ ρ : Type) where
  initial : σ
  answer : σ → κ → ρ × σ

namespace Component

variable (C : Component σ κ ρ)

/-- The state after calls. -/
def after (calls : List κ) : σ := calls.foldl (fun s call => (C.answer s call).2) C.initial

/-- The reply to a call after others. -/
def reply (calls : List κ) (call : κ) : ρ := (C.answer (C.after calls) call).1

/-- The calls with their replies. -/
def historyFrom (s : σ) : List κ → List (κ × ρ)
  | [] => []
  | call :: calls => (call, (C.answer s call).1) :: historyFrom (C.answer s call).2 calls

def history (calls : List κ) : List (κ × ρ) := C.historyFrom C.initial calls

@[simp] theorem after_nil : C.after [] = C.initial := rfl

@[simp] theorem after_concat (calls : List κ) (call : κ) :
    C.after (calls ++ [call]) = (C.answer (C.after calls) call).2 := by
  simp [after]

@[simp] theorem history_nil : C.history [] = [] := rfl

theorem historyFrom_concat (s : σ) (calls : List κ) (call : κ) :
    C.historyFrom s (calls ++ [call]) = C.historyFrom s calls ++
      [(call, (C.answer (calls.foldl (fun s call => (C.answer s call).2) s) call).1)] := by
  induction calls generalizing s with
  | nil => rfl
  | cons c calls ih => simp [historyFrom, ih]

@[simp] theorem history_concat (calls : List κ) (call : κ) :
    C.history (calls ++ [call]) = C.history calls ++ [(call, C.reply calls call)] :=
  C.historyFrom_concat C.initial calls call

@[simp] theorem map_fst_history (calls : List κ) : (C.history calls).map Prod.fst = calls := by
  induction calls using List.reverseRecOn with
  | nil => rfl
  | append_singleton calls call ih => simp [ih]

variable {C}

/-- What an entry of the history brings about and every later entry keeps, holds at the end. -/
theorem stands {Q : σ → Prop} {before later : List (κ × ρ)} {entry : κ × ρ}
    (hset : ∀ calls, C.history calls = before → C.reply calls entry.1 = entry.2 →
      Q (C.answer (C.after calls) entry.1).2)
    (hkeep : ∀ s, Q s → ∀ call, (call, (C.answer s call).1) ∈ later → Q (C.answer s call).2)
    {calls : List κ} (h : C.history calls = before ++ entry :: later) : Q (C.after calls) := by
  induction calls using List.reverseRecOn generalizing later with
  | nil => simp at h
  | append_singleton calls call ih =>
    rw [history_concat, append_cons_eq_concat] at h
    rw [after_concat]
    rcases h with ⟨rfl, rfl, rfl⟩ | ⟨rest, rfl, h⟩
    · exact hset calls rfl rfl
    · have hq := ih (fun s hs c hc => hkeep s hs c (by simp [hc])) h
      exact hkeep _ hq call (by simp [reply])

end Component

/-- The calls that have a time come at times that never go back. -/
def Nondecreasing (time : κ → Option ℕ) (calls : List κ) : Prop :=
  (calls.filterMap time).Pairwise (· ≤ ·)

section times

variable {time : κ → Option ℕ} {calls : List κ} {call : κ} {now : ℕ}

theorem Nondecreasing.of_concat (h : Nondecreasing time (calls ++ [call])) :
    Nondecreasing time calls := by
  rw [Nondecreasing, List.filterMap_append, List.pairwise_append] at h
  exact h.1

theorem Nondecreasing.le (h : Nondecreasing time (calls ++ [call])) (hnow : time call = some now) :
    ∀ t ∈ calls.filterMap time, t ≤ now := by
  rw [Nondecreasing, List.filterMap_append, List.pairwise_append] at h
  exact fun t ht => h.2.2 t ht now (by simp [hnow])

end times

end Foundation
