import PocketStream.Foundation.FiniteMap

/-! # Entries that expire

A map from keys to the times at which they were last seen. Entries are dropped by age, and a
full map makes room for a new key by dropping one that was seen longest ago, whichever it is
where several are.
-/

namespace Foundation

variable {κ : Type} {α : Type}

/-- Seen less than `ttl` before `now`. -/
def young (ttl now seen : ℕ) : Bool := now - seen < ttl

theorem young_iff {ttl now seen : ℕ} (h : 0 < ttl) :
    young ttl now seen = true ↔ now < seen + ttl := by
  rw [young, decide_eq_true_eq]
  omega

/-- What is dropped by age stays out of every later view. -/
theorem filter_young_of_le {ttl t now : ℕ} {f : α → ℕ} {x : Option α} (h : t ≤ now) :
    (x.filter fun a => young ttl t (f a)).filter (fun a => young ttl now (f a)) =
      x.filter fun a => young ttl now (f a) := by
  cases x with
  | none => rfl
  | some a =>
    have hle : young ttl now (f a) = true → young ttl t (f a) = true := by
      simp only [young, decide_eq_true_eq]
      omega
    rw [Option.filter_filter, Option.filter_some, Option.filter_some]
    cases ha : young ttl now (f a)
    · simp
    · simp [hle ha]

namespace FiniteMap

variable [DecidableEq κ] {m : FiniteMap κ ℕ} {k : κ} {t : ℕ}

/-- No entry is older. -/
def IsOldest (m : FiniteMap κ ℕ) (k : κ) : Prop :=
  ∃ t, m.lookup k = some t ∧ ∀ k' t', m.lookup k' = some t' → t ≤ t'

theorem exists_isOldest (h : m.lookup k = some t) : ∃ k, m.IsOldest k := by
  induction t using Nat.strong_induction_on generalizing k with
  | _ t ih =>
    by_cases hold : ∀ k' t', m.lookup k' = some t' → t ≤ t'
    · exact ⟨k, t, h, hold⟩
    · simp only [not_forall, not_le] at hold
      obtain ⟨k', t', hk', hlt⟩ := hold
      exact ih t' hlt hk'

end FiniteMap

/-- A search for an oldest entry, in whatever order it visits them. -/
structure OldestFirst (κ : Type) [DecidableEq κ] where
  pick : FiniteMap κ ℕ → Option κ
  isOldest : ∀ m k, pick m = some k → m.IsOldest k
  finds : ∀ m, pick m = none → m.keys = ∅

open Classical in
/-- Some search. -/
noncomputable def OldestFirst.some (κ : Type) [DecidableEq κ] : OldestFirst κ where
  pick m := if h : ∃ k, m.IsOldest k then h.choose else none
  isOldest m k h := by
    obtain ⟨hk, heq⟩ := Option.dite_none_right_eq_some.mp h
    exact Option.some.inj heq ▸ hk.choose_spec
  finds m h := by
    by_contra hne
    obtain ⟨k, hk⟩ := Finset.nonempty_iff_ne_empty.mpr hne
    obtain ⟨t, ht⟩ := Finmap.mem_iff.mp (Finmap.mem_keys.mp hk)
    rw [dif_pos (FiniteMap.exists_isOldest ht)] at h
    cases h

namespace FiniteMap

variable [DecidableEq κ]

/-- The key that makes room for a new one. -/
def victim (capacity : ℕ) (order : OldestFirst κ) (m : FiniteMap κ ℕ) (key : κ) : Option κ :=
  if capacity ≤ m.keys.card ∧ key ∉ m.keys then order.pick m else none

/-- Drop what expired, make room, and note when the key was seen. -/
def touch (capacity ttl : ℕ) (order : OldestFirst κ) (m : FiniteMap κ ℕ) (key : κ) (now : ℕ) :
    Option κ × FiniteMap κ ℕ :=
  let m := m.retain fun _ seen => young ttl now seen
  let oldest := m.victim capacity order key
  (oldest, (oldest.elim m m.erase).insert key now)

variable {capacity ttl now : ℕ} {order : OldestFirst κ} {m : FiniteMap κ ℕ} {key k : κ}

/-- Room is made only in a full map, at the cost of an oldest entry. -/
theorem victim_eq_some (h : m.victim capacity order key = some k) :
    capacity ≤ m.keys.card ∧ key ∉ m.keys ∧ m.IsOldest k := by
  obtain ⟨⟨hfull, hnew⟩, hpick⟩ := Option.ite_none_right_eq_some.mp h
  exact ⟨hfull, hnew, order.isOldest m k hpick⟩

theorem card_touch_le (hpos : 0 < capacity) (hcard : m.keys.card ≤ capacity) :
    (m.touch capacity ttl order key now).2.keys.card ≤ capacity := by
  unfold touch
  dsimp only
  generalize hkept : m.retain (fun _ seen => young ttl now seen) = kept
  have hle : kept.keys.card ≤ capacity := by
    rw [← hkept]
    exact (Finset.card_le_card (keys_retain_subset _ m)).trans hcard
  rw [keys_insert]
  by_cases hnew : key ∈ kept.keys
  · have hnone : kept.victim capacity order key = none := if_neg fun h => h.2 hnew
    rw [hnone, Option.elim_none, Finset.insert_eq_of_mem hnew]
    exact hle
  · by_cases hfull : capacity ≤ kept.keys.card
    · have hpick : kept.victim capacity order key = order.pick kept := if_pos ⟨hfull, hnew⟩
      rw [hpick]
      cases hk : order.pick kept with
      | none =>
        rw [order.finds kept hk, Finset.card_empty] at hfull
        omega
      | some k =>
        obtain ⟨t, ht, -⟩ := order.isOldest kept k hk
        have hmem := mem_keys_of_lookup ht
        rw [Option.elim_some, keys_erase]
        have herase := Finset.card_erase_of_mem hmem
        have hinsert := Finset.card_insert_le key (kept.keys.erase k)
        omega
    · have hnone : kept.victim capacity order key = none := if_neg fun h => hfull h.1
      rw [hnone, Option.elim_none]
      have hinsert := Finset.card_insert_le key kept.keys
      omega

theorem lookup_touch (k : κ) : (m.touch capacity ttl order key now).2.lookup k =
    if k = key then some now
    else if (m.touch capacity ttl order key now).1 = some k then none
    else (m.lookup k).filter (young ttl now) := by
  unfold touch
  dsimp only
  rw [lookup_insert]
  split
  · rfl
  · obtain hnone | ⟨k', hsome⟩ := Option.eq_none_or_eq_some
      ((m.retain fun _ seen => young ttl now seen).victim capacity order key)
    · simp [hnone]
    · simp only [hsome, Option.elim_some, lookup_erase, lookup_retain]
      by_cases hk : k = k'
      · simp [hk]
      · simp [hk, Ne.symm hk]

end FiniteMap

end Foundation
