import PocketStream.Foundation.FiniteMap

/-! # Flags of change

A procedure that says whether it changed its argument sets a flag at each of its writes.
Two exact flags together are exact unless the second write undoes the first.
-/

namespace Foundation

variable {σ : Type} {s s' s'' : σ} {b b' : Bool}

/-- The flag is set where the argument has changed, and only there. -/
def Exact (b : Bool) (s s' : σ) : Prop := b = true ↔ s' ≠ s

theorem exact_same (s : σ) : Exact false s s := by simp [Exact]

theorem exact_ite {c : Prop} [Decidable c] (hb : b = true ↔ c ∧ s' ≠ s) :
    Exact b s (if c then s' else s) := by
  unfold Exact
  rw [hb]
  split
  · next hc => exact ⟨And.right, fun hne => ⟨hc, hne⟩⟩
  · next hc => exact ⟨fun h => absurd h.1 hc, fun hne => absurd rfl hne⟩

theorem Exact.eq (h : Exact b s s') (hb : b = false) : s' = s := by
  by_contra hne
  rw [h.mpr hne] at hb
  cases hb

theorem exact_or_iff (h : Exact b s s') (h' : Exact b' s' s'') :
    Exact (b || b') s s'' ↔ (s'' = s → s' = s) := by
  unfold Exact at h h' ⊢
  rw [Bool.or_eq_true, h, h']
  constructor
  · intro hexact hback
    by_contra hne
    exact hexact.mp (.inl hne) hback
  · intro hkeeps
    constructor
    · rintro (hne | hne) hback
      · exact hne (hkeeps hback)
      · exact hne (hback.trans (hkeeps hback).symm)
    · intro hne
      by_contra hsame
      rw [not_or, not_not, not_not] at hsame
      exact hne (hsame.2.trans hsame.1)

namespace FiniteMap

variable {κ ν : Type} [DecidableEq κ] {m : FiniteMap κ ν} {k : κ} {v v' : ν}

theorem ne_iff {m m' : FiniteMap κ ν} : m' ≠ m ↔ ∃ k, m'.lookup k ≠ m.lookup k := by
  rw [← not_iff_not, not_not, not_exists]
  simp only [not_not]
  exact ⟨fun h _ => h ▸ rfl, Finmap.ext_lookup⟩

theorem exact_mapValues {p : ν → Bool} {f : ν → ν} (h : ∀ v, Exact (p v) v (f v)) :
    Exact (m.anyEntry fun _ => p) m (m.mapValues fun _ => f) := by
  unfold Exact
  rw [anyEntry_iff, ne_iff]
  constructor
  · rintro ⟨k, v, hv, hp⟩
    refine ⟨k, ?_⟩
    rw [lookup_mapValues, hv]
    exact fun he => (h v).mp hp (Option.some.inj he)
  · rintro ⟨k, hk⟩
    rw [lookup_mapValues] at hk
    cases hv : m.lookup k with
    | none => exact absurd (by rw [hv]; rfl) hk
    | some v =>
      rw [hv] at hk
      exact ⟨k, v, hv, (h v).mpr fun he => hk (congrArg some he)⟩

theorem exact_insert (hv : m.lookup k = some v) (h : Exact b v v') : Exact b m (m.insert k v') := by
  unfold Exact at h ⊢
  rw [h, ne_eq, ne_eq, insert_eq_self, hv, Option.some.injEq, eq_comm]

theorem exact_insert_new (hk : m.lookup k = none) : Exact true m (m.insert k v) := by
  unfold Exact
  rw [ne_eq, insert_eq_self, hk]
  simp

theorem exact_erase : Exact (m.lookup k).isSome m (m.erase k) := by
  unfold Exact
  rw [ne_iff]
  constructor
  · intro hk
    refine ⟨k, ?_⟩
    rw [lookup_erase, if_pos rfl]
    exact fun he => by simp [← he] at hk
  · rintro ⟨k', hk'⟩
    rw [lookup_erase] at hk'
    split at hk'
    · next he =>
      subst he
      exact Option.isSome_iff_ne_none.mpr hk'.symm
    · exact absurd rfl hk'

/-- What is retained is all where it is as much. -/
theorem exact_retain (p : κ → ν → Bool) (m : FiniteMap κ ν) :
    Exact (m.keys.card != (m.retain p).keys.card) m (m.retain p) := by
  rw [Exact, bne_iff_ne, not_iff_not]
  constructor
  · intro hcard
    have hkeys := Finset.eq_of_subset_of_card_le (keys_retain_subset p m) (Nat.le_of_eq hcard)
    refine Finmap.ext_lookup fun k => ?_
    cases hv : m.lookup k with
    | none => rw [lookup_retain, hv, Option.filter_none]
    | some v =>
      have hmem : k ∈ m.retain p := by
        rw [← Finmap.mem_keys, hkeys]
        exact mem_keys_of_lookup hv
      obtain ⟨v', hv'⟩ := Finmap.mem_iff.mp hmem
      rw [lookup_retain, hv] at hv' ⊢
      exact hv'.trans (Option.filter_eq_some_iff.mp hv').1.symm
  · intro he
    rw [he]

end FiniteMap

end Foundation
