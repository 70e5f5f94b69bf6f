import Mathlib.Data.Finmap
import Mathlib.Data.Finset.Max
import Mathlib.Data.Finset.Union

/-! # Finite maps built key by key

Mathlib's finite maps with one more constructor: the map that holds, at each
key of a finite set, whatever a function says. Filters, updates of every value
and key-wise loops over two maps are instances of it, and two maps are equal
once they answer every lookup alike.
-/

namespace Foundation

/-- A finite map from `κ` to `ν`; two maps with the same lookups are equal. -/
abbrev FiniteMap (κ ν : Type) := Finmap fun _ : κ => ν

namespace FiniteMap

variable {κ ν ν' : Type}

private theorem nodupKeys_filterMap (f : κ → Option ν) (s : Multiset κ) (hs : s.Nodup) :
    Multiset.NodupKeys (s.filterMap fun k => (f k).map (Sigma.mk k) : Multiset (Σ _ : κ, ν)) := by
  rw [← Multiset.nodup_keys, Multiset.keys, Multiset.map_filterMap]
  refine Multiset.Nodup.filterMap _ ?_ hs
  intro a b k ha hb
  simp only [Option.mem_def, Option.map_eq_some_iff] at ha hb
  obtain ⟨_, ⟨_, _, rfl⟩, rfl⟩ := ha
  obtain ⟨_, ⟨_, _, rfl⟩, hb⟩ := hb
  exact hb.symm

section Order

variable [LinearOrder κ]

/-- Some key that satisfies `p`: the least one. -/
def findKey (p : κ → Bool) (m : FiniteMap κ ν) : Option κ := (m.keys.filter fun k => p k).min

theorem findKey_eq_some {p : κ → Bool} {m : FiniteMap κ ν} {k : κ} (h : m.findKey p = some k) :
    k ∈ m ∧ p k = true := by
  have := Finset.mem_of_min h
  rw [Finset.mem_filter, Finmap.mem_keys] at this
  exact this

theorem findKey_eq_none {p : κ → Bool} {m : FiniteMap κ ν} (h : m.findKey p = none) :
    ∀ k ∈ m, p k = false := by
  intro k hk
  have := Finset.filter_eq_empty_iff.mp (Finset.min_eq_top.mp h) (Finmap.mem_keys.mpr hk)
  simpa using this

end Order

variable [DecidableEq κ]

/-- The map holding `f k` at every key `k` of `s`. -/
def tabulate (s : Finset κ) (f : κ → Option ν) : FiniteMap κ ν :=
  ⟨s.val.filterMap fun k => (f k).map (Sigma.mk k), nodupKeys_filterMap f s.val s.nodup⟩

@[simp] theorem lookup_tabulate (s : Finset κ) (f : κ → Option ν) (k : κ) :
    (tabulate s f).lookup k = if k ∈ s then f k else none := by
  ext v
  rw [← Option.mem_def, Finmap.mem_lookup_iff]
  simp only [tabulate, Multiset.mem_filterMap, Finset.mem_val, Option.map_eq_some_iff]
  constructor
  · rintro ⟨a, ha, w, hw, he⟩
    cases he
    simp [ha, hw]
  · intro h
    split at h
    · next hk => exact ⟨k, hk, v, h, rfl⟩
    · cases h

theorem mem_keys_of_lookup {m : FiniteMap κ ν} {k : κ} {v : ν} (h : m.lookup k = some v) :
    k ∈ m.keys := Finmap.mem_keys.mpr (Finmap.mem_of_lookup_eq_some h)

theorem lookup_eq_none_of_notMem_keys {m : FiniteMap κ ν} {k : κ} (h : k ∉ m.keys) :
    m.lookup k = none := Finmap.lookup_eq_none.mpr (mt Finmap.mem_keys.mpr h)

theorem lookup_insert (m : FiniteMap κ ν) (k k' : κ) (v : ν) :
    (m.insert k v).lookup k' = if k' = k then some v else m.lookup k' := by
  split
  · next h => rw [h, Finmap.lookup_insert]
  · next h => exact Finmap.lookup_insert_of_ne m h

theorem insert_eq_self {m : FiniteMap κ ν} {k : κ} {v : ν} :
    m.insert k v = m ↔ m.lookup k = some v := by
  constructor
  · intro h
    rw [← h, Finmap.lookup_insert]
  · intro h
    refine Finmap.ext_lookup fun k' => ?_
    rw [lookup_insert]
    split
    · next he => rw [he, h]
    · rfl

theorem lookup_erase (m : FiniteMap κ ν) (k k' : κ) :
    (m.erase k).lookup k' = if k' = k then none else m.lookup k' := by
  split
  · next h => rw [h, Finmap.lookup_erase]
  · next h => exact Finmap.lookup_erase_ne h

@[simp] theorem keys_insert (m : FiniteMap κ ν) (k : κ) (v : ν) :
    (m.insert k v).keys = insert k m.keys := by
  ext k'
  simp only [Finmap.mem_keys, Finmap.mem_insert, Finset.mem_insert]

theorem findKey_insert [LinearOrder κ] {p : κ → Bool} {k : κ} (h : p k = false)
    (m : FiniteMap κ ν) (v : ν) : findKey p (m.insert k v) = m.findKey p := by
  unfold findKey
  rw [keys_insert, Finset.filter_insert, if_neg (by simp [h])]

@[simp] theorem keys_erase (m : FiniteMap κ ν) (k : κ) : (m.erase k).keys = m.keys.erase k := by
  ext k'
  simp only [Finmap.mem_keys, Finmap.mem_erase, Finset.mem_erase]

/-- Keep the entries that satisfy `p`. -/
def retain (p : κ → ν → Bool) (m : FiniteMap κ ν) : FiniteMap κ ν :=
  tabulate m.keys fun k => (m.lookup k).filter (p k)

@[simp] theorem lookup_retain (p : κ → ν → Bool) (m : FiniteMap κ ν) (k : κ) :
    (m.retain p).lookup k = (m.lookup k).filter (p k) := by
  rw [retain, lookup_tabulate]
  split
  · rfl
  · next h => simp [lookup_eq_none_of_notMem_keys h]

theorem keys_retain_subset (p : κ → ν → Bool) (m : FiniteMap κ ν) : (m.retain p).keys ⊆ m.keys := by
  intro k hk
  simp only [Finmap.mem_keys, ← Finmap.lookup_isSome, lookup_retain] at hk ⊢
  exact Option.isSome_of_isSome_filter _ _ hk

/-- Replace every value. -/
def mapValues (f : κ → ν → ν') (m : FiniteMap κ ν) : FiniteMap κ ν' :=
  tabulate m.keys fun k => (m.lookup k).map (f k)

@[simp] theorem lookup_mapValues (f : κ → ν → ν') (m : FiniteMap κ ν) (k : κ) :
    (m.mapValues f).lookup k = (m.lookup k).map (f k) := by
  rw [mapValues, lookup_tabulate]
  split
  · rfl
  · next h => simp [lookup_eq_none_of_notMem_keys h]

/-- Whether some entry satisfies `p`. -/
def anyEntry (p : κ → ν → Bool) (m : FiniteMap κ ν) : Bool :=
  decide (∃ k ∈ m.keys, ((m.lookup k).any (p k)) = true)

theorem anyEntry_iff {p : κ → ν → Bool} {m : FiniteMap κ ν} :
    m.anyEntry p = true ↔ ∃ k v, m.lookup k = some v ∧ p k v = true := by
  simp only [anyEntry, decide_eq_true_eq, Option.any_eq_true]
  constructor
  · rintro ⟨k, _, v, hv, hp⟩
    exact ⟨k, v, hv, hp⟩
  · rintro ⟨k, v, hv, hp⟩
    exact ⟨k, mem_keys_of_lookup hv, v, hv, hp⟩

theorem anyEntry_eq_false {p : κ → ν → Bool} {m : FiniteMap κ ν} :
    m.anyEntry p = false ↔ ∀ k v, m.lookup k = some v → p k v = false := by
  rw [← Bool.not_eq_true, anyEntry_iff]
  simp

end FiniteMap

end Foundation
