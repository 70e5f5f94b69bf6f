import Mathlib.Data.List.Basic

/-! # Searching a text

The first occurrence of a pattern, and the replacement of all occurrences from left
to right. What is replaced is gone when no occurrence can overlap the replacement,
and a stretch that shares no letter with a pattern can be exchanged without moving
what is found around it.
-/

namespace Foundation

variable {α : Type} [DecidableEq α]

/-- What stands before and after the first occurrence of the pattern. -/
def breakAt (pat : List α) : List α → Option (List α × List α)
  | [] => if pat = [] then some ([], []) else none
  | c :: cs =>
    if pat <+: c :: cs then some ([], (c :: cs).drop pat.length)
    else (breakAt pat cs).map fun p => (c :: p.1, p.2)

/-- Every occurrence replaced, up to a number of them. -/
def replaceUpTo (pat sub : List α) : ℕ → List α → List α
  | 0, text => text
  | n + 1, text =>
    match breakAt pat text with
    | none => text
    | some (before, after) => before ++ sub ++ replaceUpTo pat sub n after

/-- Every occurrence replaced: a text has at most as many as letters. -/
def replaceAll (pat sub text : List α) : List α := replaceUpTo pat sub text.length text

variable {pat text before after : List α}

/-- It is an occurrence, and there is none before it. -/
theorem breakAt_eq_some (h : breakAt pat text = some (before, after)) :
    text = before ++ pat ++ after ∧ ∀ u v, text = u ++ pat ++ v → before.length ≤ u.length := by
  induction text generalizing before with
  | nil =>
    rw [breakAt] at h
    split at h
    · next hpat =>
      cases h
      exact ⟨by rw [hpat]; rfl, fun _ _ _ => Nat.zero_le _⟩
    · cases h
  | cons c cs ih =>
    rw [breakAt] at h
    split at h
    · next hpre =>
      cases h
      exact ⟨(List.prefix_iff_eq_append.mp hpre).symm, fun _ _ _ => Nat.zero_le _⟩
    · next hpre =>
      obtain ⟨⟨b, a⟩, hb, heq⟩ := Option.map_eq_some_iff.mp h
      cases heq
      obtain ⟨htext, hfirst⟩ := ih hb
      refine ⟨by rw [htext]; rfl, fun u v huv => ?_⟩
      cases u with
      | nil => exact absurd ⟨v, huv.symm⟩ hpre
      | cons d u =>
        obtain ⟨-, huv⟩ := List.cons_eq_cons.mp huv
        exact Nat.succ_le_succ (hfirst u v huv)

theorem breakAt_eq_none : breakAt pat text = none ↔ ¬pat <:+: text := by
  induction text with
  | nil =>
    rw [breakAt, List.infix_nil]
    split <;> simp [*]
  | cons c cs ih =>
    rw [breakAt, List.infix_cons_iff, not_or]
    split <;> simp [*]

/-- What comes after the first occurrence does not matter. -/
theorem breakAt_of_first (h : ∀ u v, before ++ pat = u ++ pat ++ v → before.length ≤ u.length) :
    breakAt pat (before ++ pat ++ after) = some (before, after) := by
  cases hb : breakAt pat (before ++ pat ++ after) with
  | none => exact absurd ⟨before, after, rfl⟩ (breakAt_eq_none.mp hb)
  | some p =>
    obtain ⟨b, a⟩ := p
    obtain ⟨htext, hfirst⟩ := breakAt_eq_some hb
    have hle : b.length ≤ before.length := hfirst before after rfl
    have hpre : b ++ pat <+: before ++ pat := by
      refine List.prefix_of_prefix_length_le ⟨a, htext.symm⟩ ⟨after, rfl⟩ ?_
      simpa using hle
    obtain ⟨v, hv⟩ := hpre
    have hlen : b.length = before.length := Nat.le_antisymm hle (h b v hv.symm)
    rw [List.append_assoc, List.append_assoc] at htext
    obtain ⟨rfl, htail⟩ := List.append_inj htext hlen.symm
    rw [List.append_cancel_left htail]

theorem breakAt_congr {after' : List α}
    (h : breakAt pat (before ++ pat ++ after) = some (before, after)) :
    breakAt pat (before ++ pat ++ after') = some (before, after') := by
  refine breakAt_of_first fun u v huv => (breakAt_eq_some h).2 u (v ++ after) ?_
  rw [huv, List.append_assoc]

theorem breakAt_singleton {c : α} :
    breakAt [c] text = some (before, after) ↔ text = before ++ c :: after ∧ c ∉ before := by
  constructor
  · intro h
    obtain ⟨rfl, hfirst⟩ := breakAt_eq_some h
    refine ⟨by simp, fun hc => ?_⟩
    obtain ⟨u, v, rfl⟩ := List.append_of_mem hc
    have hle := hfirst u (v ++ [c] ++ after) (by simp)
    rw [List.length_append, List.length_cons] at hle
    omega
  · rintro ⟨rfl, hc⟩
    induction before with
    | nil => simp [breakAt]
    | cons d before ih =>
      obtain ⟨hd, hc⟩ := List.ne_and_not_mem_of_not_mem_cons hc
      simp [breakAt, hd, ih hc]

/-- A stretch without a letter of the pattern splits the search. -/
theorem breakAt_insert {stretch : List α} (hpat : pat ≠ []) (hstretch : stretch ≠ [])
    (hfree : ∀ c ∈ pat, c ∉ stretch) (x y : List α) :
    breakAt pat (x ++ (stretch ++ y)) =
      ((breakAt pat x).map fun p => (p.1, p.2 ++ (stretch ++ y))).or
        ((breakAt pat y).map fun p => (x ++ (stretch ++ p.1), p.2)) := by
  induction x with
  | nil =>
    have hnil : breakAt pat [] = none := by rw [breakAt, if_neg hpat]
    have hskip : ∀ s : List α, (∀ c ∈ pat, c ∉ s) →
        breakAt pat (s ++ y) = (breakAt pat y).map fun p => (s ++ p.1, p.2) := by
      intro s hs
      induction s with
      | nil => simp
      | cons d s ih =>
        have hpre : ¬pat <+: d :: (s ++ y) := by
          cases pat with
          | nil => exact absurd rfl hpat
          | cons c pat =>
            rw [List.cons_prefix_cons]
            rintro ⟨rfl, -⟩
            exact hs c List.mem_cons_self List.mem_cons_self
        rw [List.cons_append, breakAt, if_neg hpre,
          ih fun c hc hcs => hs c hc (List.mem_cons_of_mem _ hcs), Option.map_map]
        rfl
    rw [hnil, List.nil_append, hskip stretch hfree]
    rfl
  | cons d x ih =>
    have hiff : pat <+: d :: (x ++ (stretch ++ y)) ↔ pat <+: d :: x := by
      constructor
      · intro hpre
        refine List.prefix_of_prefix_length_le hpre ⟨stretch ++ y, rfl⟩ ?_
        by_contra hlt
        have hshort : (d :: x).length ≤ pat.length := Nat.le_of_lt (Nat.lt_of_not_le hlt)
        obtain ⟨rest, hrest⟩ := List.prefix_of_prefix_length_le
          (⟨stretch ++ y, rfl⟩ : d :: x <+: d :: (x ++ (stretch ++ y))) hpre hshort
        -- a longer occurrence takes the first letter of the stretch
        obtain ⟨c, s, rfl⟩ := List.exists_cons_of_ne_nil hstretch
        cases rest with
        | nil =>
          rw [List.append_nil] at hrest
          exact hlt (Nat.le_of_eq (congrArg List.length hrest.symm))
        | cons c' rest =>
          rw [← hrest, ← List.cons_append, List.prefix_append_right_inj, List.cons_append,
            List.cons_prefix_cons] at hpre
          refine hfree c' (hrest ▸ List.mem_append_right _ List.mem_cons_self) ?_
          exact hpre.1 ▸ List.mem_cons_self
      · exact fun hpre => hpre.trans ⟨stretch ++ y, rfl⟩
    rw [List.cons_append, breakAt, breakAt]
    by_cases hpre : pat <+: d :: x
    · rw [if_pos (hiff.mpr hpre), if_pos hpre, ← List.cons_append,
        List.drop_append_of_le_length hpre.length_le]
      rfl
    · rw [if_neg (mt hiff.mp hpre), if_neg hpre, ih]
      cases breakAt pat x <;> cases breakAt pat y <;> rfl

/-! ### Replacing -/

/-- No occurrence of the pattern overlaps the replacement. -/
def Clear (pat sub : List α) : Prop :=
  ∀ x y u v, x ++ sub ++ y = u ++ pat ++ v →
    u.length + pat.length ≤ x.length ∨ x.length + sub.length ≤ u.length

section Mark

variable {c : α} {ps ts : List α}

omit [DecidableEq α] in
theorem eq_nil_of_mark {bs v w : List α} (h : c :: ps ++ v = bs ++ c :: w)
    (hlen : bs.length ≤ ps.length) (hps : c ∉ ps) : bs = [] := by
  cases bs with
  | nil => rfl
  | cons d bs =>
    have h : ps ++ v = bs ++ c :: w := (List.cons_eq_cons.mp h).2
    have hlt : bs.length < ps.length := hlen
    have hat : (ps ++ v)[bs.length]? = some c := by rw [h]; simp
    rw [List.getElem?_append_left hlt] at hat
    exact absurd (List.mem_of_getElem? hat) hps

omit [DecidableEq α] in
/-- A mark at the beginning of both, and nowhere else in them, lets them overlap only from the
beginning on. -/
theorem clear_of_mark (hps : c ∉ ps) (hts : c ∉ ts) (hpt : ¬ps <+: ts) (htp : ¬ts <+: ps) :
    Clear (c :: ps) (c :: ts) := by
  have hapart {v y : List α} : ps ++ v ≠ ts ++ y := by
    intro h
    rcases List.append_eq_append_iff.mp h with ⟨s, hs, -⟩ | ⟨s, hs, -⟩
    · exact hpt ⟨s, hs.symm⟩
    · exact htp ⟨s, hs.symm⟩
  intro x y u v heq
  by_contra hoverlap
  obtain ⟨hleft, hright⟩ := not_or.mp hoverlap
  rw [List.append_assoc, List.append_assoc] at heq
  rcases List.append_eq_append_iff.mp heq with ⟨bs, rfl, h⟩ | ⟨bs, rfl, h⟩
  · have hlen : bs.length ≤ ts.length := by
      simp only [List.length_append, List.length_cons] at hright
      omega
    obtain rfl := eq_nil_of_mark h hlen hts
    exact hapart (List.cons_eq_cons.mp h).2.symm
  · have hlen : bs.length ≤ ps.length := by
      simp only [List.length_append, List.length_cons] at hleft
      omega
    obtain rfl := eq_nil_of_mark h hlen hps
    exact hapart (List.cons_eq_cons.mp h).2

end Mark

/-- What is replaced is gone. -/
theorem not_infix_replaceUpTo {sub : List α} (hpat : pat ≠ []) (hclear : Clear pat sub) :
    ∀ n text, text.length ≤ n → ¬pat <:+: replaceUpTo pat sub n text
  | 0, text, hlen => by
    obtain rfl := List.length_eq_zero_iff.mp (Nat.le_zero.mp hlen)
    rwa [replaceUpTo, List.infix_nil]
  | n + 1, text, hlen => by
    rw [replaceUpTo]
    split
    · next hnone => exact breakAt_eq_none.mp hnone
    · next before after hsome =>
      obtain ⟨htext, hfirst⟩ := breakAt_eq_some hsome
      have hshort : after.length ≤ n := by
        have hpos := List.length_pos_iff.mpr hpat
        have := congrArg List.length htext
        simp only [List.length_append] at this
        omega
      rintro ⟨u, v, h⟩
      rcases hclear _ _ u v h.symm with hin | hin
      · -- within the text before, so the occurrence found was not the first
        obtain ⟨w, hw⟩ := List.prefix_of_prefix_length_le (⟨v, h⟩ : u ++ pat <+: _)
          (⟨_, (List.append_assoc ..).symm⟩ : before <+: _) (by simpa using hin)
        have hle := hfirst u (w ++ pat ++ after) (by rw [htext, ← hw]; simp)
        have hpos := List.length_pos_iff.mpr hpat
        omega
      · refine not_infix_replaceUpTo hpat hclear n after hshort ?_
        have hpre : before ++ sub <+: u := List.prefix_of_prefix_length_le ⟨_, rfl⟩
          (⟨pat ++ v, (List.append_assoc ..).symm.trans h⟩ : u <+: _) (by simpa using hin)
        obtain ⟨w, rfl⟩ := hpre
        rw [List.append_assoc, List.append_assoc, List.append_cancel_left_eq] at h
        exact ⟨w, v, by simpa using h⟩

theorem replaceUpTo_of_not_infix {sub : List α} (h : ¬pat <:+: text) :
    ∀ n, replaceUpTo pat sub n text = text
  | 0 => rfl
  | n + 1 => by rw [replaceUpTo, breakAt_eq_none.mpr h]

/-- What one replacement keeps, in whatever text stands around it, all of them keep. -/
theorem replaceUpTo_keeps {sub : List α} {P : List α → Prop}
    (hstep : ∀ x y, P (x ++ pat ++ y) → P (x ++ sub ++ y)) :
    ∀ n text x, P (x ++ text) → P (x ++ replaceUpTo pat sub n text)
  | 0, _, _, h => h
  | n + 1, text, x, h => by
    rw [replaceUpTo]
    split
    · exact h
    · next before after hsome =>
      have htext := (breakAt_eq_some hsome).1
      rw [← List.append_assoc]
      refine replaceUpTo_keeps hstep n after (x ++ (before ++ sub)) ?_
      rw [← List.append_assoc]
      refine hstep (x ++ before) after ?_
      rwa [List.append_assoc, List.append_assoc, ← List.append_assoc before, ← htext]

end Foundation
