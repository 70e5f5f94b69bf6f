import Mathlib.Data.List.Basic

/-! # Nested tags

Tags open and close on a stack. Some tags hold text only, and the text in them is told
apart from other text. What is nested leaves any stack it may stand on as it was.
-/

namespace Foundation

variable {τ : Type}

inductive Item (τ : Type) where
  /-- A letter, and whether it stands in a tag that holds text only. -/
  | text (verbatim : Bool)
  | opening (t : τ)
  | closing (t : τ)

namespace Item

variable (verbatim : τ → Bool)

/-- In a tag that holds text only. -/
def Within (s : List τ) : Bool := s.head?.any verbatim

variable [DecidableEq τ]

def nest (s : List τ) : Item τ → Option (List τ)
  | .text b => if b = Within verbatim s then some s else none
  | .opening t => if Within verbatim s then none else some (t :: s)
  | .closing t => if s.head? = some t then some s.tail else none

def nestAll (s : List τ) (items : List (Item τ)) : Option (List τ) :=
  items.foldlM (nest verbatim) s

/-- Every tag is closed, the last opened first, and tags that hold text only hold no tag. -/
def Nested (items : List (Item τ)) : Prop := nestAll verbatim [] items = some []

instance (items : List (Item τ)) : Decidable (Nested verbatim items) :=
  inferInstanceAs (Decidable (_ = _))

variable {verbatim} {s s' r : List τ} {x y : List (Item τ)} {t : τ}

@[simp] theorem nestAll_nil : nestAll verbatim s [] = some s := rfl

theorem nestAll_cons (i : Item τ) :
    nestAll verbatim s (i :: x) = (nest verbatim s i).bind fun s' => nestAll verbatim s' x := rfl

theorem nestAll_append :
    nestAll verbatim s (x ++ y) = (nestAll verbatim s x).bind fun s' => nestAll verbatim s' y :=
  List.foldlM_append

omit [DecidableEq τ] in
theorem within_append (hr : Within verbatim r = false) :
    Within verbatim (s ++ r) = Within verbatim s := by
  cases s with
  | nil => exact hr
  | cons t s => rfl

theorem nest_append (hr : Within verbatim r = false) {i : Item τ}
    (h : nest verbatim s i = some s') : nest verbatim (s ++ r) i = some (s' ++ r) := by
  cases i with
  | text b =>
    obtain ⟨hb, hs⟩ := Option.ite_none_right_eq_some.mp h
    cases hs
    exact if_pos (hb.trans (within_append hr).symm)
  | opening t =>
    obtain ⟨hout, hs⟩ := Option.ite_none_left_eq_some.mp h
    cases hs
    exact if_neg ((within_append hr).symm ▸ hout)
  | closing t =>
    obtain ⟨hhead, hs⟩ := Option.ite_none_right_eq_some.mp h
    cases hs
    cases s with
    | nil => cases hhead
    | cons u s => exact if_pos hhead

/-- What stands below the stack does not matter. -/
theorem nestAll_frame (hr : Within verbatim r = false) (h : nestAll verbatim s x = some s') :
    nestAll verbatim (s ++ r) x = some (s' ++ r) := by
  induction x generalizing s with
  | nil =>
    obtain rfl := Option.some.inj h
    rfl
  | cons i x ih =>
    obtain ⟨s₁, hi, hx⟩ := Option.bind_eq_some_iff.mp h
    exact Option.bind_eq_some_iff.mpr ⟨s₁ ++ r, nest_append hr hi, ih hx⟩

theorem Nested.nestAll (h : Nested verbatim x) (hr : Within verbatim r = false) :
    nestAll verbatim r x = some r :=
  nestAll_frame hr h

theorem Nested.append (hx : Nested verbatim x) (hy : Nested verbatim y) :
    Nested verbatim (x ++ y) := by
  rw [Nested, nestAll_append, hx, Option.bind_some, hy]

theorem Nested.flatMap {α : Type} {f : α → List (Item τ)} {l : List α}
    (h : ∀ a ∈ l, Nested verbatim (f a)) : Nested verbatim (l.flatMap f) := by
  induction l with
  | nil => rfl
  | cons a l ih =>
    rw [List.flatMap_cons]
    exact (h a (.head _)).append (ih fun b hb => h b (.tail _ hb))

/-- A tag put around what is nested leaves the stack as it was. -/
theorem Nested.wrap (h : Nested verbatim x) (hr : Within verbatim r = false)
    (ht : verbatim t = false) :
    Item.nestAll verbatim r (.opening t :: x ++ [.closing t]) = some r := by
  have hopen : nest verbatim r (.opening t) = some (t :: r) := if_neg (by simp [hr])
  have hinner : Item.nestAll verbatim (t :: r) x = some (t :: r) := h.nestAll ht
  have hclose : nest verbatim (t :: r) (.closing t) = some r := if_pos rfl
  rw [List.cons_append, nestAll_cons, hopen, Option.bind_some, nestAll_append, hinner,
    Option.bind_some, nestAll_cons, hclose, Option.bind_some, nestAll_nil]

/-- A tag that holds text only, put around a text. -/
theorem nestAll_verbatim {α : Type} (hr : Within verbatim r = false) (ht : verbatim t = true)
    (text : List α) :
    nestAll verbatim r (.opening t :: text.map (fun _ => .text true) ++ [.closing t]) = some r := by
  have hopen : nest verbatim r (.opening t) = some (t :: r) := if_neg (by simp [hr])
  have htext : ∀ text : List α,
      nestAll verbatim (t :: r) (text.map fun _ => .text true) = some (t :: r) := by
    intro text
    induction text with
    | nil => rfl
    | cons a text ih =>
      have hletter : nest verbatim (t :: r) (.text true) = some (t :: r) := if_pos ht.symm
      rw [List.map_cons, nestAll_cons, hletter, Option.bind_some, ih]
  have hclose : nest verbatim (t :: r) (.closing t) = some r := if_pos rfl
  rw [List.cons_append, nestAll_cons, hopen, Option.bind_some, nestAll_append, htext,
    Option.bind_some, nestAll_cons, hclose, Option.bind_some, nestAll_nil]

/-- A nested stretch that begins with text can only stand outside the tags that hold text only. -/
theorem Nested.within {b : Bool} (h : Nested verbatim (.text b :: x))
    (hs : Item.nestAll verbatim s (.text b :: x) = some s') : Within verbatim s = false := by
  obtain ⟨s₁, hb, -⟩ := Option.bind_eq_some_iff.mp h
  obtain ⟨s₂, hb', -⟩ := Option.bind_eq_some_iff.mp hs
  obtain ⟨rfl, -⟩ := Option.ite_none_right_eq_some.mp hb
  obtain ⟨hout, -⟩ := Option.ite_none_right_eq_some.mp hb'
  exact hout.symm

end Item

end Foundation
