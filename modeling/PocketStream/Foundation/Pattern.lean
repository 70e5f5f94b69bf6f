import Mathlib.Data.List.Forall2
import Mathlib.Data.List.TakeWhile

/-! # Patterns and their replacement

A pattern is a word, an optional letter or a longest run of a class, one after another,
with one group. Its matches are found from left to right and do not overlap. Where the
letters of one text are spelled by words of another, the matches of two patterns that
follow each other are the same.
-/

namespace Foundation

variable {α β γ δ κ : Type}

inductive PatternPart (α : Type) where
  | word (ps : List (α → Bool))
  | optional (p : α → Bool)
  /-- One letter or more. -/
  | run (p : α → Bool)

def takeWord : List (α → Bool) → List α → Option (List α × List α)
  | [], text => some ([], text)
  | _ :: _, [] => none
  | p :: ps, c :: text =>
    if p c then (takeWord ps text).map fun r => (c :: r.1, r.2) else none

/-- What it takes of a text, and the rest. -/
def PatternPart.take : PatternPart α → List α → Option (List α × List α)
  | .word ps, text => takeWord ps text
  | .optional p, text =>
    match text with
    | [] => some ([], [])
    | c :: text => if p c then some ([c], text) else some ([], c :: text)
  | .run p, text =>
    if (text.takeWhile p).isEmpty then none else some (text.takeWhile p, text.dropWhile p)

def takeParts : List (PatternPart α) → List α → Option (List (List α) × List α)
  | [], text => some ([], text)
  | p :: ps, text =>
    (p.take text).bind fun r => (takeParts ps r.2).map fun r' => (r.1 :: r'.1, r'.2)

structure Pattern (α : Type) where
  before : List (PatternPart α)
  group : List (PatternPart α)
  after : List (PatternPart α)

/-- What was found, in and around the group. -/
structure Match (α : Type) where
  before : List α
  inner : List α
  after : List α

def Match.text (m : Match α) : List α := m.before ++ m.inner ++ m.after

namespace Pattern

variable (P : Pattern α)

def parts : List (PatternPart α) := P.before ++ P.group ++ P.after

def matchOf (pieces : List (List α)) : Match α where
  before := (pieces.take P.before.length).flatten
  inner := ((pieces.drop P.before.length).take P.group.length).flatten
  after := ((pieces.drop P.before.length).drop P.group.length).flatten

/-- A match at the beginning. -/
def exec (text : List α) : Option (Match α × List α) :=
  (takeParts P.parts text).map fun r => (P.matchOf r.1, r.2)

def scanUpTo : ℕ → List α → List (α ⊕ Match α)
  | 0, text => text.map .inl
  | _ + 1, [] => []
  | n + 1, c :: text =>
    match P.exec (c :: text) with
    | none => .inl c :: scanUpTo n text
    | some (m, rest) => .inr m :: scanUpTo n rest

/-- The letters of a text between the matches, and the matches. -/
def scan (text : List α) : List (α ⊕ Match α) := P.scanUpTo text.length text

def found (text : List α) : List (Match α) := (P.scan text).filterMap Sum.getRight?

def replace (keep : α → List γ) (sub : Match α → List γ) (text : List α) : List γ :=
  (P.scan text).flatMap (Sum.elim keep sub)

/-- No match is empty. -/
def Advances : Prop := ∀ text m rest, P.exec text = some (m, rest) → rest.length < text.length

end Pattern

/-! ### What a match is made of -/

def PatternPart.Fits : PatternPart α → List α → Prop
  | .word ps, piece => List.Forall₂ (fun p c => p c = true) ps piece
  | .optional p, piece => piece = [] ∨ ∃ c, p c ∧ piece = [c]
  | .run p, piece => piece ≠ [] ∧ ∀ c ∈ piece, p c

theorem takeWord_eq_some {ps : List (α → Bool)} {text piece rest : List α}
    (h : takeWord ps text = some (piece, rest)) :
    text = piece ++ rest ∧ List.Forall₂ (fun p c => p c = true) ps piece := by
  induction ps generalizing text piece with
  | nil =>
    cases h
    exact ⟨rfl, .nil⟩
  | cons p ps ih =>
    cases text with
    | nil => cases h
    | cons c text =>
      obtain ⟨hc, h⟩ := Option.ite_none_right_eq_some.mp h
      obtain ⟨r, hr, heq⟩ := Option.map_eq_some_iff.mp h
      cases heq
      obtain ⟨rfl, hfits⟩ := ih hr
      exact ⟨rfl, .cons hc hfits⟩

theorem PatternPart.take_eq_some {p : PatternPart α} {text piece rest : List α}
    (h : p.take text = some (piece, rest)) : text = piece ++ rest ∧ p.Fits piece := by
  cases p with
  | word ps => exact takeWord_eq_some h
  | optional p =>
    cases text with
    | nil =>
      cases h
      exact ⟨rfl, .inl rfl⟩
    | cons c text =>
      rw [PatternPart.take] at h
      split at h
      next hc =>
        cases h
        exact ⟨rfl, .inr ⟨c, hc, rfl⟩⟩
      next =>
        cases h
        exact ⟨rfl, .inl rfl⟩
  | run p =>
    rw [PatternPart.take] at h
    split at h
    · cases h
    next hne =>
      cases h
      refine ⟨List.takeWhile_append_dropWhile.symm, ?_, fun c hc => ?_⟩
      · simpa using hne
      · exact List.mem_takeWhile_imp hc

theorem takeParts_eq_some {ps : List (PatternPart α)} {text rest : List α} {pieces : List (List α)}
    (h : takeParts ps text = some (pieces, rest)) :
    text = pieces.flatten ++ rest ∧ List.Forall₂ PatternPart.Fits ps pieces := by
  induction ps generalizing text pieces with
  | nil =>
    cases h
    exact ⟨rfl, .nil⟩
  | cons p ps ih =>
    obtain ⟨⟨piece, text'⟩, htake, h⟩ := Option.bind_eq_some_iff.mp h
    obtain ⟨⟨pieces', rest'⟩, hrest, heq⟩ := Option.map_eq_some_iff.mp h
    cases heq
    obtain ⟨rfl, hpiece⟩ := PatternPart.take_eq_some htake
    obtain ⟨rfl, hpieces⟩ := ih hrest
    exact ⟨by simp, .cons hpiece hpieces⟩

namespace Pattern

variable {P : Pattern α} {text rest : List α} {m : Match α}

theorem text_matchOf (pieces : List (List α)) : (P.matchOf pieces).text = pieces.flatten := by
  rw [Match.text, matchOf, List.append_assoc, ← List.flatten_append, List.take_append_drop,
    ← List.flatten_append, List.take_append_drop]

theorem exec_eq_some (h : P.exec text = some (m, rest)) :
    text = m.text ++ rest ∧ ∃ pieces, m = P.matchOf pieces ∧
      List.Forall₂ PatternPart.Fits P.parts pieces := by
  obtain ⟨⟨pieces, rest'⟩, hparts, heq⟩ := Option.map_eq_some_iff.mp h
  cases heq
  obtain ⟨htext, hfits⟩ := takeParts_eq_some hparts
  exact ⟨by rw [text_matchOf, htext], pieces, rfl, hfits⟩

/-- A pattern that begins with a word of one letter or more. -/
theorem advances_of_word {p : α → Bool} {ps : List (α → Bool)} {before : List (PatternPart α)}
    (h : P.before = .word (p :: ps) :: before) : P.Advances := by
  intro text m rest hexec
  obtain ⟨rfl, pieces, rfl, hfits⟩ := exec_eq_some hexec
  rw [Pattern.parts, h] at hfits
  rw [text_matchOf]
  cases hfits with
  | cons hword hpieces =>
    cases hword with
    | cons hc hcs =>
      simp only [List.flatten_cons, List.cons_append, List.length_cons, List.length_append]
      omega

theorem scanUpTo_nil (n : ℕ) : P.scanUpTo n [] = [] := by
  cases n <;> rfl

theorem scanUpTo_of_le (h : P.Advances) : ∀ n k (text : List α), text.length ≤ n →
    text.length ≤ k → P.scanUpTo n text = P.scanUpTo k text
  | n, k, [], _, _ => (scanUpTo_nil n).trans (scanUpTo_nil k).symm
  | 0, _, _ :: _, hn, _ => absurd hn (Nat.not_succ_le_zero _)
  | _ + 1, 0, _ :: _, _, hk => absurd hk (Nat.not_succ_le_zero _)
  | n + 1, k + 1, c :: text, hn, hk => by
    rw [scanUpTo, scanUpTo]
    split
    · rw [scanUpTo_of_le h n k text (Nat.le_of_succ_le_succ hn) (Nat.le_of_succ_le_succ hk)]
    next m rest hexec =>
      have hlt := h _ _ _ hexec
      rw [scanUpTo_of_le h n k rest (by omega) (by omega)]

theorem scan_nil : P.scan [] = [] := rfl

theorem scan_none (c : α) (hexec : P.exec (c :: text) = none) :
    P.scan (c :: text) = .inl c :: P.scan text := by
  rw [scan, List.length_cons, scanUpTo, hexec, scan]

theorem scan_some (h : P.Advances) (hexec : P.exec text = some (m, rest)) :
    P.scan text = .inr m :: P.scan rest := by
  have hlt := h _ _ _ hexec
  cases text with
  | nil => exact absurd hlt (Nat.not_lt_zero _)
  | cons c text =>
    have hle : rest.length ≤ text.length := Nat.le_of_lt_succ hlt
    rw [scan, List.length_cons, scanUpTo, hexec, scan]
    exact congrArg _ (scanUpTo_of_le h _ _ rest hle (Nat.le_refl _))

/-- What holds of the rest of a text holds of the text, by the letter or the match it begins
with. -/
theorem scan_induction {motive : List α → Prop} (h : P.Advances) (nil : motive [])
    (letter : ∀ c text, P.exec (c :: text) = none → motive text → motive (c :: text))
    (found : ∀ text m rest, P.exec text = some (m, rest) → motive rest → motive text)
    (text : List α) : motive text := by
  induction hn : text.length using Nat.strong_induction_on generalizing text with
  | h n ih =>
    cases hexec : P.exec text with
    | some r =>
      have hlt := h _ _ _ hexec
      exact found text r.1 r.2 hexec (ih _ (hn ▸ hlt) _ rfl)
    | none =>
      cases text with
      | nil => exact nil
      | cons c text => exact letter c text hexec (ih _ (hn ▸ Nat.lt_succ_self _) text rfl)

theorem replace_nil (keep : α → List γ) (sub : Match α → List γ) : P.replace keep sub [] = [] := rfl

theorem replace_none {keep : α → List γ} {sub : Match α → List γ} (c : α)
    (hexec : P.exec (c :: text) = none) :
    P.replace keep sub (c :: text) = keep c ++ P.replace keep sub text := by
  rw [replace, scan_none c hexec]
  rfl

theorem replace_some {keep : α → List γ} {sub : Match α → List γ} (h : P.Advances)
    (hexec : P.exec text = some (m, rest)) :
    P.replace keep sub text = sub m ++ P.replace keep sub rest := by
  rw [replace, scan_some h hexec]
  rfl

theorem found_none (c : α) (hexec : P.exec (c :: text) = none) :
    P.found (c :: text) = P.found text := by
  rw [found, scan_none c hexec]
  rfl

theorem found_some (h : P.Advances) (hexec : P.exec text = some (m, rest)) :
    P.found text = m :: P.found rest := by
  rw [found, scan_some h hexec]
  rfl

theorem exec_of_mem_found (h : P.Advances) (hm : m ∈ P.found text) :
    ∃ text rest, P.exec text = some (m, rest) := by
  induction text using scan_induction h with
  | nil => cases hm
  | letter c text hexec ih => exact ih (found_none c hexec ▸ hm)
  | found text m' rest hexec ih =>
    rw [found_some h hexec] at hm
    rcases List.mem_cons.mp hm with rfl | hm
    · exact ⟨text, rest, hexec⟩
    · exact ih hm

/-- What stands before the group, in it and after it fits the parts of the pattern. -/
theorem fits_of_mem_found (h : P.Advances) (hm : m ∈ P.found text) :
    ∃ xs ys zs, List.Forall₂ PatternPart.Fits P.before xs ∧ m.before = xs.flatten ∧
      List.Forall₂ PatternPart.Fits P.group ys ∧ m.inner = ys.flatten ∧
      List.Forall₂ PatternPart.Fits P.after zs ∧ m.after = zs.flatten := by
  obtain ⟨text, rest, hexec⟩ := exec_of_mem_found h hm
  obtain ⟨-, pieces, rfl, hfits⟩ := exec_eq_some hexec
  rw [Pattern.parts, List.append_assoc] at hfits
  have hbefore := List.forall₂_take P.before.length hfits
  have hgroup := List.forall₂_take P.group.length (List.forall₂_drop P.before.length hfits)
  have hafter := List.forall₂_drop P.group.length (List.forall₂_drop P.before.length hfits)
  rw [List.take_left] at hbefore
  rw [List.drop_left, List.take_left] at hgroup
  rw [List.drop_left, List.drop_left] at hafter
  exact ⟨_, _, _, hbefore, rfl, hgroup, rfl, hafter, rfl⟩

theorem fits_flatten_singleton {p : PatternPart α} {xs : List (List α)}
    (h : List.Forall₂ PatternPart.Fits [p] xs) : p.Fits xs.flatten := by
  obtain ⟨x, rest, hx, hrest, rfl⟩ := List.forall₂_cons_left_iff.mp h
  cases hrest
  rwa [List.flatten_singleton]

theorem fits_before (h : P.Advances) (hm : m ∈ P.found text) {p : PatternPart α}
    (hp : P.before = [p]) :
    p.Fits m.before := by
  obtain ⟨xs, -, -, hfits, hxs, -⟩ := fits_of_mem_found h hm
  rw [hxs]
  exact fits_flatten_singleton (hp ▸ hfits)

theorem fits_after (h : P.Advances) (hm : m ∈ P.found text) {p : PatternPart α}
    (hp : P.after = [p]) :
    p.Fits m.after := by
  obtain ⟨-, -, zs, -, -, -, -, hfits, hzs⟩ := fits_of_mem_found h hm
  rw [hzs]
  exact fits_flatten_singleton (hp ▸ hfits)

/-- What each match keeps, the whole replacement keeps. -/
theorem flatMap_replace {keep : α → List γ} {sub : Match α → List γ} {f : γ → List δ}
    {g : α → List δ} (h : P.Advances) (hkeep : ∀ c, (keep c).flatMap f = g c)
    (hsub : ∀ m ∈ P.found text, (sub m).flatMap f = m.text.flatMap g) :
    (P.replace keep sub text).flatMap f = text.flatMap g := by
  induction text using scan_induction h with
  | nil => rfl
  | letter c text hexec ih =>
    rw [found_none c hexec] at hsub
    rw [replace_none c hexec, List.flatMap_append, List.flatMap_cons, hkeep, ih hsub]
  | found text m rest hexec ih =>
    rw [found_some h hexec] at hsub
    rw [replace_some h hexec, List.flatMap_append, hsub m (.head _),
      ih fun m hm => hsub m (.tail _ hm), ← List.flatMap_append, ← (exec_eq_some hexec).1]

/-- A letter of the result comes from a letter or from a match. -/
theorem mem_replace {keep : α → List γ} {sub : Match α → List γ} (h : P.Advances) {b : γ}
    (hb : b ∈ P.replace keep sub text) :
    (∃ a ∈ text, b ∈ keep a) ∨ ∃ m ∈ P.found text, (∀ a ∈ m.text, a ∈ text) ∧ b ∈ sub m := by
  induction text using scan_induction h with
  | nil => cases hb
  | letter c text hexec ih =>
    rw [replace_none c hexec] at hb
    rw [found_none c hexec]
    rcases List.mem_append.mp hb with hb | hb
    · exact .inl ⟨c, .head _, hb⟩
    · rcases ih hb with ⟨a, ha, hba⟩ | ⟨m, hm, hsub, hbm⟩
      · exact .inl ⟨a, .tail _ ha, hba⟩
      · exact .inr ⟨m, hm, fun a ha => .tail _ (hsub a ha), hbm⟩
  | found text m rest hexec ih =>
    rw [replace_some h hexec] at hb
    rw [found_some h hexec, (exec_eq_some hexec).1]
    rcases List.mem_append.mp hb with hb | hb
    · exact .inr ⟨m, .head _, fun a ha => List.mem_append_left _ ha, hb⟩
    · rcases ih hb with ⟨a, ha, hba⟩ | ⟨m', hm, hsub, hbm⟩
      · exact .inl ⟨a, List.mem_append_right _ ha, hba⟩
      · exact .inr ⟨m', .tail _ hm, fun a ha => List.mem_append_right _ (hsub a ha), hbm⟩

end Pattern

/-! ### Texts spelled in another alphabet -/

/-- The word itself. -/
def literal [DecidableEq β] (w : List β) : List (β → Bool) := w.map fun c d => decide (d = c)

theorem eq_of_forall₂_literal [DecidableEq β] {w piece : List β}
    (h : List.Forall₂ (fun p c => p c = true) (literal w) piece) : piece = w := by
  induction w generalizing piece with
  | nil =>
    cases h
    rfl
  | cons c w ih =>
    obtain ⟨d, rest, hd, hrest, rfl⟩ := List.forall₂_cons_left_iff.mp h
    rw [of_decide_eq_true hd, ih hrest]

theorem takeWord_literal [DecidableEq β] (w text : List β) (ps : List (β → Bool)) :
    takeWord (literal w ++ ps) (w ++ text) = (takeWord ps text).map fun r => (w ++ r.1, r.2) := by
  induction w with
  | nil => cases h : takeWord ps text <;> simp [literal, h]
  | cons c w ih =>
    rw [literal, List.map_cons, List.cons_append, List.cons_append, takeWord,
      if_pos (decide_eq_true rfl)]
    rw [literal] at ih
    rw [ih, Option.map_map]
    rfl

theorem takeWord_literal_none [DecidableEq β] {w text : List β} (h : ¬w <+: text)
    (ps : List (β → Bool)) : takeWord (literal w ++ ps) text = none := by
  induction w generalizing text with
  | nil => exact absurd List.nil_prefix h
  | cons c w ih =>
    cases text with
    | nil => rfl
    | cons d text =>
      rw [literal, List.map_cons, List.cons_append, takeWord]
      split
      next hd =>
        obtain rfl := of_decide_eq_true hd
        have hrest : ¬w <+: text := fun hw => h (List.cons_prefix_cons.mpr ⟨rfl, hw⟩)
        rw [← literal, ih hrest]
        rfl
      next => rfl

/-- Some letters are spelled by the words of a code, and no other letter's spelling begins with
one. -/
structure Coded (spell : α → List β) (ok : α → Prop) (is : κ → α → Bool) (code : κ → List β) :
    Prop where
  code_ne_nil : ∀ k, code k ≠ []
  spell_eq : ∀ k a, is k a = true → spell a = code k
  apart : ∀ k a rest, ok a → is k a = false → ¬code k <+: spell a ++ rest

/-- What is taken of a spelled text is what is taken of the text, spelled. -/
def Follows (spell : α → List β) (ok : α → Prop) (ps : List (PatternPart α))
    (qs : List (PatternPart β)) : Prop :=
  ∀ text, (∀ a ∈ text, ok a) → takeParts qs (text.flatMap spell) =
    (takeParts ps text).map fun r => (r.1.map (List.flatMap spell), r.2.flatMap spell)

section Spelling

variable {spell : α → List β} {ok : α → Prop} {ps : List (PatternPart α)}
  {qs : List (PatternPart β)}

theorem follows_nil : Follows spell ok [] [] := fun _ _ => rfl

theorem Follows.cons (h : Follows spell ok ps qs) {p : PatternPart α} {q : PatternPart β}
    (htake : ∀ text, (∀ a ∈ text, ok a) → q.take (text.flatMap spell) =
      (p.take text).map fun r => (r.1.flatMap spell, r.2.flatMap spell)) :
    Follows spell ok (p :: ps) (q :: qs) := by
  intro text hok
  rw [takeParts, takeParts, htake text hok]
  cases hp : p.take text with
  | none => rfl
  | some r =>
    have hrest : ∀ a ∈ r.2, ok a := fun a ha =>
      hok a ((PatternPart.take_eq_some hp).1 ▸ List.mem_append_right _ ha)
    rw [Option.map_some, Option.bind_some, Option.bind_some, h r.2 hrest, Option.map_map,
      Option.map_map]
    rfl

variable [DecidableEq β] {is : κ → α → Bool} {code : κ → List β}

theorem Coded.takeWord (h : Coded spell ok is code) (ks : List κ) (text : List α)
    (hok : ∀ a ∈ text, ok a) :
    takeWord (literal (ks.flatMap code)) (text.flatMap spell) =
      (takeWord (ks.map is) text).map fun r => (r.1.flatMap spell, r.2.flatMap spell) := by
  induction ks generalizing text with
  | nil => rfl
  | cons k ks ih =>
    have hsplit :
        literal ((k :: ks).flatMap code) = literal (code k) ++ literal (ks.flatMap code) := by
      rw [literal, List.flatMap_cons, List.map_append]
      rfl
    rw [hsplit]
    cases text with
    | nil =>
      have hnil : ¬code k <+: [] := fun hw => h.code_ne_nil k (List.prefix_nil.mp hw)
      exact takeWord_literal_none hnil _
    | cons a text =>
      rw [List.flatMap_cons, List.map_cons, Foundation.takeWord]
      cases ha : is k a with
      | true =>
        rw [h.spell_eq k a ha, takeWord_literal, ih text fun b hb => hok b (.tail _ hb),
          if_pos rfl, Option.map_map, Option.map_map]
        refine congrFun (congrArg _ (funext fun r => ?_)) _
        simp [h.spell_eq k a ha]
      | false =>
        exact takeWord_literal_none (h.apart k a _ (hok a (.head _)) ha) _

theorem Follows.word (h : Follows spell ok ps qs) (hcode : Coded spell ok is code) (ks : List κ) :
    Follows spell ok (.word (ks.map is) :: ps) (.word (literal (ks.flatMap code)) :: qs) :=
  h.cons fun text hok => hcode.takeWord ks text hok

theorem Follows.optional (h : Follows spell ok ps qs) (hcode : Coded spell ok is code) {k : κ}
    {c : β} (hc : code k = [c]) (hspell : ∀ a, ok a → spell a ≠ []) :
    Follows spell ok (.optional (is k) :: ps) (.optional (fun d => decide (d = c)) :: qs) := by
  refine h.cons fun text hok => ?_
  cases text with
  | nil => rfl
  | cons a text =>
    rw [List.flatMap_cons]
    cases ha : is k a with
    | true =>
      have heq : spell a = [c] := (hcode.spell_eq k a ha).trans hc
      simp [heq, ha, PatternPart.take]
    | false =>
      obtain ⟨d, s, hs⟩ := List.exists_cons_of_ne_nil (hspell a (hok a (.head _)))
      have hne : d ≠ c := by
        rintro rfl
        refine hcode.apart k a [] (hok a (.head _)) ha ?_
        rw [hc, hs]
        exact ⟨s, by simp⟩
      simp [hs, hne, ha, PatternPart.take]

omit [DecidableEq β] in
/-- A run stops within the spelling of a letter outside the class, and then nothing follows. -/
theorem Follows.run (h : Follows spell ok ps qs) {p : α → Bool} {q : β → Bool}
    (hin : ∀ a, ok a → p a = true → spell a ≠ [] ∧ ∀ c ∈ spell a, q c = true)
    (hout : ∀ a, ok a → p a = false → ∃ g d s, spell a = g ++ d :: s ∧ (∀ c ∈ g, q c = true) ∧
      q d = false ∧ (g ≠ [] → (∀ rest, takeParts qs (d :: rest) = none) ∧
        ∀ rest, takeParts ps (a :: rest) = none)) :
    Follows spell ok (.run p :: ps) (.run q :: qs) := by
  intro text hok
  have hsplit : text = text.takeWhile p ++ text.dropWhile p :=
    List.takeWhile_append_dropWhile.symm
  have htaken : ∀ a ∈ text.takeWhile p, spell a ≠ [] ∧ ∀ c ∈ spell a, q c = true := fun a ha =>
    hin a (hok a (hsplit ▸ List.mem_append_left _ ha)) (List.mem_takeWhile_imp ha)
  have hletters : ∀ c ∈ (text.takeWhile p).flatMap spell, q c = true := by
    intro c hc
    obtain ⟨a, ha, hca⟩ := List.mem_flatMap.mp hc
    exact (htaken a ha).2 c hca
  have hempty : ((text.takeWhile p).flatMap spell).isEmpty = (text.takeWhile p).isEmpty := by
    cases htw : text.takeWhile p with
    | nil => rfl
    | cons a xs =>
      obtain ⟨c, s, hs⟩ := List.exists_cons_of_ne_nil (htaken a (htw ▸ .head _)).1
      simp [hs]
  cases hdrop : text.dropWhile p with
  | nil =>
    have htext : text.flatMap spell = (text.takeWhile p).flatMap spell := by
      conv_lhs => rw [hsplit, hdrop, List.append_nil]
    have hall : (text.flatMap spell).takeWhile q = (text.takeWhile p).flatMap spell := by
      rw [htext]
      exact List.takeWhile_eq_self_iff.mpr hletters
    have hnone : (text.flatMap spell).dropWhile q = [] := by
      rw [htext]
      exact List.dropWhile_eq_nil_iff.mpr hletters
    rw [takeParts, takeParts, PatternPart.take, PatternPart.take, hall, hnone, hdrop, hempty]
    split
    · rfl
    · have hnil := h [] nofun
      rw [List.flatMap_nil] at hnil
      rw [Option.bind_some, Option.bind_some, hnil, Option.map_map, Option.map_map]
      rfl
  | cons a rest =>
    have hmem : ∀ b ∈ a :: rest, ok b := fun b hb =>
      hok b (hsplit ▸ List.mem_append_right _ (hdrop ▸ hb))
    have ha : p a = false := by
      have hhead : text.dropWhile p ≠ [] := hdrop ▸ List.cons_ne_nil a rest
      simpa [hdrop] using List.head_dropWhile_not p hhead
    obtain ⟨g, d, s, hs, hg, hd, hstop⟩ := hout a (hmem a (.head _)) ha
    have htext : text.flatMap spell =
        ((text.takeWhile p).flatMap spell ++ g) ++ d :: (s ++ rest.flatMap spell) := by
      conv_lhs => rw [hsplit, hdrop, List.flatMap_append, List.flatMap_cons, hs]
      simp
    have hclass : ∀ c ∈ (text.takeWhile p).flatMap spell ++ g, q c = true := by
      intro c hc
      rcases List.mem_append.mp hc with hc | hc
      · exact hletters c hc
      · exact hg c hc
    have hall : (text.flatMap spell).takeWhile q = (text.takeWhile p).flatMap spell ++ g := by
      rw [htext, List.takeWhile_append_of_pos hclass, List.takeWhile_cons_of_neg (by simp [hd]),
        List.append_nil]
    have hleft : (text.flatMap spell).dropWhile q = d :: (s ++ rest.flatMap spell) := by
      rw [htext, List.dropWhile_append_of_pos hclass, List.dropWhile_cons_of_neg (by simp [hd])]
    rw [takeParts, takeParts, PatternPart.take, PatternPart.take, hall, hleft, hdrop]
    by_cases hgnil : g = []
    · subst hgnil
      have hrest := h (a :: rest) hmem
      rw [List.flatMap_cons, hs] at hrest
      rw [List.append_nil, hempty]
      split
      · rfl
      · rw [Option.bind_some, Option.bind_some]
        rw [List.nil_append, List.cons_append] at hrest
        rw [hrest, Option.map_map, Option.map_map]
        rfl
    · obtain ⟨hq, hp⟩ := hstop hgnil
      have hne : ((text.takeWhile p).flatMap spell ++ g).isEmpty = false := by
        simp [hgnil]
      rw [hne, if_neg Bool.false_ne_true, Option.bind_some, hq]
      split
      · rfl
      · rw [Option.bind_some, hp]
        rfl

end Spelling

def Match.spelled (spell : α → List β) (m : Match α) : Match β where
  before := m.before.flatMap spell
  inner := m.inner.flatMap spell
  after := m.after.flatMap spell

namespace Pattern

variable {spell : α → List β} {ok : α → Prop} {P : Pattern α} {Q : Pattern β}

/-- The second pattern finds in a spelled text what the first finds in the text, and begins
no match within the spelling of a letter. -/
structure Spelled (spell : α → List β) (ok : α → Prop) (P : Pattern α) (Q : Pattern β) : Prop where
  parts : Follows spell ok P.parts Q.parts
  before : Q.before.length = P.before.length
  group : Q.group.length = P.group.length
  spell_ne_nil : ∀ a, ok a → spell a ≠ []
  within : ∀ a, ok a → ∀ c ∈ (spell a).tail, ∀ rest, Q.exec (c :: rest) = none

theorem flatten_map_flatMap (pieces : List (List α)) :
    (pieces.map (List.flatMap spell)).flatten = pieces.flatten.flatMap spell := by
  induction pieces with
  | nil => rfl
  | cons x xs ih =>
    rw [List.map_cons, List.flatten_cons, ih, List.flatten_cons, List.flatMap_append]

theorem Spelled.exec (h : Spelled spell ok P Q) {text : List α} (hok : ∀ a ∈ text, ok a) :
    Q.exec (text.flatMap spell) =
      (P.exec text).map fun r => (r.1.spelled spell, r.2.flatMap spell) := by
  rw [Pattern.exec, Pattern.exec, h.parts text hok, Option.map_map, Option.map_map]
  refine congrFun (congrArg _ (funext fun r => ?_)) _
  have hpieces : Q.matchOf (r.1.map (List.flatMap spell)) = (P.matchOf r.1).spelled spell := by
    simp only [matchOf, Match.spelled, h.before, h.group, ← List.map_take, ← List.map_drop,
      flatten_map_flatMap]
  exact Prod.ext hpieces rfl

theorem replace_skip {keep : β → List γ} {sub : Match β → List γ} {x : List β}
    (hx : ∀ c ∈ x, ∀ rest, Q.exec (c :: rest) = none) (text : List β) :
    Q.replace keep sub (x ++ text) = x.flatMap keep ++ Q.replace keep sub text := by
  induction x with
  | nil => rfl
  | cons c x ih =>
    rw [List.cons_append, replace_none c (hx c (.head _) _), ih fun d hd => hx d (.tail _ hd),
      List.flatMap_cons, List.append_assoc]

/-- Replacing in a spelled text is replacing in the text. -/
theorem Spelled.replace (h : Spelled spell ok P Q) (hP : P.Advances) (hQ : Q.Advances)
    {keep : α → List γ} {sub : Match α → List γ} {f : γ → List δ} {keep' : β → List δ}
    {sub' : Match β → List δ} (hkeep : ∀ a, ok a → (keep a).flatMap f = (spell a).flatMap keep')
    (hsub : ∀ m, (sub m).flatMap f = sub' (m.spelled spell)) {text : List α}
    (hok : ∀ a ∈ text, ok a) :
    Q.replace keep' sub' (text.flatMap spell) = (P.replace keep sub text).flatMap f := by
  induction text using scan_induction hP with
  | nil => rfl
  | letter a text hexec ih =>
    have hnone : Q.exec ((a :: text).flatMap spell) = none := by
      rw [h.exec hok, hexec]
      rfl
    obtain ⟨c, s, hs⟩ := List.exists_cons_of_ne_nil (h.spell_ne_nil a (hok a (.head _)))
    have hwithin := h.within a (hok a (.head _))
    rw [List.flatMap_cons, hs, List.cons_append] at hnone
    rw [hs, List.tail_cons] at hwithin
    rw [replace_none a hexec, List.flatMap_append, hkeep a (hok a (.head _)), List.flatMap_cons,
      hs, List.cons_append, replace_none c hnone, replace_skip hwithin,
      ih fun b hb => hok b (.tail _ hb), List.flatMap_cons, List.append_assoc]
  | found text m rest hexec ih =>
    have hrest : ∀ a ∈ rest, ok a := fun a ha =>
      hok a ((exec_eq_some hexec).1 ▸ List.mem_append_right _ ha)
    have hsome : Q.exec (text.flatMap spell) = some (m.spelled spell, rest.flatMap spell) := by
      rw [h.exec hok, hexec]
      rfl
    rw [replace_some hP hexec, replace_some hQ hsome, List.flatMap_append, hsub, ih hrest]

end Pattern

end Foundation
