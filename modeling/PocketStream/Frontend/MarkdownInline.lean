import PocketStream.Foundation.Nesting
import PocketStream.Frontend.MarkdownLite

/-! # Inline text and its marks

The four replacements of an escaped text are followed on tokens: the characters of the
source, and the tags that stand for its marks. The tokens spell the output, and their
sources are the source text.
-/

namespace PocketStream

open Foundation

namespace MarkdownLite

/-- The element names in the output. -/
inductive Tag where
  | ul
  | li
  | p
  | pre
  | heading (level : ℕ)
  | code
  | strong
  | span
  deriving DecidableEq

def Tag.verbatim : Tag → Bool
  | .pre | .code => true
  | .ul | .li | .p | .heading _ | .strong | .span => false

inductive Mark where
  | code
  | strong
  | autolink
  | link
  deriving DecidableEq

namespace Mark

def tag : Mark → Tag
  | .code => .code
  | .strong => .strong
  | .autolink | .link => .span

def openingHtml : Mark → List Char
  | .code => "<code>".toList
  | .strong => "<strong>".toList
  | .autolink | .link => "<span class=\"md-link\">".toList

def closingHtml : Mark → List Char
  | .code => "</code>".toList
  | .strong => "</strong>".toList
  | .autolink | .link => "</span>".toList

/-- What the opening tag stands for in the source. -/
def before : Mark → List Char
  | .code => ['`']
  | .strong => ['*', '*']
  | .autolink => ['<']
  | .link => ['[']

/-- What the closing tag stands for in the source. A link ends with its target. -/
def after : Mark → List Char
  | .code => ['`']
  | .strong => ['*', '*']
  | .autolink => ['>']
  | .link => []

end Mark

inductive Token where
  /-- A character of the source, and whether it stands in a code span. -/
  | chr (c : Char) (code : Bool)
  | opening (m : Mark)
  | closing (m : Mark)
  /-- The rest of a link, from the bracket on, that is not shown. -/
  | target (source : List (Char × Bool))

def escapeChar : Char → List Char
  | '&' => ['&', 'a', 'm', 'p', ';']
  | '<' => ['&', 'l', 't', ';']
  | '>' => ['&', 'g', 't', ';']
  | '"' => ['&', 'q', 'u', 'o', 't', ';']
  | '\'' => ['&', '#', '0', '3', '9', ';']
  | c => [c]

namespace Token

def html : Token → List Char
  | .chr c _ => escapeChar c
  | .opening m => m.openingHtml
  | .closing m => m.closingHtml
  | .target _ => []

/-- The characters of the source it stands for, each with whether it stands in a code span. -/
def source : Token → List (Char × Bool)
  | .chr c code => [(c, code)]
  | .opening m => m.before.map (·, false)
  | .closing m => m.after.map (·, false)
  | .target source => source

def items : Token → List (Item Tag)
  | .chr _ code => [.text code]
  | .opening m => [.opening m.tag]
  | .closing m => [.closing m.tag]
  | .target _ => []

/-- A character, in a code span or not. -/
def is (c : Char) : Token → Bool
  | .chr d _ => d == c
  | _ => false

/-- It is shown. -/
def Shown : Token → Prop
  | .target _ => False
  | _ => True

end Token

theorem forall_mem_of_all {α : Type} {p : α → Prop} [DecidablePred p] {l : List α}
    (h : l.all (fun a => decide (p a)) = true) : ∀ a ∈ l, p a :=
  fun a ha => of_decide_eq_true (List.all_eq_true.mp h a ha)

/-! ### Escaping -/

/-- What follows the ampersand of a reference. -/
def referenceLetters : List Char :=
  ['a', 'm', 'p', 'l', 't', 'g', 'q', 'u', 'o', '#', '0', '3', '9', ';']

theorem escapeChar_cases (c : Char) :
    (∃ s, escapeChar c = '&' :: s ∧ c ∈ ['&', '<', '>', '"', '\''] ∧
        ∀ d ∈ s, d ∈ referenceLetters) ∨
      escapeChar c = [c] ∧ c ∉ ['&', '<', '>', '"', '\''] := by
  unfold escapeChar
  split
  iterate 5 exact .inl ⟨_, rfl, by decide, forall_mem_of_all (by decide)⟩
  next hamp hlt hgt hquot hapos =>
    refine .inr ⟨rfl, ?_⟩
    simp only [List.mem_cons, List.not_mem_nil, or_false, not_or]
    exact ⟨hamp, hlt, hgt, hquot, hapos⟩

theorem replaceChar_of_ne {c d : Char} (h : d ≠ c) (sub : String) :
    replaceChar c sub [d] = [d] := by
  rw [replaceChar, List.flatMap_singleton, if_neg h]

theorem escapeHtml_singleton (c : Char) : escapeHtml [c] = escapeChar c := by
  rcases escapeChar_cases c with ⟨s, -, hc, -⟩ | ⟨hchar, hc⟩
  · simp only [List.mem_cons, List.not_mem_nil, or_false] at hc
    rcases hc with rfl | rfl | rfl | rfl | rfl <;> rfl
  · simp only [List.mem_cons, List.not_mem_nil, or_false, not_or] at hc
    obtain ⟨hamp, hlt, hgt, hquot, hapos⟩ := hc
    rw [hchar, escapeHtml, replaceChar_of_ne hamp, replaceChar_of_ne hlt, replaceChar_of_ne hgt,
      replaceChar_of_ne hquot, replaceChar_of_ne hapos]

theorem escapeHtml_eq (text : List Char) : escapeHtml text = text.flatMap escapeChar := by
  induction text with
  | nil => rfl
  | cons c text ih =>
    rw [List.flatMap_cons, ← ih, ← escapeHtml_singleton]
    simp only [escapeHtml, replaceChar, List.flatMap_cons, List.flatMap_append, List.flatMap_nil,
      List.append_nil]

/-- The character that the reference after an ampersand names. -/
def readReference : List Char → Option Char
  | 'a' :: _ => some '&'
  | 'l' :: _ => some '<'
  | 'g' :: _ => some '>'
  | 'q' :: _ => some '"'
  | '#' :: _ => some '\''
  | _ => none

/-- The character that an escaped text begins with. -/
def readChar : List Char → Option Char
  | [] => none
  | c :: rest => if c = '&' then readReference rest else some c

theorem readChar_escapeChar (c : Char) (rest : List Char) :
    readChar (escapeChar c ++ rest) = some c := by
  rcases escapeChar_cases c with ⟨s, -, hc, -⟩ | ⟨hchar, hc⟩
  · simp only [List.mem_cons, List.not_mem_nil, or_false] at hc
    rcases hc with rfl | rfl | rfl | rfl | rfl <;> rfl
  · have hne : c ≠ '&' := fun heq => hc (heq ▸ .head _)
    rw [hchar]
    exact if_neg hne

theorem escapeChar_ne_nil (c : Char) : escapeChar c ≠ [] := by
  rcases escapeChar_cases c with ⟨s, hs, -⟩ | ⟨hs, -⟩ <;> simp [hs]

theorem eq_of_prefix_escapeChar {c d : Char} {rest : List Char}
    (h : escapeChar c <+: escapeChar d ++ rest) : c = d := by
  obtain ⟨t, ht⟩ := h
  have hread := congrArg readChar ht
  rw [readChar_escapeChar, readChar_escapeChar] at hread
  exact Option.some.inj hread

/-- The characters that begin the patterns, or end their runs. -/
def marks : List Char := ['`', '*', '&', '[', ']', ')']

theorem not_mem_tail_escapeChar {c d : Char} (hd : d ∈ marks) : d ∉ (escapeChar c).tail := by
  have hplain : ∀ d ∈ marks, d ∉ referenceLetters := forall_mem_of_all (by decide)
  rcases escapeChar_cases c with ⟨s, hs, -, hletters⟩ | ⟨hs, -⟩
  · rw [hs]
    exact fun hmem => hplain d hd (hletters d hmem)
  · rw [hs]
    exact List.not_mem_nil

namespace Token

theorem html_ne_nil {a : Token} (h : a.Shown) : a.html ≠ [] := by
  cases a with
  | chr c code => exact escapeChar_ne_nil c
  | opening m => cases m <;> decide
  | closing m => cases m <;> decide
  | target u => exact h.elim

theorem not_mem_tail_html {a : Token} {d : Char} (hd : d ∈ marks) : d ∉ a.html.tail := by
  cases a with
  | chr c code => exact not_mem_tail_escapeChar hd
  | opening m =>
    have hplain : ∀ d ∈ marks, d ∉ m.openingHtml.tail := by
      cases m <;> exact forall_mem_of_all (by decide)
    exact hplain d hd
  | closing m =>
    have hplain : ∀ d ∈ marks, d ∉ m.closingHtml.tail := by
      cases m <;> exact forall_mem_of_all (by decide)
    exact hplain d hd
  | target u => exact List.not_mem_nil

theorem html_of_is {a : Token} {d : Char} (h : a.is d = true) : a.html = escapeChar d := by
  cases a with
  | chr c code => rw [html, eq_of_beq h]
  | opening m => cases h
  | closing m => cases h
  | target u => cases h

/-- An escaped character is no tag. -/
theorem not_prefix_tag {d : Char} {tag rest : List Char} (htag : tag.head? = some '<') :
    ¬escapeChar d <+: tag ++ rest := by
  obtain ⟨s, rfl⟩ : ∃ s, tag = '<' :: s := List.head?_eq_some_iff.mp htag
  intro h
  rcases escapeChar_cases d with ⟨s, hs, -, -⟩ | ⟨hs, hd⟩
  · rw [hs, List.cons_append, List.cons_prefix_cons] at h
    exact absurd h.1 (by decide)
  · rw [hs, List.cons_append, List.cons_prefix_cons] at h
    rw [h.1] at hd
    exact hd (by decide)

end Token

theorem coded_chars : Coded escapeChar (fun _ => True) (fun c d => decide (d = c)) escapeChar where
  code_ne_nil := escapeChar_ne_nil
  spell_eq _ _ h := by rw [of_decide_eq_true h]
  apart _ _ _ _ h hprefix := of_decide_eq_false h (eq_of_prefix_escapeChar hprefix).symm

theorem coded_tokens : Coded Token.html Token.Shown Token.is escapeChar where
  code_ne_nil := escapeChar_ne_nil
  spell_eq _ _ h := Token.html_of_is h
  apart c a rest hshown h hprefix := by
    cases a with
    | chr d code =>
      obtain rfl := eq_of_prefix_escapeChar hprefix
      simp [Token.is] at h
    | opening m => exact Token.not_prefix_tag (by cases m <;> rfl) hprefix
    | closing m => exact Token.not_prefix_tag (by cases m <;> rfl) hprefix
    | target u => exact hshown

/-! ### The patterns on tokens -/

namespace Token

def lit (s : String) : PatternPart Token := .word (s.toList.map is)

/-- Of tokens that are shown by letters of the class. -/
def run (q : Char → Bool) : PatternPart Token := .run fun a => a.html.all q

def strongPattern : Pattern Token where
  before := [lit "**"]
  group := [run (· != '*')]
  after := [lit "**"]

def autolinkPattern : Pattern Token where
  before := [lit "<"]
  group := [lit "http", .optional (is 's'), lit "://", run fun c => !isSpace c && c != '&']
  after := [lit ">"]

def linkPattern : Pattern Token where
  before := [lit "["]
  group := [run (· != ']')]
  after := [lit "](", run fun c => c != ')' && !isSpace c, lit ")"]

end Token

theorem takeParts_none_of_word {α : Type} {p : α → Bool} {ps : List (α → Bool)}
    {parts : List (PatternPart α)} {c : α} (hc : p c = false) (rest : List α) :
    takeParts (.word (p :: ps) :: parts) (c :: rest) = none := by
  rw [takeParts, PatternPart.take, takeWord, hc]
  rfl

theorem exec_none_of_word {α : Type} {P : Pattern α} {p : α → Bool} {ps : List (α → Bool)}
    {before : List (PatternPart α)} (hP : P.before = .word (p :: ps) :: before) {c : α}
    (hc : p c = false) (rest : List α) : P.exec (c :: rest) = none := by
  have hparts : P.parts = .word (p :: ps) :: (before ++ P.group ++ P.after) := by
    rw [Pattern.parts, hP]
    rfl
  rw [Pattern.exec, hparts, takeParts_none_of_word hc]
  rfl

section Follows

variable {ps : List (PatternPart Token)} {qs : List (PatternPart Char)}

/-- A word is followed by its escaped spelling. -/
theorem follows_lit (h : Follows Token.html Token.Shown ps qs) (s : String) :
    Follows Token.html Token.Shown (Token.lit s :: ps)
      (.word (literal (s.toList.flatMap escapeChar)) :: qs) :=
  h.word coded_tokens s.toList

/-- A run up to a word whose first letter is outside the class and a mark. -/
theorem follows_run {q : Char → Bool} {k : Char} {ks e : List Char} {d : Char}
    (hk : escapeChar k = d :: e) (hd : d ∈ marks) (hq : q d = false)
    (h : Follows Token.html Token.Shown (.word ((k :: ks).map Token.is) :: ps)
      (.word (literal ((k :: ks).flatMap escapeChar)) :: qs)) :
    Follows Token.html Token.Shown (Token.run q :: .word ((k :: ks).map Token.is) :: ps)
      (.run q :: .word (literal ((k :: ks).flatMap escapeChar)) :: qs) := by
  refine h.run (fun a hshown ha => ⟨Token.html_ne_nil hshown, List.all_eq_true.mp ha⟩)
    fun a hshown ha => ?_
  have hdrop : a.html.dropWhile q ≠ [] := by
    intro hnil
    have hall := List.all_eq_true.mpr (List.dropWhile_eq_nil_iff.mp hnil)
    exact Bool.false_ne_true (ha.symm.trans hall)
  obtain ⟨c, s, hs⟩ := List.exists_cons_of_ne_nil hdrop
  have hsplit : a.html = a.html.takeWhile q ++ c :: s := by
    rw [← hs, List.takeWhile_append_dropWhile]
  refine ⟨a.html.takeWhile q, c, s, hsplit, fun b hb => List.mem_takeWhile_imp hb, ?_, ?_⟩
  · simpa [hs] using List.head_dropWhile_not q hdrop
  · intro hne
    obtain ⟨b, g, hg⟩ := List.exists_cons_of_ne_nil hne
    rw [hg, List.cons_append] at hsplit
    have hb : q b = true := List.mem_takeWhile_imp (hg ▸ List.mem_cons_self)
    constructor
    · -- a mark begins the spelling of a token or is not in it
      have hcd : c ≠ d := by
        rintro rfl
        refine Token.not_mem_tail_html (a := a) hd ?_
        rw [hsplit]
        exact List.mem_append_right _ (.head _)
      intro rest
      rw [List.flatMap_cons, hk]
      refine takeParts_none_of_word ?_ rest
      exact decide_eq_false hcd
    · have his : a.is k = false := by
        by_contra his
        have hhtml := Token.html_of_is (Bool.of_not_eq_false his)
        rw [hsplit, hk] at hhtml
        obtain ⟨rfl, -⟩ := List.cons_eq_cons.mp hhtml
        exact Bool.false_ne_true (hq.symm.trans hb)
      exact takeParts_none_of_word his

end Follows

theorem spelled_code : Pattern.Spelled escapeChar (fun _ => True) codePattern codePattern where
  parts := by
    refine Follows.word (.run (.word follows_nil coded_chars ['`']) ?_ ?_) coded_chars ['`']
    · intro c _ hc
      refine ⟨escapeChar_ne_nil c, fun d hd => bne_iff_ne.mpr ?_⟩
      rintro rfl
      rcases escapeChar_cases c with ⟨s, hs, -, -⟩ | ⟨hs, -⟩
      · rw [hs] at hd
        refine not_mem_tail_escapeChar (c := c) (d := '`') (by decide) ?_
        rw [hs]
        exact List.mem_of_ne_of_mem (by decide) hd
      · rw [hs] at hd
        exact bne_iff_ne.mp hc (List.mem_singleton.mp hd).symm
    · intro c _ hc
      obtain rfl : c = '`' := by simpa using hc
      exact ⟨[], '`', [], rfl, nofun, rfl, fun hne => absurd rfl hne⟩
  before := rfl
  group := rfl
  spell_ne_nil c _ := escapeChar_ne_nil c
  within c _ d hd rest := by
    refine exec_none_of_word (P := codePattern) rfl (decide_eq_false ?_) rest
    rintro rfl
    exact not_mem_tail_escapeChar (by decide) hd

theorem spelled_strong :
    Pattern.Spelled Token.html Token.Shown Token.strongPattern strongPattern where
  parts := follows_lit (follows_run rfl (by decide) rfl (follows_lit follows_nil "**")) "**"
  before := rfl
  group := rfl
  spell_ne_nil _ h := Token.html_ne_nil h
  within a _ d hd rest := by
    refine exec_none_of_word (P := strongPattern) rfl (decide_eq_false ?_) rest
    rintro rfl
    exact Token.not_mem_tail_html (by decide) hd

theorem spelled_autolink :
    Pattern.Spelled Token.html Token.Shown Token.autolinkPattern autolinkPattern where
  parts := by
    have hurl := follows_lit (follows_run (q := fun c => !isSpace c && c != '&') rfl (by decide) rfl
      (follows_lit follows_nil ">")) "://"
    have hhttps := hurl.optional coded_tokens (k := 's') rfl fun _ h => Token.html_ne_nil h
    exact follows_lit (follows_lit hhttps "http") "<"
  before := rfl
  group := rfl
  spell_ne_nil _ h := Token.html_ne_nil h
  within a _ d hd rest := by
    refine exec_none_of_word (P := autolinkPattern) rfl (decide_eq_false ?_) rest
    rintro rfl
    exact Token.not_mem_tail_html (by decide) hd

theorem spelled_link :
    Pattern.Spelled Token.html Token.Shown Token.linkPattern linkPattern where
  parts := by
    have htarget := follows_run (q := fun c => c != ')' && !isSpace c) rfl (by decide) rfl
      (follows_lit follows_nil ")")
    exact follows_lit (follows_run rfl (by decide) rfl (follows_lit htarget "](")) "["
  before := rfl
  group := rfl
  spell_ne_nil _ h := Token.html_ne_nil h
  within a _ d hd rest := by
    refine exec_none_of_word (P := linkPattern) rfl (decide_eq_false ?_) rest
    rintro rfl
    exact Token.not_mem_tail_html (by decide) hd

/-! ### The passes -/

def surround (mark : Mark) (inner : List Token) : List Token :=
  .opening mark :: inner ++ [.closing mark]

def codeTokens (text : List Char) : List Token :=
  codePattern.replace (fun c => [.chr c false])
    (fun m => surround .code (m.inner.map (.chr · true))) text

/-- One of the passes after the first. -/
def pass (P : Pattern Token) (mark : Mark) (tail : Match Token → List Token) :
    List Token → List Token :=
  P.replace (fun a => [a]) fun m => surround mark m.inner ++ tail m

def strongTokens : List Token → List Token := pass Token.strongPattern .strong fun _ => []

def autolinkTokens : List Token → List Token := pass Token.autolinkPattern .autolink fun _ => []

def linkTokens : List Token → List Token :=
  pass Token.linkPattern .link fun m => [.target (m.after.flatMap Token.source)]

def inlineTokens (text : List Char) : List Token :=
  linkTokens (autolinkTokens (strongTokens (codeTokens text)))

theorem advances_code : codePattern.Advances := Pattern.advances_of_word rfl

theorem advances_strong : Token.strongPattern.Advances := Pattern.advances_of_word rfl

theorem advances_autolink : Token.autolinkPattern.Advances := Pattern.advances_of_word rfl

theorem advances_link : Token.linkPattern.Advances := Pattern.advances_of_word rfl

theorem flatMap_surround {β : Type} (f : Token → List β) (mark : Mark) (inner : List Token) :
    (surround mark inner).flatMap f =
      f (.opening mark) ++ inner.flatMap f ++ f (.closing mark) := by
  simp [surround]

/-- The tokens before the last pass. -/
def Token.Unlinked (a : Token) : Prop := a.Shown ∧ a ≠ .closing .link

theorem unlinked_codeTokens (text : List Char) : ∀ a ∈ codeTokens text, a.Unlinked := by
  intro a ha
  rcases Pattern.mem_replace advances_code ha with ⟨c, -, hc⟩ | ⟨m, -, -, hm⟩
  · obtain rfl := List.mem_singleton.mp hc
    exact ⟨trivial, nofun⟩
  · simp only [surround, List.mem_cons, List.mem_append, List.mem_map, List.not_mem_nil,
      or_false] at hm
    rcases hm with (rfl | ⟨c, -, rfl⟩) | rfl <;> exact ⟨trivial, nofun⟩

theorem unlinked_pass {P : Pattern Token} (hP : P.Advances) {mark : Mark} (hmark : mark ≠ .link)
    {toks : List Token} (h : ∀ a ∈ toks, a.Unlinked) :
    ∀ a ∈ pass P mark (fun _ => []) toks, a.Unlinked := by
  intro a ha
  rcases Pattern.mem_replace hP ha with ⟨b, hb, ha⟩ | ⟨m, -, hsub, ha⟩
  · exact List.mem_singleton.mp ha ▸ h b hb
  · simp only [surround, List.mem_cons, List.mem_append, List.not_mem_nil, or_false] at ha
    rcases ha with (rfl | ha) | rfl
    · exact ⟨trivial, nofun⟩
    · exact h a (hsub a (List.mem_append_left _ (List.mem_append_right _ ha)))
    · exact ⟨trivial, fun heq => hmark (Token.closing.inj heq)⟩

theorem unlinked_strongTokens (text : List Char) :
    ∀ a ∈ strongTokens (codeTokens text), a.Unlinked :=
  unlinked_pass advances_strong (show Mark.strong ≠ .link by decide) (unlinked_codeTokens text)

theorem unlinked_autolinkTokens (text : List Char) :
    ∀ a ∈ autolinkTokens (strongTokens (codeTokens text)), a.Unlinked :=
  unlinked_pass advances_autolink (show Mark.autolink ≠ .link by decide)
    (unlinked_strongTokens text)

/-- A pass over tokens is the replacement over what they spell. -/
theorem html_pass {P : Pattern Token} {Q : Pattern Char}
    (h : Pattern.Spelled Token.html Token.Shown P Q) (hP : P.Advances) (hQ : Q.Advances)
    (mark : Mark) (tail : Match Token → List Token) {opening closing : String}
    (htail : ∀ m, (tail m).flatMap Token.html = []) (hopening : opening.toList = mark.openingHtml)
    (hclosing : closing.toList = mark.closingHtml) {toks : List Token}
    (hshown : ∀ a ∈ toks, a.Shown) :
    replaceAll Q (styled opening closing) (toks.flatMap Token.html) =
      (pass P mark tail toks).flatMap Token.html := by
  refine h.replace hP hQ (fun a _ => ?_) (fun m => ?_) hshown
  · simp
  · rw [List.flatMap_append, htail, List.append_nil, flatMap_surround, styled, hopening, hclosing]
    rfl

theorem html_codeTokens (text : List Char) :
    replaceAll codePattern (styled "<code>" "</code>") (text.flatMap escapeChar) =
      (codeTokens text).flatMap Token.html := by
  refine spelled_code.replace advances_code advances_code (fun c _ => ?_) (fun m => ?_)
    fun _ _ => trivial
  · simp [Token.html]
  · rw [flatMap_surround, styled, List.flatMap_map]
    rfl

/-- The output of the replacements is what the tokens spell. -/
theorem inline_eq (text : List Char) :
    inline (escapeHtml text) = (inlineTokens text).flatMap Token.html := by
  have hcode := fun a ha => (unlinked_codeTokens text a ha).1
  have hstrong := fun a ha => (unlinked_strongTokens text a ha).1
  have hautolink := fun a ha => (unlinked_autolinkTokens text a ha).1
  have hpass₂ := html_pass spelled_strong advances_strong (Pattern.advances_of_word rfl) .strong
    (fun _ => []) (fun _ => rfl) rfl rfl hcode
  have hpass₃ := html_pass spelled_autolink advances_autolink (Pattern.advances_of_word rfl)
    .autolink (fun _ => []) (fun _ => rfl) rfl rfl hstrong
  have hpass₄ := html_pass spelled_link advances_link (Pattern.advances_of_word rfl) .link
    (fun m => [.target (m.after.flatMap Token.source)]) (fun _ => rfl) rfl rfl hautolink
  rw [inline, escapeHtml_eq, html_codeTokens]
  exact (congrArg _ ((congrArg _ hpass₂).trans hpass₃)).trans hpass₄

/-! ### What the tokens stand for -/

def Token.chars (a : Token) : List Char := a.source.map Prod.fst

/-- The characters of a text, each with whether it stands in a code span. -/
def codeMarks (text : List Char) : List (Char × Bool) :=
  codePattern.replace (fun c => [(c, false)])
    (fun m => ('`', false) :: m.inner.map (·, true) ++ [('`', false)]) text

/-- Every tag is closed, the last opened first, and only the text of a code span is in its tag. -/
def Whole (toks : List Token) : Prop := Item.Nested Tag.verbatim (toks.flatMap Token.items)

instance (toks : List Token) : Decidable (Whole toks) :=
  inferInstanceAs (Decidable (Item.Nested _ _))

/-- No match of the pass holds one end of a tag only or has a mark in a code span. -/
def Clean (P : Pattern Token) (toks : List Token) : Prop :=
  ∀ m ∈ P.found toks, Whole m.before ∧ Whole m.inner ∧ Whole m.after

instance (P : Pattern Token) (toks : List Token) : Decidable (Clean P toks) :=
  inferInstanceAs (Decidable (∀ m ∈ P.found toks, _))

/-- No mark of the later passes stands in a code span, and what a link or another mark holds
leaves no tag half outside. -/
def Uncrossed (text : List Char) : Prop :=
  Clean Token.strongPattern (codeTokens text) ∧
    Clean Token.autolinkPattern (strongTokens (codeTokens text)) ∧
    Clean Token.linkPattern (autolinkTokens (strongTokens (codeTokens text)))

instance (text : List Char) : Decidable (Uncrossed text) :=
  inferInstanceAs (Decidable (_ ∧ _ ∧ _))

theorem source_codeTokens (text : List Char) :
    (codeTokens text).flatMap Token.source = codeMarks text := by
  rw [codeTokens, codeMarks, Pattern.replace, Pattern.replace, List.flatMap_assoc]
  refine List.flatMap_congr fun x _ => ?_
  cases x with
  | inl c => rfl
  | inr m =>
    have hinner : (m.inner.map fun c => Token.chr c true).flatMap Token.source =
        m.inner.map (·, true) := by
      rw [List.flatMap_map, ← List.flatMap_pure_eq_map]
      rfl
    rw [Sum.elim_inr, flatMap_surround, hinner]
    rfl

theorem chars_codeTokens (text : List Char) : (codeTokens text).flatMap Token.chars = text := by
  have hletters : text.flatMap (fun c => [c]) = text := List.flatMap_singleton' text
  refine (Pattern.flatMap_replace advances_code (fun c => rfl) fun m hm => ?_).trans hletters
  have hbefore : m.before = ['`'] :=
    eq_of_forall₂_literal (Pattern.fits_before advances_code hm (p := lit "`") rfl)
  have hafter : m.after = ['`'] :=
    eq_of_forall₂_literal (Pattern.fits_after advances_code hm (p := lit "`") rfl)
  have hinner : (m.inner.map fun c => Token.chr c true).flatMap Token.chars = m.inner := by
    rw [List.flatMap_map]
    exact List.flatMap_singleton' m.inner
  rw [flatMap_surround, hinner, Match.text, hbefore, hafter]
  exact (List.flatMap_singleton' (['`'] ++ m.inner ++ ['`'])).symm

theorem whole_codeTokens (text : List Char) : Whole (codeTokens text) := by
  induction text using Pattern.scan_induction advances_code with
  | nil => rfl
  | letter c text hexec ih =>
    rw [codeTokens, Pattern.replace_none c hexec, Whole, List.flatMap_append]
    exact Item.Nested.append rfl ih
  | found text m rest hexec ih =>
    have hinner : (m.inner.map fun c => Token.chr c true).flatMap Token.items =
        m.inner.map fun _ => .text true := by
      rw [List.flatMap_map, ← List.flatMap_pure_eq_map]
      rfl
    rw [codeTokens, Pattern.replace_some advances_code hexec, Whole, List.flatMap_append,
      flatMap_surround, hinner]
    exact Item.Nested.append (Item.nestAll_verbatim rfl rfl m.inner) ih

section Pass

variable {P : Pattern Token} {mark : Mark} {tail : Match Token → List Token} {toks : List Token}

/-- What the tags of a mark stand for is what its match takes around the group. -/
theorem flatMap_pass {β : Type} {f : Token → List β} (hP : P.Advances)
    (hbefore : ∀ m ∈ P.found toks, m.before.flatMap f = f (.opening mark))
    (hafter : ∀ m ∈ P.found toks, m.after.flatMap f = f (.closing mark) ++ (tail m).flatMap f) :
    (pass P mark tail toks).flatMap f = toks.flatMap f := by
  refine Pattern.flatMap_replace hP (fun a => ?_) fun m hm => ?_
  · simp
  · rw [List.flatMap_append, flatMap_surround, Match.text, List.flatMap_append, List.flatMap_append,
      hbefore m hm, hafter m hm, List.append_assoc]

theorem chars_of_fits {s : String} {piece : List Token} (h : (Token.lit s).Fits piece) :
    piece.flatMap Token.chars = s.toList := by
  replace h : List.Forall₂ (fun c a => Token.is c a = true) s.toList piece :=
    List.forall₂_map_left_iff.mp h
  generalize s.toList = cs at h ⊢
  induction h with
  | nil => rfl
  | cons ha _ ih =>
    rename_i c a cs as _
    cases a with
    | chr d code =>
      rw [List.flatMap_cons, ih, eq_of_beq ha]
      rfl
    | opening m => cases ha
    | closing m => cases ha
    | target u => cases ha

/-- The letters of a mark that is not in a code span. -/
theorem source_of_fits {s : String} {piece : List Token} (h : (Token.lit s).Fits piece)
    (hwhole : Whole piece) : piece.flatMap Token.source = s.toList.map (·, false) := by
  replace h : List.Forall₂ (fun c a => Token.is c a = true) s.toList piece :=
    List.forall₂_map_left_iff.mp h
  generalize s.toList = cs at h ⊢
  induction h with
  | nil => rfl
  | cons ha _ ih =>
    rename_i c a cs as _
    cases a with
    | chr d code =>
      obtain ⟨s, hcode, hrest⟩ := Option.bind_eq_some_iff.mp hwhole
      obtain ⟨hplain, hs⟩ := Option.ite_none_right_eq_some.mp hcode
      cases hs
      rw [List.flatMap_cons, ih hrest, eq_of_beq ha, hplain]
      rfl
    | opening m => cases ha
    | closing m => cases ha
    | target u => cases ha

/-- A match of a clean pass stands outside the code spans. -/
theorem within_of_clean {s : String} {m : Match Token} {st st' : List Tag} (hs : s.toList ≠ [])
    (hfits : (Token.lit s).Fits m.before) (hwhole : Whole m.before) {rest : List (Item Tag)}
    (h : Item.nestAll Tag.verbatim st (m.before.flatMap Token.items ++ rest) = some st') :
    Item.Within Tag.verbatim st = false := by
  rw [Item.nestAll_append] at h
  obtain ⟨st₁, hbefore, -⟩ := Option.bind_eq_some_iff.mp h
  obtain ⟨c, cs, hcs⟩ := List.exists_cons_of_ne_nil hs
  rw [Token.lit, hcs] at hfits
  obtain ⟨a, as, ha, -, heq⟩ := List.forall₂_cons_left_iff.mp hfits
  rw [Whole, heq] at hwhole
  rw [heq] at hbefore
  cases a with
  | chr d code => exact hwhole.within hbefore
  | opening m => cases ha
  | closing m => cases ha
  | target u => cases ha

theorem nestAll_pass {s : String} (hP : P.Advances) (hbefore : P.before = [Token.lit s])
    (hs : s.toList ≠ []) (hmark : mark.tag.verbatim = false)
    (htail : ∀ m, (tail m).flatMap Token.items = []) (hclean : Clean P toks) {st st' : List Tag}
    (h : Item.nestAll Tag.verbatim st (toks.flatMap Token.items) = some st') :
    Item.nestAll Tag.verbatim st ((pass P mark tail toks).flatMap Token.items) = some st' := by
  induction toks using Pattern.scan_induction hP generalizing st with
  | nil => exact h
  | letter a toks hexec ih =>
    rw [pass, Pattern.replace_none a hexec, List.singleton_append, List.flatMap_cons,
      Item.nestAll_append]
    rw [List.flatMap_cons, Item.nestAll_append] at h
    obtain ⟨st₁, ha, h⟩ := Option.bind_eq_some_iff.mp h
    rw [Clean, Pattern.found_none a hexec] at hclean
    rw [ha]
    exact ih hclean h
  | found toks m rest hexec ih =>
    have hfound := Pattern.found_some hP hexec
    have hm : m ∈ P.found toks := hfound ▸ .head _
    obtain ⟨hb, hi, ha⟩ := hclean m hm
    have htoks := (Pattern.exec_eq_some hexec).1
    rw [htoks, Match.text, List.append_assoc, List.append_assoc, List.flatMap_append] at h
    have hout := within_of_clean hs (Pattern.fits_before hP hm hbefore) hb h
    rw [List.flatMap_append, List.flatMap_append, Item.nestAll_append, hb.nestAll hout,
      Option.bind_some, Item.nestAll_append, hi.nestAll hout, Option.bind_some,
      Item.nestAll_append, ha.nestAll hout, Option.bind_some] at h
    have hrest : Clean P rest := fun m' hm' => hclean m' (hfound ▸ .tail _ hm')
    rw [pass, Pattern.replace_some hP hexec, List.flatMap_append, List.flatMap_append, htail,
      List.append_nil, flatMap_surround, Item.nestAll_append]
    have hwrap : Item.nestAll Tag.verbatim st (Token.items (.opening mark) ++
        m.inner.flatMap Token.items ++ Token.items (.closing mark)) = some st :=
      Item.Nested.wrap hi hout hmark
    rw [hwrap]
    exact ih hrest h

end Pass

/-- A mark of one word on each side of its group. -/
structure Sides (P : Pattern Token) (mark : Mark) (left right : String) : Prop where
  advances : P.Advances
  before : P.before = [Token.lit left]
  after : P.after = [Token.lit right]
  opening : left.toList = mark.before
  closing : right.toList = mark.after
  ne_nil : left.toList ≠ []
  verbatim : mark.tag.verbatim = false

theorem sides_strong : Sides Token.strongPattern .strong "**" "**" :=
  ⟨advances_strong, rfl, rfl, rfl, rfl, by decide, rfl⟩

theorem sides_autolink : Sides Token.autolinkPattern .autolink "<" ">" :=
  ⟨advances_autolink, rfl, rfl, rfl, rfl, by decide, rfl⟩

namespace Sides

variable {P : Pattern Token} {mark : Mark} {left right : String} {toks : List Token}

theorem chars (h : Sides P mark left right) :
    (pass P mark (fun _ => []) toks).flatMap Token.chars = toks.flatMap Token.chars := by
  have hmark : ∀ w : List Char, (w.map (·, false)).map Prod.fst = w := fun w => by
    rw [List.map_map]
    exact List.map_id w
  refine flatMap_pass h.advances (fun m hm => ?_) fun m hm => ?_
  · rw [chars_of_fits (Pattern.fits_before h.advances hm h.before), h.opening]
    exact (hmark _).symm
  · rw [chars_of_fits (Pattern.fits_after h.advances hm h.after), h.closing, List.flatMap_nil,
      List.append_nil]
    exact (hmark _).symm

theorem source (h : Sides P mark left right) (hclean : Clean P toks) :
    (pass P mark (fun _ => []) toks).flatMap Token.source = toks.flatMap Token.source := by
  refine flatMap_pass h.advances (fun m hm => ?_) fun m hm => ?_
  · rw [source_of_fits (Pattern.fits_before h.advances hm h.before) (hclean m hm).1, h.opening]
    rfl
  · rw [source_of_fits (Pattern.fits_after h.advances hm h.after) (hclean m hm).2.2, h.closing,
      List.flatMap_nil, List.append_nil]
    rfl

theorem whole (h : Sides P mark left right) (hclean : Clean P toks) (hwhole : Whole toks) :
    Whole (pass P mark (fun _ => []) toks) :=
  nestAll_pass h.advances h.before h.ne_nil h.verbatim (fun _ => rfl) hclean hwhole

end Sides

section Link

variable {toks : List Token}

theorem linkTokens_flatMap {β : Type} {f : Token → List β}
    (hbefore : ∀ m ∈ Token.linkPattern.found toks, m.before.flatMap f = f (.opening .link))
    (hclosing : f (.closing .link) = [])
    (htarget : ∀ after : List Token, f (.target (after.flatMap Token.source)) = after.flatMap f) :
    (linkTokens toks).flatMap f = toks.flatMap f := by
  refine flatMap_pass advances_link hbefore fun m _ => ?_
  rw [hclosing, List.nil_append, List.flatMap_singleton, htarget]

theorem chars_linkTokens : (linkTokens toks).flatMap Token.chars = toks.flatMap Token.chars := by
  refine linkTokens_flatMap (fun m hm => ?_) rfl fun after => List.map_flatMap
  exact chars_of_fits (Pattern.fits_before advances_link hm rfl)

theorem source_linkTokens (hclean : Clean Token.linkPattern toks) :
    (linkTokens toks).flatMap Token.source = toks.flatMap Token.source := by
  refine linkTokens_flatMap (fun m hm => ?_) rfl fun after => rfl
  exact source_of_fits (Pattern.fits_before advances_link hm rfl) (hclean m hm).1

theorem whole_linkTokens (hclean : Clean Token.linkPattern toks) (hwhole : Whole toks) :
    Whole (linkTokens toks) :=
  nestAll_pass advances_link rfl (by decide) rfl (fun _ => rfl) hclean hwhole

end Link

/-- No character of a target closes it or is white space. -/
theorem chars_of_target {a : Token} (h : a.Unlinked)
    (hclass : a.html.all (fun c => c != ')' && !isSpace c) = true) :
    a.chars ≠ [] ∧ ∀ c ∈ a.chars, c ≠ ')' ∧ isSpace c = false := by
  cases a with
  | chr c code =>
    refine ⟨List.cons_ne_nil _ _, fun d hd => ?_⟩
    obtain rfl := List.mem_singleton.mp hd
    rcases escapeChar_cases d with ⟨-, -, hspecial, -⟩ | ⟨hplain, -⟩
    · have hclass : ∀ c ∈ ['&', '<', '>', '"', '\''], c ≠ ')' ∧ isSpace c = false :=
        forall_mem_of_all (by decide)
      exact hclass d hspecial
    · rw [Token.html, hplain] at hclass
      simpa using hclass
  | opening m =>
    cases m with
    | code | strong => exact ⟨by decide, forall_mem_of_all (by decide)⟩
    | autolink | link => exact absurd hclass (by decide)
  | closing m =>
    cases m with
    | code | strong | autolink => exact ⟨by decide, forall_mem_of_all (by decide)⟩
    | link => exact absurd rfl h.2
  | target u => exact h.1.elim

theorem targets_linkTokens {toks : List Token} (h : ∀ a ∈ toks, a.Unlinked)
    {u : List (Char × Bool)} (hu : .target u ∈ linkTokens toks) :
    ∃ t, u.map Prod.fst = "](".toList ++ t ++ ")".toList ∧
      t ≠ [] ∧ ∀ c ∈ t, c ≠ ')' ∧ isSpace c = false := by
  rcases Pattern.mem_replace advances_link hu with ⟨a, ha, heq⟩ | ⟨m, hm, hsub, hmem⟩
  · exact (List.mem_singleton.mp heq ▸ h a ha).1.elim
  · have hu : u = m.after.flatMap Token.source := by
      simp only [surround, List.mem_cons, List.mem_append, List.not_mem_nil, or_false,
        reduceCtorEq, false_or, Token.target.injEq] at hmem
      refine hmem.resolve_left fun hinner => ?_
      exact (h _ (hsub _ (List.mem_append_left _ (List.mem_append_right _ hinner)))).1
    obtain ⟨-, -, zs, -, -, -, -, hfits, hzs⟩ := Pattern.fits_of_mem_found advances_link hm
    obtain ⟨x, ys, hx, hfits₁, rfl⟩ := List.forall₂_cons_left_iff.mp hfits
    obtain ⟨y, ws, ⟨hne, hclass⟩, hfits₂, rfl⟩ := List.forall₂_cons_left_iff.mp hfits₁
    obtain ⟨z, vs, hz, hfits₃, rfl⟩ := List.forall₂_cons_left_iff.mp hfits₂
    cases hfits₃
    have hafter : m.after = x ++ (y ++ z) := by simpa using hzs
    have hy : ∀ a ∈ y, a.chars ≠ [] ∧ ∀ c ∈ a.chars, c ≠ ')' ∧ isSpace c = false := by
      intro a ha
      refine chars_of_target (h a (hsub a (List.mem_append_right _ ?_))) (hclass a ha)
      rw [hafter]
      exact List.mem_append_right _ (List.mem_append_left _ ha)
    refine ⟨y.flatMap Token.chars, ?_, ?_, fun c hc => ?_⟩
    · have hchars : u.map Prod.fst = m.after.flatMap Token.chars := hu ▸ List.map_flatMap
      rw [hchars, hafter, List.flatMap_append, List.flatMap_append, chars_of_fits hx,
        chars_of_fits hz, List.append_assoc]
    · obtain ⟨a, y, rfl⟩ := List.exists_cons_of_ne_nil hne
      rw [List.flatMap_cons]
      exact List.append_ne_nil_of_left_ne_nil (hy a (.head _)).1 _
    · obtain ⟨a, ha, hca⟩ := List.mem_flatMap.mp hc
      exact (hy a ha).2 c hca

/-! ### What is shown of a text -/

/-- The tokens of an inline text. -/
structure Shows (text : List Char) (toks : List Token) : Prop where
  html : inline (escapeHtml text) = toks.flatMap Token.html
  /-- Each character is shown, or it is of a mark or of a link's target. -/
  chars : toks.flatMap Token.chars = text
  targets : ∀ u, .target u ∈ toks → ∃ t, u.map Prod.fst = "](".toList ++ t ++ ")".toList ∧
    t ≠ [] ∧ ∀ c ∈ t, c ≠ ')' ∧ isSpace c = false
  /-- The code spans are the text of the code tags. -/
  marks : Uncrossed text → toks.flatMap Token.source = codeMarks text
  whole : Uncrossed text → Whole toks

theorem shows_inlineTokens (text : List Char) : Shows text (inlineTokens text) where
  html := inline_eq text
  chars := by
    rw [inlineTokens, chars_linkTokens]
    exact (sides_autolink.chars.trans sides_strong.chars).trans (chars_codeTokens text)
  targets _ hu := targets_linkTokens (unlinked_autolinkTokens text) hu
  marks h := by
    rw [inlineTokens, source_linkTokens h.2.2]
    exact ((sides_autolink.source h.2.1).trans (sides_strong.source h.1)).trans
      (source_codeTokens text)
  whole h := whole_linkTokens h.2.2 <| sides_autolink.whole h.2.1 <|
    sides_strong.whole h.1 (whole_codeTokens text)

end MarkdownLite

end PocketStream
