import PocketStream.Frontend.MarkdownInline

/-! # Blocks of a license document

Each line of a document belongs to one block, and each block is shown by one element.
The tags of lists open and close between them.
-/

namespace PocketStream

open Foundation

namespace MarkdownLite

/-- What is pushed at once. -/
inductive Element where
  | listOpens
  | listCloses
  | rule
  | heading (level : ℕ) (text : List Token)
  | item (text : List Token)
  | para (text : List Token)
  | pre (text : List Char)

namespace Element

def html : Element → List Char
  | .listOpens => "<ul>".toList
  | .listCloses => "</ul>".toList
  | .rule => "<hr>".toList
  | .heading level text => "<h".toList ++ Nat.toDigits 10 level ++ ">".toList ++
      text.flatMap Token.html ++ "</h".toList ++ Nat.toDigits 10 level ++ ">".toList
  | .item text => "<li>".toList ++ text.flatMap Token.html ++ "</li>".toList
  | .para text => "<p>".toList ++ text.flatMap Token.html ++ "</p>".toList
  | .pre text => "<pre>".toList ++ text.flatMap escapeChar ++ "</pre>".toList

theorem html_heading (level : ℕ) (text : List Token) : html (.heading level text) =
    "<h".toList ++ Nat.toDigits 10 level ++ ">".toList ++ text.flatMap Token.html ++
      "</h".toList ++ Nat.toDigits 10 level ++ ">".toList := rfl

theorem html_item (text : List Token) :
    html (.item text) = "<li>".toList ++ text.flatMap Token.html ++ "</li>".toList := rfl

theorem html_para (text : List Token) :
    html (.para text) = "<p>".toList ++ text.flatMap Token.html ++ "</p>".toList := rfl

theorem html_pre (text : List Char) :
    html (.pre text) = "<pre>".toList ++ text.flatMap escapeChar ++ "</pre>".toList := rfl

/-- The inline text. -/
def texts : Element → List (List Token)
  | .heading _ text | .item text | .para text => [text]
  | .listOpens | .listCloses | .rule | .pre _ => []

/-- The tags, with those of the inline text as they are given. -/
def items (inner : List Token → List (Item Tag)) : Element → List (Item Tag)
  | .listOpens => [.opening .ul]
  | .listCloses => [.closing .ul]
  | .rule => []
  | .heading level text => .opening (.heading level) :: inner text ++ [.closing (.heading level)]
  | .item text => .opening .li :: inner text ++ [.closing .li]
  | .para text => .opening .p :: inner text ++ [.closing .p]
  | .pre text => .opening .pre :: text.map (fun _ => .text true) ++ [.closing .pre]

/-- A block by itself. -/
def IsBlock : Element → Prop
  | .listOpens | .listCloses => False
  | _ => True

theorem nestAll_items {e : Element} (he : e.IsBlock) {inner : List Token → List (Item Tag)}
    (hinner : ∀ text ∈ e.texts, Item.Nested Tag.verbatim (inner text)) {s : List Tag}
    (hs : Item.Within Tag.verbatim s = false) :
    Item.nestAll Tag.verbatim s (e.items inner) = some s := by
  cases e with
  | listOpens | listCloses => exact he.elim
  | rule => rfl
  | heading level text => exact (hinner text (.head _)).wrap hs rfl
  | item text => exact (hinner text (.head _)).wrap hs rfl
  | para text => exact (hinner text (.head _)).wrap hs rfl
  | pre text => exact Item.nestAll_verbatim hs rfl text

end Element

/-- The lines are shown by the elements, each character but those of the markers. -/
inductive Renders : List (List Char) → List Element → Prop where
  | blank {raw : List Char} (h : trim raw = []) : Renders [raw] []
  | listOpens : Renders [] [.listOpens]
  | listCloses : Renders [] [.listCloses]
  | rule {raw : List Char} {c : Char} {n : ℕ} (hc : c = '-' ∨ c = '*') (hn : 3 ≤ n)
      (h : trim raw = List.replicate n c) : Renders [raw] [.rule]
  | heading {raw gap text : List Char} {level : ℕ} {toks : List Token}
      (hlevel : 1 ≤ level ∧ level ≤ 6) (hgap : gap ≠ [] ∧ ∀ c ∈ gap, isSpace c = true)
      (h : trim raw = List.replicate level '#' ++ gap ++ text) (hshows : Shows text toks) :
      Renders [raw] [.heading level toks]
  | item {raw gap text : List Char} {c : Char} {toks : List Token} (hc : c = '-' ∨ c = '*')
      (hgap : gap ≠ [] ∧ ∀ c ∈ gap, isSpace c = true) (h : trim raw = c :: gap ++ text)
      (hshows : Shows text toks) : Renders [raw] [.item toks]
  | para {raws : List (List Char)} {toks : List Token} (hne : raws ≠ [])
      (hraws : ∀ raw ∈ raws, trim raw ≠ [])
      (hshows : Shows ([' '].intercalate (raws.map trim)) toks) : Renders raws [.para toks]
  /-- The rest of the opening line is not shown. The last fence may be open. -/
  | fence {opening marker : List Char} {body : List (List Char)} {closing : Option (List Char)}
      (hmarker : marker = "```".toList ∨ marker = "~~~".toList)
      (hopening : marker <+: trim opening) (hbody : ∀ raw ∈ body, trim raw ≠ marker)
      (hclosing : ∀ raw ∈ closing, trim raw = marker) :
      Renders (opening :: body ++ closing.toList) [.pre (['\n'].intercalate body)]

/-! ### The markers of a line -/

theorem afterSpace_eq_some {line text : List Char} (h : afterSpace line = some text) :
    ∃ gap, (gap ≠ [] ∧ ∀ c ∈ gap, isSpace c = true) ∧ line = gap ++ text := by
  obtain ⟨hgap, heq⟩ := Option.ite_none_right_eq_some.mp h
  obtain rfl := Option.some.inj heq
  refine ⟨line.takeWhile isSpace, ⟨?_, fun c hc => List.mem_takeWhile_imp hc⟩,
    List.takeWhile_append_dropWhile.symm⟩
  rw [Bool.and_eq_true, Bool.not_eq_true', List.isEmpty_eq_false_iff] at hgap
  exact hgap.1

theorem heading_eq_some {line text : List Char} {level : ℕ}
    (h : heading line = some (level, text)) :
    (1 ≤ level ∧ level ≤ 6) ∧ ∃ gap, (gap ≠ [] ∧ ∀ c ∈ gap, isSpace c = true) ∧
      line = List.replicate level '#' ++ gap ++ text := by
  obtain ⟨hlevel, h⟩ := Option.ite_none_right_eq_some.mp h
  obtain ⟨text', hspace, heq⟩ := Option.map_eq_some_iff.mp h
  cases heq
  obtain ⟨gap, hgap, hrest⟩ := afterSpace_eq_some hspace
  refine ⟨hlevel, gap, hgap, ?_⟩
  have hmarks : line.takeWhile (· == '#') =
      List.replicate (line.takeWhile (· == '#')).length '#' := by
    refine List.eq_replicate_of_mem fun c hc => ?_
    exact eq_of_beq (List.mem_takeWhile_imp (p := (· == '#')) hc)
  rw [List.append_assoc, ← hrest, ← hmarks, List.takeWhile_append_dropWhile]

theorem item_eq_some {line text : List Char} (h : item line = some text) :
    ∃ c gap, (c = '-' ∨ c = '*') ∧ (gap ≠ [] ∧ ∀ c ∈ gap, isSpace c = true) ∧
      line = c :: gap ++ text := by
  cases line with
  | nil => cases h
  | cons c line =>
    obtain ⟨hc, h⟩ := Option.ite_none_right_eq_some.mp h
    obtain ⟨gap, hgap, rfl⟩ := afterSpace_eq_some h
    exact ⟨c, gap, hc, hgap, rfl⟩

theorem replicate_of_isRule {line : List Char} (h : isRule line = true) :
    ∃ c n, (c = '-' ∨ c = '*') ∧ 3 ≤ n ∧ line = List.replicate n c := by
  have hall {c : Char} (hc : line.all (· == c) = true) : line = List.replicate line.length c :=
    List.eq_replicate_of_mem fun d hd => eq_of_beq (List.all_eq_true.mp hc d hd)
  obtain ⟨hlength, hmarks⟩ := (Bool.and_eq_true _ _).mp h
  rcases (Bool.or_eq_true _ _).mp hmarks with hmarks | hmarks
  · exact ⟨'-', line.length, .inl rfl, of_decide_eq_true hlength, hall hmarks⟩
  · exact ⟨'*', line.length, .inr rfl, of_decide_eq_true hlength, hall hmarks⟩

theorem fenceOpen_eq_some {line marker : List Char} (h : fenceOpen line = some marker) :
    (marker = "```".toList ∨ marker = "~~~".toList) ∧ marker <+: line := by
  unfold fenceOpen at h
  split at h
  next hopen =>
    obtain rfl := Option.some.inj h
    exact ⟨.inl rfl, hopen⟩
  next =>
    obtain ⟨hopen, h⟩ := Option.ite_none_right_eq_some.mp h
    obtain rfl := Option.some.inj h
    exact ⟨.inr rfl, hopen⟩

/-! ### The blocks of the lines read -/

/-- What has been pushed shows blocks of the lines, and only a list may be open. -/
structure Drawn (parts : List (List (List Char) × List Element)) (r : Render) : Prop where
  renders : ∀ part ∈ parts, Renders part.1 part.2
  out : r.out = (parts.flatMap Prod.snd).map Element.html
  nested : ∀ inner, (∀ e ∈ parts.flatMap Prod.snd, ∀ text ∈ e.texts,
      Item.Nested Tag.verbatim (inner text)) →
    Item.nestAll Tag.verbatim [] ((parts.flatMap Prod.snd).flatMap (Element.items inner)) =
      some (if r.inList then [.ul] else [])

/-- Blocks of the lines are drawn. -/
def Draws (lines : List (List Char)) (r : Render) : Prop :=
  ∃ parts, Drawn parts r ∧ parts.flatMap Prod.fst = lines

namespace Draws

variable {r : Render} {lines lines' raws : List (List Char)} {e : Element}

theorem initial : Draws [] Render.initial :=
  ⟨[], ⟨nofun, rfl, fun _ _ => rfl⟩, rfl⟩

theorem congr (h : Draws lines r) {r' : Render} (hout : r'.out = r.out)
    (hinList : r'.inList = r.inList) : Draws lines r' := by
  obtain ⟨parts, ⟨hrenders, hpushed, hnested⟩, hlines⟩ := h
  exact ⟨parts, ⟨hrenders, hout.trans hpushed, hinList ▸ hnested⟩, hlines⟩

theorem blank (h : Draws lines r) {raw : List Char} (hraw : trim raw = []) :
    Draws (lines ++ [raw]) r := by
  obtain ⟨parts, ⟨hrenders, hout, hnested⟩, rfl⟩ := h
  refine ⟨parts ++ [([raw], [])], ⟨fun part hpart => ?_, ?_, ?_⟩, by simp⟩
  · rcases List.mem_append.mp hpart with hpart | hpart
    · exact hrenders part hpart
    · obtain rfl := List.mem_singleton.mp hpart
      exact .blank hraw
  · simpa using hout
  · simpa using hnested

/-- One more element. -/
theorem push (h : Draws lines r) (inList : Bool) (he : Renders raws [e])
    (hnest : ∀ inner, (∀ text ∈ e.texts, Item.Nested Tag.verbatim (inner text)) →
      Item.nestAll Tag.verbatim (if r.inList then [.ul] else []) (e.items inner) =
        some (if inList then [.ul] else [])) :
    Draws (lines ++ raws) { r.push e.html with inList := inList } := by
  obtain ⟨parts, ⟨hrenders, hout, hnested⟩, rfl⟩ := h
  refine ⟨parts ++ [(raws, [e])], ⟨fun part hpart => ?_, ?_, fun inner hinner => ?_⟩, by simp⟩
  · rcases List.mem_append.mp hpart with hpart | hpart
    · exact hrenders part hpart
    · obtain rfl := List.mem_singleton.mp hpart
      exact he
  · simp [Render.push, hout]
  · have hsnd : (parts ++ [(raws, [e])]).flatMap Prod.snd = parts.flatMap Prod.snd ++ [e] := by simp
    rw [hsnd] at hinner ⊢
    have hbefore := hnested inner fun e he => hinner e (List.mem_append_left _ he)
    have hlast := hnest inner (hinner e (List.mem_append_right _ (.head _)))
    rw [List.flatMap_append, Item.nestAll_append, hbefore, Option.bind_some,
      List.flatMap_singleton, hlast]

theorem within_ul (inList : Bool) :
    Item.Within Tag.verbatim (if inList then [Tag.ul] else []) = false := by
  cases inList <;> rfl

theorem pushBlock (h : Draws lines r) (he : Renders raws [e]) (hblock : e.IsBlock) :
    Draws (lines ++ raws) (r.push e.html) :=
  h.push r.inList he fun _ hinner => Element.nestAll_items hblock hinner (within_ul _)

theorem closeList (h : Draws lines r) : Draws lines r.closeList := by
  unfold Render.closeList
  split
  next hopen =>
    have hpush := h.push false .listCloses fun inner _ => by
      rw [hopen]
      rfl
    rwa [List.append_nil] at hpush
  next => exact h

theorem openList (h : Draws lines r) :
    Draws lines (if r.inList then r else { r.push "<ul>".toList with inList := true }) := by
  split
  next => exact h
  next hclosed =>
    have hpush := h.push true .listOpens fun inner _ => by
      rw [Bool.not_eq_true] at hclosed
      rw [hclosed]
      rfl
    rwa [List.append_nil] at hpush

/-- The paragraph's lines are shown. -/
theorem flushPara (h : Draws lines r) (hraws : raws.map trim = r.para)
    (hne : ∀ raw ∈ raws, trim raw ≠ []) : Draws (lines ++ raws) r.flushPara := by
  unfold Render.flushPara
  split
  next hpara =>
    have hshows := shows_inlineTokens ([' '].intercalate (raws.map trim))
    have hraws' : raws ≠ [] := by
      rintro rfl
      exact hpara hraws.symm
    have hpush := h.pushBlock (.para hraws' hne hshows) trivial
    rw [Element.html_para, ← hshows.html, hraws] at hpush
    exact hpush.congr rfl rfl
  next hpara =>
    have hnil : raws = [] := List.map_eq_nil_iff.mp (hraws.trans (not_not.mp hpara))
    rwa [hnil, List.append_nil]

end Draws

namespace Render

variable (r : Render)

@[simp] theorem flushPara_para : r.flushPara.para = [] := by
  unfold flushPara
  split
  next => rfl
  next h => exact not_not.mp h

@[simp] theorem flushPara_fence : r.flushPara.fence = r.fence := by
  unfold flushPara
  split <;> rfl

@[simp] theorem flushPara_fenceLines : r.flushPara.fenceLines = r.fenceLines := by
  unfold flushPara
  split <;> rfl

@[simp] theorem closeList_para : r.closeList.para = r.para := by
  unfold closeList
  split <;> rfl

@[simp] theorem closeList_fence : r.closeList.fence = r.fence := by
  unfold closeList
  split <;> rfl

@[simp] theorem closeList_fenceLines : r.closeList.fenceLines = r.fenceLines := by
  unfold closeList
  split <;> rfl

@[simp] theorem closeList_inList : r.closeList.inList = false := by
  unfold closeList
  split
  next => rfl
  next h => simpa using h

end Render

/-- The lines that are read and not pushed yet. -/
inductive Pending : List (List Char) → Render → Prop where
  | para {raws : List (List Char)} {r : Render} (hfence : r.fence = none)
      (hlines : r.fenceLines = []) (hraws : raws.map trim = r.para)
      (hne : ∀ raw ∈ raws, trim raw ≠ []) : Pending raws r
  | fence {opening marker : List Char} {body : List (List Char)} {r : Render}
      (hfence : r.fence = some marker) (hlines : r.fenceLines = body) (hpara : r.para = [])
      (hmarker : marker = "```".toList ∨ marker = "~~~".toList)
      (hopening : marker <+: trim opening) (hbody : ∀ raw ∈ body, trim raw ≠ marker) :
      Pending (opening :: body) r

/-- The lines are drawn up to the last paragraph or fence. -/
def Reads (lines : List (List Char)) (r : Render) : Prop :=
  ∃ drawn raws, Draws drawn r ∧ Pending raws r ∧ drawn ++ raws = lines

variable {r : Render} {lines : List (List Char)}

theorem Draws.reads (h : Draws lines r) (hfence : r.fence = none) (hlines : r.fenceLines = [])
    (hpara : r.para = []) : Reads lines r :=
  ⟨lines, [], h, .para hfence hlines hpara.symm nofun, List.append_nil _⟩

/-- The fence's text is shown. -/
theorem Draws.flushFence (h : Draws lines r) {opening marker : List Char}
    {closing : Option (List Char)} (hmarker : marker = "```".toList ∨ marker = "~~~".toList)
    (hopening : marker <+: trim opening) (hbody : ∀ raw ∈ r.fenceLines, trim raw ≠ marker)
    (hclosing : ∀ raw ∈ closing, trim raw = marker) :
    Draws (lines ++ (opening :: r.fenceLines ++ closing.toList)) r.flushFence := by
  have hpush := h.pushBlock (.fence hmarker hopening hbody hclosing) trivial
  rw [Element.html_pre, ← escapeHtml_eq] at hpush
  exact hpush.congr rfl rfl

theorem Reads.line (h : Reads lines r) (raw : List Char) : Reads (lines ++ [raw]) (r.line raw) := by
  obtain ⟨drawn, raws, hdrawn, hpending, rfl⟩ := h
  unfold Render.line
  cases hpending with
  | fence hfence hlines hpara hmarker hopening hbody =>
    rename_i opening marker body
    subst hlines
    rw [hfence]
    dsimp only
    split
    next hclose =>
      have hclosing : ∀ line ∈ some raw, trim line = marker := by simp [hclose]
      have hdraws := hdrawn.flushFence hmarker hopening hbody hclosing
      rw [List.append_assoc]
      exact hdraws.reads rfl rfl hpara
    next hbodyLine =>
      refine ⟨drawn, opening :: (r.fenceLines ++ [raw]), hdrawn.congr rfl rfl,
        .fence rfl rfl hpara hmarker hopening fun line hline => ?_, by simp⟩
      rcases List.mem_append.mp hline with hline | hline
      · exact hbody line hline
      · obtain rfl := List.mem_singleton.mp hline
        exact hbodyLine
  | para hfence hlines hraws hne =>
    have hflushed := (hdrawn.flushPara hraws hne).closeList
    rw [hfence]
    dsimp only
    split
    next marker hopen =>
      obtain ⟨hmarker, hopening⟩ := fenceOpen_eq_some hopen
      exact ⟨drawn ++ raws, [raw], hflushed.congr rfl rfl,
        .fence rfl (by simp [hlines]) (by simp) hmarker hopening nofun, rfl⟩
    next =>
    split
    next level text hheading =>
      obtain ⟨hlevel, gap, hgap, htext⟩ := heading_eq_some hheading
      have hshows := shows_inlineTokens text
      have hpush := hflushed.pushBlock (.heading hlevel hgap htext hshows) trivial
      rw [Element.html_heading, ← hshows.html] at hpush
      exact hpush.reads (by simp [Render.push, hfence]) (by simp [Render.push, hlines])
        (by simp [Render.push])
    next =>
    split
    next hrule =>
      obtain ⟨c, n, hc, hn, htext⟩ := replicate_of_isRule hrule
      exact (hflushed.pushBlock (.rule hc hn htext) trivial).reads (by simp [Render.push, hfence])
        (by simp [Render.push, hlines]) (by simp [Render.push])
    next =>
    split
    next text hitem =>
      obtain ⟨c, gap, hc, hgap, htext⟩ := item_eq_some hitem
      have hshows := shows_inlineTokens text
      have hopened := (hdrawn.flushPara hraws hne).openList
      have hpush := hopened.pushBlock (.item hc hgap htext hshows) trivial
      rw [Element.html_item, ← hshows.html] at hpush
      refine hpush.reads ?_ ?_ ?_ <;> split <;> simp [Render.push, hfence, hlines]
    next =>
    split
    next hblank =>
      exact (hflushed.blank hblank).reads (by simp [hfence]) (by simp [hlines]) (by simp)
    next hline =>
      refine ⟨drawn, raws ++ [raw], hdrawn.congr rfl rfl, .para rfl hlines ?_ ?_, by simp⟩
      · simp [hraws]
      · intro line hmem
        rcases List.mem_append.mp hmem with hmem | hmem
        · exact hne line hmem
        · obtain rfl := List.mem_singleton.mp hmem
          exact hline

theorem Reads.foldl (h : Reads lines r) (rest : List (List Char)) :
    Reads (lines ++ rest) (rest.foldl Render.line r) := by
  induction rest generalizing lines r with
  | nil => rwa [List.append_nil]
  | cons raw rest ih =>
    have hrest := ih (h.line raw)
    rwa [List.append_assoc] at hrest

/-- The last paragraph, fence and list are closed. -/
theorem Reads.finish (h : Reads lines r) : Draws lines r.finish := by
  obtain ⟨drawn, raws, hdrawn, hpending, rfl⟩ := h
  unfold Render.finish
  cases hpending with
  | para hfence hlines hraws hne =>
    rw [hfence]
    exact (hdrawn.flushPara hraws hne).closeList
  | fence hfence hlines hpara hmarker hopening hbody =>
    rename_i opening marker body
    subst hlines
    rw [hfence]
    have hopen : ∀ raw ∈ (none : Option (List Char)), trim raw = marker := nofun
    have hflushed := hdrawn.flushFence hmarker hopening hbody hopen
    rw [Option.toList_none, List.append_nil] at hflushed
    have hrest : ([] : List (List Char)).map trim = r.flushFence.para := hpara.symm
    have hclosed := (hflushed.flushPara hrest nofun).closeList
    rwa [List.append_nil] at hclosed

theorem reads_initial : Reads [] Render.initial :=
  Draws.initial.reads rfl rfl rfl

theorem Renders.shows {elements : List Element} (h : Renders lines elements) :
    ∀ e ∈ elements, ∀ toks ∈ e.texts, Shows (toks.flatMap Token.chars) toks := by
  intro e he toks htoks
  cases h with
  | blank => exact absurd he List.not_mem_nil
  | listOpens | listCloses | rule | fence =>
    obtain rfl := List.mem_singleton.mp he
    exact absurd htoks List.not_mem_nil
  | heading _ _ _ hshows | item _ _ _ hshows | para _ _ hshows =>
    obtain rfl := List.mem_singleton.mp he
    obtain rfl := List.mem_singleton.mp htoks
    exact hshows.chars.symm ▸ hshows

example : Uncrossed "**a `b*` c** [`d`](e) <https://f>".toList := by decide +kernel

end MarkdownLite

end PocketStream
