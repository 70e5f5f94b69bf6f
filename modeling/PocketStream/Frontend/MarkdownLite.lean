import PocketStream.Foundation.Pattern

/-! # The Markdown of the license documents

A text is the list of its characters. A document is read line by line into headings,
rules, list items, fenced texts and paragraphs, and four replacements restyle the
escaped text of a heading, an item or a paragraph.
-/

namespace PocketStream

open Foundation

namespace MarkdownLite

/-- `\s`, and what `trim` strips. -/
def isSpace (c : Char) : Bool :=
  let n := c.toNat
  9 ≤ n && n ≤ 13 || n == 0x20 || n == 0xa0 || n == 0x1680 || 0x2000 ≤ n && n ≤ 0x200a ||
    n == 0x2028 || n == 0x2029 || n == 0x202f || n == 0x205f || n == 0x3000 || n == 0xfeff

/-- What `.` does not match. -/
def isLineTerminator (c : Char) : Bool :=
  c == '\n' || c == '\r' || c.toNat == 0x2028 || c.toNat == 0x2029

def trim (line : List Char) : List Char :=
  ((line.dropWhile isSpace).reverse.dropWhile isSpace).reverse

/-- `src.split(/\r?\n/)` -/
def splitLines : List Char → List (List Char)
  | [] => [[]]
  | '\r' :: '\n' :: src => [] :: splitLines src
  | '\n' :: src => [] :: splitLines src
  | c :: src =>
    match splitLines src with
    | [] => [[c]]
    | line :: lines => (c :: line) :: lines

def replaceChar (c : Char) (sub : String) (text : List Char) : List Char :=
  text.flatMap fun d => if d = c then sub.toList else [d]

def escapeHtml (text : List Char) : List Char :=
  replaceChar '\'' "&#039;" <| replaceChar '"' "&quot;" <| replaceChar '>' "&gt;" <|
    replaceChar '<' "&lt;" <| replaceChar '&' "&amp;" text

/-! ### Inline text -/

def lit (s : String) : PatternPart Char := .word (literal s.toList)

/-- ``/`([^`]+)`/g`` -/
def codePattern : Pattern Char where
  before := [lit "`"]
  group := [.run (· != '`')]
  after := [lit "`"]

/-- `/\*\*([^*]+)\*\*/g` -/
def strongPattern : Pattern Char where
  before := [lit "**"]
  group := [.run (· != '*')]
  after := [lit "**"]

/-- `/&lt;(https?:\/\/[^\s&]+)&gt;/g` -/
def autolinkPattern : Pattern Char where
  before := [lit "&lt;"]
  group := [lit "http", .optional (fun c => decide (c = 's')), lit "://",
    .run fun c => !isSpace c && c != '&']
  after := [lit "&gt;"]

/-- `/\[([^\]]+)\]\(([^)\s]+)\)/g` -/
def linkPattern : Pattern Char where
  before := [lit "["]
  group := [.run (· != ']')]
  after := [lit "](", .run (fun c => c != ')' && !isSpace c), lit ")"]

/-- The group between two tags. -/
def styled (opening closing : String) (m : Match Char) : List Char :=
  opening.toList ++ m.inner ++ closing.toList

def replaceAll (P : Pattern Char) (sub : Match Char → List Char) (text : List Char) : List Char :=
  P.replace (fun c => [c]) sub text

def inline (escaped : List Char) : List Char :=
  replaceAll linkPattern (styled "<span class=\"md-link\">" "</span>") <|
    replaceAll autolinkPattern (styled "<span class=\"md-link\">" "</span>") <|
      replaceAll strongPattern (styled "<strong>" "</strong>") <|
        replaceAll codePattern (styled "<code>" "</code>") escaped

/-! ### Lines -/

/-- `/^(```|~~~)/` -/
def fenceOpen (line : List Char) : Option (List Char) :=
  if "```".toList <+: line then some "```".toList
  else if "~~~".toList <+: line then some "~~~".toList
  else none

/-- `\s+(.*)$` -/
def afterSpace (text : List Char) : Option (List Char) :=
  if !(text.takeWhile isSpace).isEmpty && !(text.dropWhile isSpace).any isLineTerminator then
    some (text.dropWhile isSpace)
  else none

/-- `/^(#{1,6})\s+(.*)$/` -/
def heading (line : List Char) : Option (ℕ × List Char) :=
  let level := (line.takeWhile (· == '#')).length
  if 1 ≤ level ∧ level ≤ 6 then
    (afterSpace (line.dropWhile (· == '#'))).map fun text => (level, text)
  else none

/-- `/^(-{3,}|\*{3,})$/` -/
def isRule (line : List Char) : Bool :=
  3 ≤ line.length && (line.all (· == '-') || line.all (· == '*'))

/-- `/^[-*]\s+(.*)$/` -/
def item : List Char → Option (List Char)
  | [] => none
  | c :: line => if c = '-' ∨ c = '*' then afterSpace line else none

/-- The variables of `renderMarkdownLite`. -/
structure Render where
  out : List (List Char)
  para : List (List Char)
  inList : Bool
  fence : Option (List Char)
  fenceLines : List (List Char)

namespace Render

variable (r : Render)

def initial : Render where
  out := []
  para := []
  inList := false
  fence := none
  fenceLines := []

def push (element : List Char) : Render := { r with out := r.out ++ [element] }

def flushPara : Render :=
  if r.para ≠ [] then
    { r.push ("<p>".toList ++ inline (escapeHtml ([' '].intercalate r.para)) ++ "</p>".toList) with
      para := [] }
  else r

def closeList : Render :=
  if r.inList then { r.push "</ul>".toList with inList := false } else r

def flushFence : Render :=
  { r.push ("<pre>".toList ++ escapeHtml (['\n'].intercalate r.fenceLines) ++ "</pre>".toList) with
    fence := none
    fenceLines := [] }

/-- The loop's body. -/
def line (raw : List Char) : Render :=
  match r.fence with
  | some fence =>
    if trim raw = fence then r.flushFence else { r with fenceLines := r.fenceLines ++ [raw] }
  | none =>
    let line := trim raw
    match fenceOpen line with
    | some fence => { r.flushPara.closeList with fence := some fence }
    | none =>
      match heading line with
      | some (level, text) =>
        r.flushPara.closeList.push ("<h".toList ++ Nat.toDigits 10 level ++ ">".toList ++
          inline (escapeHtml text) ++ "</h".toList ++ Nat.toDigits 10 level ++ ">".toList)
      | none =>
        if isRule line then r.flushPara.closeList.push "<hr>".toList
        else
          match item line with
          | some text =>
            let r := r.flushPara
            let r := if r.inList then r else { r.push "<ul>".toList with inList := true }
            r.push ("<li>".toList ++ inline (escapeHtml text) ++ "</li>".toList)
          | none =>
            if line = [] then r.flushPara.closeList else { r with para := r.para ++ [line] }

/-- What follows the loop. -/
def finish : Render :=
  (if r.fence.isSome then r.flushFence else r).flushPara.closeList

end Render

def renderMarkdownLite (src : List Char) : List Char :=
  ['\n'].intercalate ((splitLines src).foldl Render.line Render.initial).finish.out

end MarkdownLite

end PocketStream
