import Mosaic.Text.Cluster

/-!
# Styled lines and their wrapping

A line on a terminal is a row of spans, each written with one pen. Spans are kept apart even where
neighbours have the same pen, because each is written with its own escape sequences. `Line.respan`
gives a changed text the pens of the text it came from.

A text that is wider than its column is broken into lines. Breaks come between words; a word wider
than the column is folded over several lines, or cut and marked with an ellipsis. A word takes the
blanks after it along, and those that reach past the column are dropped. `breakText` breaks a plain
text, `wrap` a line of spans, and `Justify.fit` sets a line in its column.
-/

namespace Mosaic.Terminal

/-! ## Spans -/

/-- A foreground colour. -/
inductive Ink
  | red
  | green
  | cyan
  | white
  deriving DecidableEq, Repr

/-- The number that selects a foreground colour. -/
def Ink.code : Ink → String
  | red => "31"
  | green => "32"
  | cyan => "36"
  | white => "37"

/-- How text is written. -/
structure Pen where
  bold : Bool := false
  dim : Bool := false
  italic : Bool := false
  ink : Option Ink := none
  deriving DecidableEq, Repr

namespace Pen

/-- The pen that writes text as it is. -/
def plain : Pen := {}

/-- Both pens at once; the second one's ink covers the first one's. -/
def overlay (under top : Pen) : Pen where
  bold := under.bold || top.bold
  dim := under.dim || top.dim
  italic := under.italic || top.italic
  ink := top.ink.or under.ink

/-- The numbers that select the pen. -/
def codes (p : Pen) : List String :=
  (if p.bold then ["1"] else []) ++ (if p.dim then ["2"] else []) ++
    (if p.italic then ["3"] else []) ++ (p.ink.map Ink.code).toList

end Pen

/-- A text written with one pen. -/
structure Span where
  pen : Pen
  text : List Char
  deriving DecidableEq, Repr

/-- Text as it is. -/
def Span.plain (text : List Char) : Span := ⟨.plain, text⟩

/-- Spaces. -/
def Span.blank (pen : Pen) (n : Nat) : Span := ⟨pen, List.replicate n ' '⟩

/-- A row of spans. -/
abbrev Line := List Span

namespace Line

/-- The text of a line. -/
def text (l : Line) : List Char := l.flatMap Span.text

/-- The cells that a line takes: its spans are counted one by one, as they are written. -/
def width : Line → Nat
  | [] => 0
  | s :: l => Text.width s.text + width l

/-- The spans of the first `n` characters, and the spans of the others. -/
def splitAt (n : Nat) : Line → Line × Line
  | [] => ([], [])
  | ⟨pen, s⟩ :: l =>
    if n = 0 then ([], ⟨pen, s⟩ :: l)
    else if n < s.length then ([⟨pen, s.take n⟩], ⟨pen, s.drop n⟩ :: l)
    else
      let (front, rest) := splitAt (n - s.length) l
      (⟨pen, s⟩ :: front, rest)

/-- Write `s` with the pens of the line, place by place; what is longer has the plain pen. -/
def respan (s : List Char) : Line → Line
  | [] => if s.isEmpty then [] else [.plain s]
  | ⟨pen, t⟩ :: l =>
    if s.isEmpty then [] else ⟨pen, s.take t.length⟩ :: respan (s.drop t.length) l

/-- The line filled up to `n` cells with plain spaces. -/
def padTo (n : Nat) (l : Line) : Line :=
  if l.width < n then l ++ [.blank .plain (n - l.width)] else l

/-- The spans at the front that take `n` cells, the last of them cut. -/
def keep (n : Nat) : Line → Line
  | [] => []
  | s :: l =>
    let w := Text.width s.text
    if w < n then s :: keep (n - w) l else [{ s with text := Text.fitWidth n s.text }]

/-- The part of a line that fits `n` cells; a cluster that is cut leaves a space. -/
def crop (n : Nat) (l : Line) : Line := if n < l.width then l.keep n else l

end Line

/-! ## Writing -/

/-- The escape sequence that selects the pen with these numbers. -/
def selectPen (codes : List String) : String := "\x1b[" ++ ";".intercalate codes ++ "m"

/-- A span as it is sent to a terminal, with escapes for its pen or without. -/
def Span.write (escapes : Bool) (s : Span) : String :=
  let codes := s.pen.codes
  if !escapes || codes.isEmpty || s.text.isEmpty then String.ofList s.text
  else selectPen codes ++ String.ofList s.text ++ selectPen ["0"]

/-- A terminal: its columns, and whether it is sent escapes. -/
structure Screen where
  columns : Nat
  escapes : Bool
  deriving DecidableEq, Repr

/-- Lines as they are sent to a terminal, none longer than it is wide. -/
def Screen.write (s : Screen) (lines : List Line) : String :=
  String.join <| lines.map fun l => String.join ((l.crop s.columns).map (·.write s.escapes)) ++ "\n"

/-! ## Breaking -/

/-- What becomes of a word that is wider than its column. -/
inductive Overflow
  /-- It goes on in the next line. -/
  | fold
  /-- It is cut, and an ellipsis stands for the rest. -/
  | ellipsis
  deriving DecidableEq, Repr

/-! ## Words -/

/-- The words of a text with the blanks after them; the first has the blanks before it as well. A
text of blanks has no words. -/
def spacedWords (s : List Char) : List (List Char) :=
  (go (s.dropWhile Text.isBlank)).modifyHead (s.takeWhile Text.isBlank ++ ·)
where
  /-- The words of a text that starts with none of its blanks: a word starts where another character
  follows a blank, or at the front. -/
  go : List Char → List (List Char)
    | [] => []
    | [c] => [[c]]
    | c :: d :: s =>
      match go (d :: s) with
      | w :: ws => if Text.isBlank c && !Text.isBlank d then [c] :: w :: ws else (c :: w) :: ws
      | [] => [[c]]

/-- Put clusters into pieces of at most `n` cells, each as long as fits; `used` cells are taken. -/
def chop (n : Nat) (used : Nat) : List Text.Cluster → List (List Char)
  | [] => [[]]
  | g :: gs =>
    if n < used + g.width then
      match chop n g.width gs with
      | p :: ps => [] :: (g.text ++ p) :: ps
      | [] => [[], g.text]
    else
      match chop n (used + g.width) gs with
      | p :: ps => (g.text ++ p) :: ps
      | [] => [g.text]

/-! ## Breaking -/

/-- Breaking under way: the cells used on the current line, and the finished lines and the current
one, last line first, which is empty only before the first word. -/
structure Broken where
  used : Nat := 0
  current : List Char := []
  finished : List (List Char) := []

namespace Broken

/-- End the current line, if anything was put on it. -/
def endLine (b : Broken) : Broken :=
  if b.current.isEmpty then b else { used := 0, finished := b.current :: b.finished }

/-- Put a piece on a line of its own that stays open. -/
def startLine (b : Broken) (piece : List Char) : Broken :=
  { b with used := Text.width piece, current := piece }

/-- Put the pieces of a folded word on lines of their own; the last stays open. -/
def fold (b : Broken) : List (List Char) → Broken
  | [] => b
  | [p] => b.startLine p
  | p :: ps =>
    -- An empty piece ends a line only where one has been begun.
    if p.isEmpty && b.finished.isEmpty then b.fold ps
    else { b with finished := p :: b.finished }.fold ps

/-- Put the next word, with its blanks, on the current line if it fits, or on the next. -/
def add (columns : Nat) (overflow : Overflow) (b : Broken) (word : List Char) : Broken :=
  let needed := Text.width (Text.trimEnd word)
  if b.used + needed ≤ columns then
    { b with used := b.used + Text.width word, current := b.current ++ word }
  else if columns < needed && overflow = .fold then
    b.endLine.fold (chop columns 0 (Text.clusters word))
  else b.endLine.startLine word

/-- The lines, first line first. -/
def lines (b : Broken) : List (List Char) := (b.current :: b.finished).reverse

end Broken

/-- Break a text without line feeds into lines; put together they are the text. -/
def breakText (columns : Nat) (overflow : Overflow) (s : List Char) : List (List Char) :=
  match spacedWords s with
  | [] => [s]
  | words => (words.foldl (Broken.add columns overflow) {}).lines

/-- Drop blanks at the end as far as the line has more characters than the column has cells. -/
def dropExcessBlanks (columns : Nat) (s : List Char) : List Char :=
  let blanks := s.length - (Text.trimEnd s).length
  s.take (s.length - min blanks (s.length - columns))

/-- Cut what is wider than the column. -/
def truncate (columns : Nat) (overflow : Overflow) (s : List Char) : List Char :=
  if Text.width s ≤ columns then s
  else
    match overflow with
    | .fold => Text.fitWidth columns s
    | .ellipsis => Text.fitWidth (columns - 1) s ++ ['…']

/-! ## Setting lines in a column -/

/-- Where a line stands in its column. -/
inductive Justify
  | left
  | center
  | right
  deriving DecidableEq, Repr

/-- Fill a line up to the width of its column. -/
def Justify.fit (j : Justify) (columns : Nat) (overflow : Overflow) (s : List Char) : List Char :=
  let pad := fun (n : Nat) => List.replicate n ' '
  match j with
  | .left =>
    let s := truncate columns overflow s
    s ++ pad (columns - Text.width s)
  | .right =>
    let s := truncate columns overflow (Text.trimEnd s)
    pad (columns - Text.width s) ++ s
  | .center =>
    let s := truncate columns overflow (Text.trimEnd s)
    let free := columns - Text.width s
    pad (free / 2) ++ s ++ pad (free - free / 2)

/-- Break a text and set every line in the column. -/
def setText (j : Justify) (columns : Nat) (overflow : Overflow) (s : List Char) :
    List (List Char) :=
  (breakText columns overflow s).map fun l => j.fit columns overflow (dropExcessBlanks columns l)

/-! ## Lines of spans -/

/-- Control characters that are not sent to a terminal. -/
def isDropped (c : Char) : Bool := c ∈ ['\x07', '\x08', '\x0b', '\x0c', '\r']

/-- The cells between tabulator stops. -/
def tabSize : Nat := 8

/-- The spaces that each tab of a text becomes: one, and more up to the next stop. `used` cells are
taken before the text. -/
def tabSpaces (used : Nat) : List (List Char) → List Nat
  | [] | [_] => []
  | part :: parts =>
    let reached := used + Text.width (part ++ [' '])
    let stop := (reached + tabSize - 1) / tabSize * tabSize
    (1 + (stop - reached)) :: tabSpaces stop parts

/-- Replace the tabs of a line by as many spaces as are given for each, and end a span after each.
-/
def replaceTabs : List Nat → Line → Line
  | _, [] => []
  | counts, ⟨pen, s⟩ :: l =>
    let (counts, parts) := go counts s
    (parts.filter fun p => !p.isEmpty).map (fun p => ⟨pen, p⟩) ++ replaceTabs counts l
where
  /-- Cut a text after its tabs and replace them. -/
  go : List Nat → List Char → List Nat × List (List Char)
    | counts, [] => (counts, [[]])
    | n :: counts, '\t' :: s =>
      let (counts, parts) := go counts s
      (counts, List.replicate n ' ' :: parts)
    | counts, c :: s =>
      match go counts s with
      | (counts, p :: parts) => (counts, (c :: p) :: parts)
      | (counts, []) => (counts, [[c]])

/-- Replace tabs by spaces up to the next stop. -/
def expandTabs (l : Line) : Line := replaceTabs (tabSpaces 0 (l.text.splitOnP (· = '\t'))) l

/-- Cut a line of spans at its line feeds, which are dropped. -/
def splitLines : Line → List Line
  | [] => [[]]
  | ⟨pen, s⟩ :: l =>
    let parts := (s.splitOnP (· = '\n')).map fun t => (⟨pen, t⟩ : Span)
    match parts.reverse, splitLines l with
    | last :: before, first :: rest =>
      before.reverse.map (fun p => [p]) ++ (last :: first) :: rest
    | _, ls => ls

/-- Cut a line of spans into consecutive lines with these texts' lengths. -/
def splitLengths : List Nat → Line → List Line
  | [], _ => []
  | n :: ns, l =>
    let (front, rest) := l.splitAt n
    front :: splitLengths ns rest

/-- Wrap spans to a column, folding words that are wider. -/
def wrap (columns : Nat) (l : Line) : List Line :=
  let l := l.map fun s => { s with text := s.text.filter fun c => !isDropped c }
  if columns = 0 then []
  else
    (splitLines l).flatMap fun l =>
      let l := if l.text.contains '\t' then expandTabs l else l
      let pieces := breakText columns .fold l.text
      (splitLengths (pieces.map List.length) l).map fun p =>
        (p.respan (truncate columns .fold (dropExcessBlanks columns p.text))).filter
          fun s => !s.text.isEmpty

end Mosaic.Terminal
