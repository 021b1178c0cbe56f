import Mosaic.Double
import Mosaic.Terminal.Wrap

/-!
# Panels and tables

A panel is a box with rounded corners, as wide as the terminal, with a title in its upper edge and
lines of content inside.

A table sets texts in columns. A column is as wide as its widest cell and a blank on either side;
when the columns together are too wide, the widest are narrowed first, and cells that no longer fit
are wrapped or cut. `columnWidths` decides the widths, `cellLines` sets a cell, and a table is drawn
in a box with a heading (`boxed`) or without either (`bare`).
-/

namespace Mosaic.Terminal

/-! ## Panels -/

/-- How a panel looks. -/
structure Panel where
  /-- The pen of the box. -/
  border : Pen
  title : List Char
  /-- The pen of the title, over that of the box. -/
  titlePen : Pen
  /-- Blank columns inside the box, at the left and at the right. -/
  margin : Nat

namespace Panel

/-- The columns for content in a panel of this many columns. -/
def contentColumns (p : Panel) (columns : Nat) : Nat := columns - 2 - 2 * p.margin

/-- The title between two spaces. Controls are dropped and line feeds become spaces. -/
def heading (p : Panel) : Line :=
  let pen := p.border.overlay p.titlePen
  let title := (p.title.filter fun c => !isDropped c).map fun c => if c = '\n' then ' ' else c
  .blank p.border 1 :: (expandTabs [⟨pen, title⟩] ++ [.blank p.border 1])

/-- A stretch of an edge. -/
def edge (n : Nat) : List Char := List.replicate n '─'

/-- The upper edge; a title needs room. A title that leaves no room for strokes beside it loses
blanks at its end, as a wrapped line does. -/
def top (p : Panel) (columns : Nat) : Line :=
  let stroke := fun (s : List Char) => (⟨p.border, s⟩ : Span)
  if columns ≤ 4 then [stroke ('╭' :: edge (columns - 2) ++ ['╮'])]
  else
    let room := columns - 4
    let title := truncate room .fold p.heading.text
    let free := room - Text.width title
    let title := if free = 0 then dropExcessBlanks room title else title
    [stroke ['╭', '─'], stroke (edge (free / 2))] ++ p.heading.respan title ++
      [stroke (edge (free - free / 2)), stroke ['─', '╮']]

/-- The lower edge. -/
def bottom (p : Panel) (columns : Nat) : Line :=
  [⟨p.border, '╰' :: edge (columns - 2) ++ ['╯']⟩]

/-- The lines of a panel with this content, which has lines of at most `contentColumns` cells. -/
def lines (p : Panel) (columns : Nat) (content : List Line) : List Line :=
  let side : Span := ⟨p.border, ['│']⟩
  let margin := Span.blank .plain p.margin
  let row := fun (l : Line) =>
    side :: margin :: l.padTo (p.contentColumns columns) ++ [margin, side]
  p.top columns :: content.map row ++ [p.bottom columns]

end Panel

/-! ## Tables -/

/-- A text in a table, with a pen of its own over that of its column. -/
structure Cell where
  text : List Char
  pen : Pen := .plain

/-- A column of a table. -/
structure Column where
  header : List Char := []
  pen : Pen := .plain
  justify : Justify := .left
  /-- The width of the text where it is fixed. -/
  fixed : Option Nat := none

/-- The blanks beside the text of a cell, both sides together. -/
def cellPadding : Nat := 2

/-! ## Widths -/

/-- The cells that columns of these widths take together. -/
def totalWidth (widths : List Nat) : Nat := widths.foldl (· + ·) 0

/-- Take `total` off the chosen widths in equal shares, from each no more than its limit. A choice
is a width, whether it is chosen, and its limit. -/
def reduceEvenly (total : Nat) (choices : List (Nat × Bool × Nat)) : List Nat :=
  let choices := choices.map fun (w, chosen, limit) => (w, chosen && limit ≠ 0, limit)
  go total (choices.countP (·.2.1)) choices
where
  /-- Take what is left off the widths that are left. -/
  go (left shares : Nat) : List (Nat × Bool × Nat) → List Nat
    | [] => []
    | (w, chosen, limit) :: rest =>
      if chosen && shares ≠ 0 then
        let taken := min limit (roundHalfEven left shares)
        (w - taken) :: go (left - taken) (shares - 1) rest
      else w :: go left shares rest

/-- Narrow the widest of the flexible widths to the next widest, again and again, until all together
fit. A width comes with whether it is flexible. -/
def collapse (columns : Nat) : (fuel : Nat) → List (Nat × Bool) → List Nat
  | 0, widths => widths.map (·.1)
  | fuel + 1, widths =>
    let excess := totalWidth (widths.map (·.1)) - columns
    let flexible := (widths.filter (·.2)).map (·.1)
    let widest := flexible.foldl max 0
    let next := (flexible.filter (· ≠ widest)).foldl max 0
    if excess = 0 || flexible.isEmpty || widest = next then widths.map (·.1)
    else
      let limit := min excess (widest - next)
      let reduced := reduceEvenly excess
        (widths.map fun (w, isFlexible) => (w, isFlexible && w = widest, limit))
      collapse columns fuel (reduced.zip (widths.map (·.2)))

namespace Column

/-- The width that a column with these cells takes when there is room for `room` cells. -/
def natural (c : Column) (room : Nat) (cells : List (List Char)) : Nat :=
  match c.fixed with
  | some w => min (w + cellPadding) room
  | none => (cells.map fun s => min (Text.width s + cellPadding) room).foldl max 0

end Column

/-- Widths of the columns, each given with its cells, when all together may take `room` cells. -/
def columnWidths (room : Nat) (columns : List (Column × List (List Char))) : List Nat :=
  let natural := columns.map fun (c, cells) => max 1 (c.natural room cells)
  if totalWidth natural ≤ room then natural
  else
    let narrowed := collapse room (totalWidth natural + 1)
      (natural.zip (columns.map fun (c, _) => c.fixed.isNone))
    let excess := totalWidth narrowed - room
    let narrowed :=
      if excess = 0 then narrowed else reduceEvenly excess (narrowed.map fun w => (w, true, w))
    (narrowed.zip columns).map fun (w, c, cells) => c.natural w cells

/-! ## Cells -/

/-- The lines of a cell in a column of `width` cells, written with the column's pen. -/
def cellLines (width : Nat) (justify : Justify) (pen : Pen) (cell : Cell) : List Line :=
  let room := width - cellPadding
  if room = 0 then []
  else
    (setText justify room .ellipsis cell.text).map fun s =>
      [.blank pen 1, ⟨pen.overlay cell.pen, s⟩, .blank pen 1]

/-- A cell of a row: its width, the pen of its blanks, and its lines. -/
structure SetCell where
  width : Nat
  pen : Pen
  lines : List Line

/-- The lines of a row of cells, with `left`, `divider` and `right` around them. Cells with fewer
lines are filled with blank ones, above the text in a heading and below it elsewhere. A row in which
no cell has a line is one blank line. -/
def rowLines (heading : Bool) (left divider right : Line) (cells : List SetCell) : List Line :=
  let height := (cells.map (·.lines.length)).foldl max 0
  let full := cells.map fun c =>
    if height = 0 then [([.blank .plain c.width] : Line)]
    else
      let missing := List.replicate (height - c.lines.length) ([.blank c.pen c.width] : Line)
      if heading then missing ++ c.lines else c.lines ++ missing
  (List.range (max 1 height)).map fun i =>
    left ++ List.intercalate divider (full.map fun ls => ls[i]?.getD []) ++ right

/-- The cells of a row in their columns. -/
def setRow (widths : List Nat) (columns : List Column) (row : List Cell) : List SetCell :=
  (widths.zip (columns.zip row)).map fun (w, c, cell) =>
    ⟨w, c.pen, cellLines w c.justify c.pen cell⟩

/-- The texts in each column of these rows. -/
def columnTexts (columns : List Column) (rows : List (List Cell)) :
    List (Column × List (List Char)) :=
  columns.mapIdx fun i c => (c, rows.filterMap fun row => row[i]?.map (·.text))

/-! ## Drawing -/

/-- The rows without box or heading. -/
def bare (room : Nat) (columns : List Column) (rows : List (List Cell)) : List Line :=
  let widths := columnWidths room (columnTexts columns rows)
  rows.flatMap fun row => rowLines false [] [] [] (setRow widths columns row)

/-- A horizontal stroke of a box: its ends, the crossings, and what runs between. -/
def ruleLine (pen : Pen) (left line crossing right : Char) (widths : List Nat) : Line :=
  let strokes := widths.map fun w => List.replicate w line
  [⟨pen, left :: List.intercalate [crossing] strokes ++ [right]⟩]

/-- The rows in a box under a title and a heading. The strokes around the heading are heavy. -/
def boxed (room : Nat) (title : List Char) (border : Pen) (columns : List Column)
    (rows : List (List Cell)) : List Line :=
  let headings := columns.map fun c => (⟨c.header, .plain⟩ : Cell)
  let headed := columns.map fun c => { c with pen := { bold := true } }
  let frame := columns.length + 1
  let widths := columnWidths (room - frame) (columnTexts columns (headings :: rows))
  let total := totalWidth widths + frame
  let bar := fun (c : Char) => ([⟨border, [c]⟩] : Line)
  let titleLines := (setText .center total .fold title).map fun s =>
    ([⟨{ italic := true }, s⟩] : Line)
  titleLines ++ [ruleLine border '┏' '━' '┳' '┓' widths] ++
    rowLines true (bar '┃') (bar '┃') (bar '┃') (setRow widths headed headings) ++
    [ruleLine border '┡' '━' '╇' '┩' widths] ++
    rows.flatMap (fun row => rowLines false (bar '│') (bar '│') (bar '│')
      (setRow widths columns row)) ++
    [ruleLine border '└' '─' '┴' '┘' widths]

end Mosaic.Terminal
