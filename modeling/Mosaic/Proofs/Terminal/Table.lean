import Mathlib.Algebra.Order.BigOperators.Group.List
import Mathlib.Algebra.Order.Group.Nat
import Mosaic.Proofs.Terminal.Typed
import Mosaic.Terminal.Box

/-!
# Tables that fit

A column is as wide as its widest text and a blank on either side, if all columns together have room
(`columnWidths_of_fits`). Then every cell takes one line, a row is the line of its cells between
bars, and a table is drawn row by row (`boxed_of_fits`).
-/

namespace Mosaic.Terminal

open Text

variable {room n : Nat} {s : List Char} {columns : List Column} {row : List Cell}
  {rows : List (List Cell)} {widths : List Nat}

/-! ## Cells -/

/-- A text for a cell: it is typed, something can be seen of it, and no blanks are at its end. -/
structure Entry (s : List Char) : Prop where
  typed : Typed s
  ne_nil : s ≠ []
  trimmed : trimEnd s = s

instance (s : List Char) : Decidable (Entry s) :=
  decidable_of_iff (Typed s ∧ s ≠ [] ∧ trimEnd s = s)
    ⟨fun h => ⟨h.1, h.2.1, h.2.2⟩, fun h => ⟨h.typed, h.ne_nil, h.trimmed⟩⟩

/-- Only the end of an entry is told from that of other typed texts. -/
theorem Entry.append {t : List Char} (hs : Typed s) (h : Entry t) : Entry (s ++ t) where
  typed := List.forall_mem_append.mpr ⟨hs, h.typed⟩
  ne_nil := List.append_ne_nil_of_right_ne_nil s h.ne_nil
  trimmed := by
    refine List.rdropWhile_eq_self_iff.mpr fun hne => ?_
    rw [List.getLast_append_of_ne_nil hne h.ne_nil]
    exact List.rdropWhile_eq_self_iff.mp h.trimmed h.ne_nil

/-- A text of at most `n` characters in a column of `n` cells. -/
def Justify.place (j : Justify) (n : Nat) (s : List Char) : List Char :=
  let spaces := fun (n : Nat) => List.replicate n ' '
  let free := n - s.length
  match j with
  | .left => s ++ spaces free
  | .right => spaces free ++ s
  | .center => spaces (free / 2) ++ s ++ spaces (free - free / 2)

/-- A text that fits is placed in its column. -/
theorem setText_of_fits (h : Entry s) (hfits : s.length ≤ n) (j : Justify) (overflow : Overflow) :
    setText j n overflow s = [j.place n s] := by
  have hwidth : width s ≤ n := by rwa [h.typed.width_eq]
  have hkept : dropExcessBlanks n s = s := Fits.dropExcessBlanks_eq ⟨hwidth, .inl hfits⟩
  have hwhole : truncate n overflow s = s := if_pos hwidth
  rw [setText, breakText_of_fits h.typed.smooth.unjoined hwidth, List.map_singleton, hkept]
  cases j <;> simp only [Justify.fit, Justify.place, hwhole, h.trimmed, h.typed.width_eq]

/-- The line of a cell in a column of `width` cells that its text and a blank on either side fit. -/
def cellLine (width : Nat) (c : Column) (cell : Cell) : Line :=
  [.blank c.pen 1, ⟨c.pen.overlay cell.pen, c.justify.place (width - cellPadding) cell.text⟩,
    .blank c.pen 1]

theorem cellLines_of_fits {width : Nat} {cell : Cell} (h : Entry cell.text)
    (hfits : cell.text.length + cellPadding ≤ width) (c : Column) :
    cellLines width c.justify c.pen cell = [cellLine width c cell] := by
  have hlength : cell.text.length ≤ width - cellPadding := Nat.le_sub_of_add_le hfits
  have hpos : 0 < cell.text.length := List.length_pos_iff.mpr h.ne_nil
  rw [cellLines, setText_of_fits h hlength]
  simp only [List.map_singleton, cellLine]
  rw [if_neg (by omega)]

/-! ## Rows -/

/-- The line of a row whose cells fit their columns, between bars. -/
def rowLine (bar : Line) (widths : List Nat) (columns : List Column) (row : List Cell) : Line :=
  bar ++ List.intercalate bar
    ((widths.zip (columns.zip row)).map fun (w, c, cell) => cellLine w c cell) ++ bar

/-- Cells of one line each stand side by side. -/
theorem rowLines_of_single {α : Type} {xs : List α} (hne : xs ≠ []) (heading : Bool)
    (left divider right : Line) (width : α → Nat) (pen : α → Pen) (line : α → Line) :
    rowLines heading left divider right (xs.map fun x => ⟨width x, pen x, [line x]⟩) =
      [left ++ List.intercalate divider (xs.map line) ++ right] := by
  -- Every cell has one line, so the row is one line high.
  have hmax : ∀ xs : List α, (xs.map fun _ => 1).foldl max 1 = 1 := by
    intro xs
    induction xs with
    | nil => rfl
    | cons x xs ih => simpa using ih
  have hheight : (xs.map fun _ => 1).foldl max 0 = 1 := by
    obtain ⟨x, xs, rfl⟩ := List.exists_cons_of_ne_nil hne
    exact hmax xs
  unfold rowLines
  simp only [List.map_map, Function.comp_def, List.length_singleton, hheight]
  cases heading <;> simp

/-- A row whose cells fit their columns takes one line. -/
theorem rowLines_setRow_of_fits (hne : widths.zip (columns.zip row) ≠ [])
    (h : ∀ x ∈ widths.zip (columns.zip row),
      Entry x.2.2.text ∧ x.2.2.text.length + cellPadding ≤ x.1) (heading : Bool) (bar : Line) :
    rowLines heading bar bar bar (setRow widths columns row) =
      [rowLine bar widths columns row] := by
  have hset : setRow widths columns row = (widths.zip (columns.zip row)).map fun x =>
      ⟨x.1, x.2.1.pen, [cellLine x.1 x.2.1 x.2.2]⟩ := by
    refine List.map_congr_left fun x hx => ?_
    obtain ⟨hentry, hfits⟩ := h x hx
    rw [← cellLines_of_fits hentry hfits]
  rw [hset, rowLines_of_single hne]
  rfl

/-! ## Widths -/

theorem totalWidth_eq_sum (widths : List Nat) : totalWidth widths = widths.sum :=
  List.sum_eq_foldl.symm

/-- The length of the longest text. -/
def longest (texts : List (List Char)) : Nat := (texts.map List.length).foldl max 0

theorem length_le_longest {texts : List (List Char)} (h : s ∈ texts) :
    s.length ≤ longest texts := by
  have hmax : ∀ (ns : List Nat) m, m ≤ ns.foldl max m ∧ ∀ n ∈ ns, n ≤ ns.foldl max m := by
    intro ns
    induction ns with
    | nil => simp
    | cons n ns ih =>
      intro m
      obtain ⟨hstart, hrest⟩ := ih (max m n)
      exact ⟨(Nat.le_max_left m n).trans hstart,
        List.forall_mem_cons.mpr ⟨(Nat.le_max_right m n).trans hstart, hrest⟩⟩
  exact (hmax _ 0).2 _ (List.mem_map.mpr ⟨s, h, rfl⟩)

/-- The width of a column for these texts: the longest, and the blanks beside it. -/
def fittedWidth (texts : List (List Char)) : Nat := longest texts + cellPadding

/-- The blanks beside the texts can be added to the longest of them. -/
theorem foldl_max_add {texts : List (List Char)} (hne : texts ≠ []) :
    (texts.map fun s => s.length + cellPadding).foldl max 0 = fittedWidth texts := by
  have hadd : ∀ (texts : List (List Char)) m,
      (texts.map fun s => s.length + cellPadding).foldl max (m + cellPadding) =
        (texts.map List.length).foldl max m + cellPadding := by
    intro texts
    induction texts with
    | nil => exact fun m => rfl
    | cons s texts ih =>
      intro m
      rw [List.map_cons, List.foldl_cons, Nat.add_max_add_right, ih, List.map_cons, List.foldl_cons]
  obtain ⟨s, texts, rfl⟩ := List.exists_cons_of_ne_nil hne
  simpa [fittedWidth, longest] using hadd texts s.length

/-- A column with room for its texts takes the width of the longest. -/
theorem natural_of_fits {c : Column} {texts : List (List Char)} (hfixed : c.fixed = none)
    (hne : texts ≠ []) (htyped : ∀ s ∈ texts, Typed s) (hfits : fittedWidth texts ≤ room) :
    c.natural room texts = fittedWidth texts := by
  -- No text is cut to the room, and each of its characters takes one cell.
  have hwidths : (texts.map fun s => min (width s + cellPadding) room) =
      texts.map fun s => s.length + cellPadding := by
    refine List.map_congr_left fun s hs => ?_
    rw [(htyped s hs).width_eq]
    exact Nat.min_eq_left ((Nat.add_le_add_right (length_le_longest hs) _).trans hfits)
  rw [Column.natural, hfixed]
  exact hwidths ▸ foldl_max_add hne

/-- **Columns that have room together take the widths of their longest texts.** -/
theorem columnWidths_of_fits {columns : List (Column × List (List Char))}
    (h : ∀ p ∈ columns, p.1.fixed = none ∧ p.2 ≠ [] ∧ ∀ s ∈ p.2, Typed s)
    (hfits : totalWidth (columns.map fun p => fittedWidth p.2) ≤ room) :
    columnWidths room columns = columns.map fun p => fittedWidth p.2 := by
  have hnatural : (columns.map fun p => max 1 (p.1.natural room p.2)) =
      columns.map fun p => fittedWidth p.2 := by
    refine List.map_congr_left fun p hp => ?_
    obtain ⟨hfixed, hne, htyped⟩ := h p hp
    have hroom : fittedWidth p.2 ≤ room := by
      refine Nat.le_trans ?_ hfits
      rw [totalWidth_eq_sum]
      exact List.single_le_sum (by simp) _ (List.mem_map.mpr ⟨p, hp, rfl⟩)
    rw [natural_of_fits hfixed hne htyped hroom]
    exact Nat.max_eq_right (by simp [fittedWidth, cellPadding])
  unfold columnWidths
  simp only [hnatural, if_pos hfits]

/-! ## Drawing -/

/-- The cells of a heading. -/
def headings (columns : List Column) : List Cell := columns.map fun c => ⟨c.header, .plain⟩

/-- Columns as a heading is written in them. -/
def headed (columns : List Column) : List Column :=
  columns.map fun c => { c with pen := { bold := true } }

/-- The widths of columns for these rows under their headings. -/
def fittedWidths (columns : List Column) (rows : List (List Cell)) : List Nat :=
  (columnTexts columns (headings columns :: rows)).map fun p => fittedWidth p.2

/-- A table of entries: every row has a cell for each column, and the columns are of no fixed
widths. -/
structure Tabular (columns : List Column) (rows : List (List Cell)) : Prop where
  ne_nil : columns ≠ []
  fixed : ∀ c ∈ columns, c.fixed = none
  header : ∀ c ∈ columns, Entry c.header
  length_row : ∀ row ∈ rows, row.length = columns.length
  entry : ∀ row ∈ rows, ∀ cell ∈ row, Entry cell.text

/-- The headings are a row like the others. -/
theorem Tabular.cells_of_mem (h : Tabular columns rows) (hrow : row ∈ headings columns :: rows) :
    row.length = columns.length ∧ ∀ cell ∈ row, Entry cell.text := by
  rcases List.mem_cons.mp hrow with rfl | hrow
  · refine ⟨List.length_map _, fun cell hcell => ?_⟩
    obtain ⟨c, hc, rfl⟩ := List.mem_map.mp hcell
    exact h.header c hc
  · exact ⟨h.length_row row hrow, h.entry row hrow⟩

/-- Columns that are fitted to a table get their widths. -/
theorem Tabular.columnWidths_eq (h : Tabular columns rows)
    (hfits : totalWidth (fittedWidths columns rows) ≤ room) :
    columnWidths room (columnTexts columns (headings columns :: rows)) =
      fittedWidths columns rows := by
  refine columnWidths_of_fits (fun p hp => ?_) hfits
  obtain ⟨i, hi, rfl⟩ := List.mem_mapIdx.mp hp
  refine ⟨h.fixed _ (List.getElem_mem hi), ?_, fun s hs => ?_⟩
  · simp [headings, hi]
  · obtain ⟨row, hrow, hs⟩ := List.mem_filterMap.mp hs
    obtain ⟨cell, hcell, rfl⟩ := Option.map_eq_some_iff.mp hs
    exact ((h.cells_of_mem hrow).2 cell (List.mem_of_getElem? hcell)).typed

/-- Every cell of a row fits its column. -/
theorem Tabular.fits (h : Tabular columns rows) (hrow : row ∈ headings columns :: rows)
    (cs : List Column) :
    ∀ x ∈ (fittedWidths columns rows).zip (cs.zip row),
      Entry x.2.2.text ∧ x.2.2.text.length + cellPadding ≤ x.1 := by
  intro x hx
  obtain ⟨i, hi, rfl⟩ := List.mem_iff_getElem.mp hx
  rw [List.length_zip, List.length_zip, lt_min_iff, lt_min_iff] at hi
  obtain ⟨-, -, hcell⟩ := hi
  simp only [List.getElem_zip]
  refine ⟨(h.cells_of_mem hrow).2 _ (List.getElem_mem hcell), ?_⟩
  simp only [fittedWidths, columnTexts, List.getElem_map, List.getElem_mapIdx, fittedWidth]
  refine Nat.add_le_add_right (length_le_longest ?_) _
  exact List.mem_filterMap.mpr ⟨row, hrow, by rw [List.getElem?_eq_getElem hcell]; rfl⟩

theorem length_fittedWidths (columns : List Column) (rows : List (List Cell)) :
    (fittedWidths columns rows).length = columns.length := by
  simp [fittedWidths, columnTexts]

/-- A row of a table that fits takes one line, in columns of any pens. -/
theorem Tabular.rowLines_eq (h : Tabular columns rows) (hrow : row ∈ headings columns :: rows)
    {cs : List Column} (hcs : cs.length = columns.length) (heading : Bool) (bar : Line) :
    rowLines heading bar bar bar (setRow (fittedWidths columns rows) cs row) =
      [rowLine bar (fittedWidths columns rows) cs row] := by
  refine rowLines_setRow_of_fits (fun hnil => ?_) (h.fits hrow cs) heading bar
  have hlength := congrArg List.length hnil
  have hpos := List.length_pos_iff.mpr h.ne_nil
  -- A row without a cell would belong to a table without a column.
  simp only [List.length_zip, length_fittedWidths, hcs, (h.cells_of_mem hrow).1, min_self,
    List.length_nil] at hlength
  omega

/-- The lines of a table that fits: the title over a heading, each row on a line of its own, and
strokes around them. -/
def tableLines (title : List Char) (border : Pen) (columns : List Column)
    (rows : List (List Cell)) : List Line :=
  let widths := fittedWidths columns rows
  let total := totalWidth widths + (columns.length + 1)
  [[⟨{ italic := true }, Justify.place .center total title⟩],
    ruleLine border '┏' '━' '┳' '┓' widths,
    rowLine [⟨border, ['┃']⟩] widths (headed columns) (headings columns),
    ruleLine border '┡' '━' '╇' '┩' widths] ++
  rows.map (rowLine [⟨border, ['│']⟩] widths columns) ++
  [ruleLine border '└' '─' '┴' '┘' widths]

/-- A table is drawn row by row between a head and a foot, however it fits. -/
theorem exists_boxed_eq (room : Nat) (title : List Char) (border : Pen) (columns : List Column)
    (rows : List (List Cell)) :
    ∃ widths head foot, boxed room title border columns rows =
      head ++ rows.flatMap (fun row => rowLines false [⟨border, ['│']⟩] [⟨border, ['│']⟩]
        [⟨border, ['│']⟩] (setRow widths columns row)) ++ foot :=
  ⟨_, _, _, rfl⟩

/-- **A table that fits is drawn with a line for each row.** -/
theorem boxed_of_fits {title : List Char} (h : Tabular columns rows) (htitle : Entry title)
    (hroom : title.length ≤ totalWidth (fittedWidths columns rows) + (columns.length + 1))
    (hfits : totalWidth (fittedWidths columns rows) + (columns.length + 1) ≤ room)
    (border : Pen) :
    boxed room title border columns rows = tableLines title border columns rows := by
  -- The columns get their fitted widths, so the heading and each row take one line.
  have hwidths := h.columnWidths_eq (Nat.le_sub_of_add_le hfits)
  have hlength : (headed columns).length = columns.length := List.length_map _
  have hheading := h.rowLines_eq List.mem_cons_self hlength true [⟨border, ['┃']⟩]
  have hrows : (rows.flatMap fun row => rowLines false [⟨border, ['│']⟩] [⟨border, ['│']⟩]
      [⟨border, ['│']⟩] (setRow (fittedWidths columns rows) columns row)) =
        rows.map (rowLine [⟨border, ['│']⟩] (fittedWidths columns rows) columns) := by
    rw [List.map_eq_flatMap]
    exact List.flatMap_congr fun row hrow => h.rowLines_eq (List.mem_cons_of_mem _ hrow) rfl _ _
  have hheadings : (columns.map fun c => (⟨c.header, .plain⟩ : Cell)) = headings columns := rfl
  unfold boxed
  simp only [hheadings, hwidths, setText_of_fits htitle hroom, hrows, List.map_singleton]
  rw [show (columns.map fun c => { c with pen := { bold := true } }) = headed columns from rfl,
    hheading]
  simp [tableLines]

/-! ## Lines of one width -/

theorem typed_spaces (n : Nat) : Typed (List.replicate n ' ') := by
  intro c hc
  obtain rfl := List.eq_of_mem_replicate hc
  decide

/-- A text that is placed in a column fills it. -/
theorem width_place {j : Justify} (h : Typed s) (hfits : s.length ≤ n) :
    width (j.place n s) = n := by
  have htyped : Typed (j.place n s) := by
    unfold Justify.place
    cases j with
    | left => exact List.forall_mem_append.mpr ⟨h, typed_spaces _⟩
    | right => exact List.forall_mem_append.mpr ⟨typed_spaces _, h⟩
    | center =>
      exact List.forall_mem_append.mpr
        ⟨List.forall_mem_append.mpr ⟨typed_spaces _, h⟩, typed_spaces _⟩
  rw [htyped.width_eq]
  unfold Justify.place
  cases j <;> simp only [List.length_append, List.length_replicate] <;> omega

theorem width_append (l l' : Line) : Line.width (l ++ l') = l.width + l'.width := by
  induction l with
  | nil => simp [Line.width]
  | cons x l ih => rw [List.cons_append, Line.width, ih, Line.width, Nat.add_assoc]

/-- A count over lists that are put together takes in a divider for each of them but one. -/
theorem count_intercalate {α : Type} {count : List α → Nat}
    (hcount : ∀ l l', count (l ++ l') = count l + count l') {divider : List α}
    (hdivider : count divider = 1) {ls : List (List α)} (hne : ls ≠ []) :
    count (List.intercalate divider ls) + 1 = (ls.map count).sum + ls.length := by
  match ls with
  | [l] => simp
  | l :: l' :: ls =>
    have ih := count_intercalate hcount hdivider (List.cons_ne_nil l' ls)
    rw [List.intercalate_cons_cons, hcount, hcount, hdivider, List.map_cons, List.sum_cons,
      List.length_cons]
    omega

/-- The cells of a row fill their columns, and the bars take a cell each. -/
theorem width_rowLine {bar : Line} (hbar : bar.width = 1)
    (hlength : widths.length ≤ (columns.zip row).length) (hne : widths ≠ [])
    (h : ∀ x ∈ widths.zip (columns.zip row),
      Entry x.2.2.text ∧ x.2.2.text.length + cellPadding ≤ x.1) :
    (rowLine bar widths columns row).width = totalWidth widths + (widths.length + 1) := by
  let xs := widths.zip (columns.zip row)
  have hxs : xs.map Prod.fst = widths := List.map_fst_zip hlength
  have hlen : xs.length = widths.length := by rw [← hxs, List.length_map]
  have hcells : (xs.map fun x => cellLine x.1 x.2.1 x.2.2).map Line.width = widths := by
    rw [List.map_map, ← hxs]
    refine List.map_congr_left fun x hx => ?_
    obtain ⟨hentry, hfits⟩ := h x hx
    have hblank : width [' '] = 1 := by decide
    have hplaced := width_place (j := x.2.1.justify) hentry.typed (Nat.le_sub_of_add_le hfits)
    simp only [Function.comp_apply, cellLine, Line.width, Span.blank, List.replicate_one, hblank,
      hplaced]
    simp only [cellPadding] at hfits ⊢
    omega
  have hsome : (xs.map fun x => cellLine x.1 x.2.1 x.2.2) ≠ [] := by
    intro hnil
    rw [hnil] at hcells
    exact hne hcells.symm
  have hcount := count_intercalate width_append hbar hsome
  rw [hcells, List.length_map, hlen, ← totalWidth_eq_sum] at hcount
  have hline : rowLine bar widths columns row =
      bar ++ List.intercalate bar (xs.map fun x => cellLine x.1 x.2.1 x.2.2) ++ bar := rfl
  rw [hline, width_append, width_append, hbar]
  omega

/-- Every stroke of a rule takes a cell. -/
theorem width_ruleLine {left line crossing right : Char}
    (hstrokes : [left, line, crossing, right].all fun c => charWidth c = 1 ∧ c ≠ colourSelector)
    (hne : widths ≠ []) (pen : Pen) :
    (ruleLine pen left line crossing right widths).width =
      totalWidth widths + (widths.length + 1) := by
  let strokes := widths.map fun w => List.replicate w line
  have hlengths : strokes.map List.length = widths := by simp [strokes, Function.comp_def]
  have hsome : strokes ≠ [] := by simpa [strokes] using hne
  have hlength : ∀ s t : List Char, (s ++ t).length = s.length + t.length :=
    fun _ _ => List.length_append
  have hcount := count_intercalate hlength (List.length_singleton : [crossing].length = 1) hsome
  rw [hlengths, List.length_map, ← totalWidth_eq_sum] at hcount
  have hcells : ∀ c ∈ left :: List.intercalate [crossing] strokes ++ [right],
      charWidth c = 1 ∧ c ≠ colourSelector := by
    intro c hc
    refine of_decide_eq_true (List.all_eq_true.mp hstrokes c ?_)
    rw [List.mem_append, List.mem_cons, List.mem_singleton] at hc
    rcases hc with (rfl | hinner) | rfl
    · simp
    · rcases mem_intercalate hinner with hcrossing | ⟨stroke, hstroke, hc⟩
      · simp [List.mem_singleton.mp hcrossing]
      · obtain ⟨w, -, rfl⟩ := List.mem_map.mp hstroke
        simp [List.eq_of_mem_replicate hc]
    · simp
  rw [ruleLine, Line.width, Line.width, width_eq_length hcells, List.length_append,
    List.length_cons, List.length_singleton]
  omega

/-- The lines of a table that fits are of one width. -/
theorem Tabular.width_of_mem_tableLines {title : List Char} (h : Tabular columns rows)
    (htitle : Entry title)
    (hroom : title.length ≤ totalWidth (fittedWidths columns rows) + (columns.length + 1))
    (border : Pen) {l : Line} (hl : l ∈ tableLines title border columns rows) :
    l.width = totalWidth (fittedWidths columns rows) + (columns.length + 1) := by
  have hlength := length_fittedWidths columns rows
  have hne : fittedWidths columns rows ≠ [] := fun hnil => h.ne_nil <| by
    rw [hnil] at hlength
    exact List.length_eq_zero_iff.mp hlength.symm
  -- Rows and rules are as wide as their columns and the strokes between and around these.
  have hrow : ∀ {bar : Char} {cs row}, width [bar] = 1 → cs.length = columns.length →
      row ∈ headings columns :: rows →
      (rowLine [⟨border, [bar]⟩] (fittedWidths columns rows) cs row).width =
        totalWidth (fittedWidths columns rows) + (columns.length + 1) := by
    intro bar cs row hbar hcs hrow
    have hzip : (fittedWidths columns rows).length ≤ (cs.zip row).length := by
      rw [List.length_zip, hcs, (h.cells_of_mem hrow).1, min_self, hlength]
    have hbar : Line.width [⟨border, [bar]⟩] = 1 := hbar
    rw [width_rowLine hbar hzip hne (h.fits hrow cs), hlength]
  have hrule : ∀ {left line crossing right : Char},
      ([left, line, crossing, right].all fun c => charWidth c = 1 ∧ c ≠ colourSelector) →
      (ruleLine border left line crossing right (fittedWidths columns rows)).width =
        totalWidth (fittedWidths columns rows) + (columns.length + 1) := by
    intro left line crossing right hstrokes
    rw [width_ruleLine hstrokes hne, hlength]
  simp only [tableLines, List.mem_append, List.mem_cons, List.not_mem_nil, or_false,
    List.mem_map] at hl
  rcases hl with ((rfl | rfl | rfl | rfl) | ⟨row, hmem, rfl⟩) | rfl
  · rw [Line.width, width_place htitle.typed hroom, Line.width, Nat.add_zero]
  · exact hrule (by decide +kernel)
  · exact hrow (by decide +kernel) (List.length_map _) List.mem_cons_self
  · exact hrule (by decide +kernel)
  · exact hrow (by decide +kernel) rfl (List.mem_cons_of_mem _ hmem)
  · exact hrule (by decide +kernel)

end Mosaic.Terminal
