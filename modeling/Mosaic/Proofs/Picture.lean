import Mathlib.Data.List.TFAE
import Mathlib.Logic.Basic
import Mathlib.Logic.Function.Basic
import Mathlib.Tactic.TFAE
import Mosaic.Proofs.Failure
import Mosaic.Picture
import Mosaic.Proofs.Grid.Arrays
import Mosaic.Proofs.Grid.Store
import Mosaic.Proofs.Numeral

/-!
# The text of a grid

Cutting laid-out text at line feeds, and each line at spaces, gives back the pieces, as long as no
piece holds a separator. So the text of a grid in numeric codes shows its shape: one line a row, one
code a cell (`isPicture_render`).

The text in symbols is the text in codes with every code replaced (`replaceCodes`), so the two ways
of rendering lay a grid out alike. It exists as soon as the colours of the cells have symbols; else
the first cell in reading order without one decides the failure (`FirstMissing`).

Whatever stands for the colours, the text of a grid falls apart into what stands for its cells, so
grids with one text have the same rows (`eq_of_layOut`). The text in codes can even be read back:
its pieces are numerals, and the constructor makes the grid out of them again.
-/

namespace Mosaic.Grid

variable {rows : List (List String)} {g h : Grid} {symbols : Color → Option String}
  {e : Failure} {t : String}

/-! ## Cutting undoes laying out -/

/-- The pieces of laid-out rows are the rows, if no piece holds a space or a line feed. -/
theorem cutText_layOut (hrows : rows ≠ []) (hrow : ∀ row ∈ rows, row ≠ [])
    (hpiece : ∀ row ∈ rows, ∀ s ∈ row, ' ' ∉ s.toList ∧ '\n' ∉ s.toList) :
    cutText (layOut rows) = rows.map (·.map String.toList) := by
  have hlines : (List.intercalate ['\n'] (rows.map fun row =>
      List.intercalate [' '] (row.map String.toList))).splitOn '\n' =
      rows.map fun row => List.intercalate [' '] (row.map String.toList) := by
    refine List.splitOn_intercalate '\n' (fun line hline hbreak => ?_) (by simpa using hrows)
    obtain ⟨row, hmem, rfl⟩ := List.mem_map.mp hline
    rcases Text.mem_intercalate hbreak with hspace | ⟨piece, hp, hbreak⟩
    · exact absurd hspace (by decide)
    · obtain ⟨s, hs, rfl⟩ := List.mem_map.mp hp
      exact (hpiece row hmem s hs).2 hbreak
  have hcut : ∀ row ∈ rows, (List.intercalate [' '] (row.map String.toList)).splitOn ' ' =
      row.map String.toList := by
    intro row hmem
    refine List.splitOn_intercalate ' ' (fun piece hp hspace => ?_) (by simpa using hrow row hmem)
    obtain ⟨s, hs, rfl⟩ := List.mem_map.mp hp
    exact (hpiece row hmem s hs).1 hspace
  change ((String.ofList _).toList.splitOn '\n').map (List.splitOn ' ') = _
  rw [String.toList_ofList, hlines, List.map_map]
  exact List.map_congr_left hcut

/-! ## The text of a grid -/

theorem rows_ne_nil (g : Grid) : g.rows ≠ [] :=
  List.ne_nil_of_length_pos (by rw [g.length_rows]; exact g.height_pos)

theorem row_ne_nil (g : Grid) : ∀ row ∈ g.rows, row ≠ [] := fun row hrow =>
  List.ne_nil_of_length_pos (by rw [g.length_row row hrow]; exact g.width_pos)

/-- The pieces of a grid that is laid out in symbols are the symbols of its cells. -/
theorem cutText_layOut_rows (g : Grid) {symbol : Color → String}
    (hsep : ∀ c, ' ' ∉ (symbol c).toList ∧ '\n' ∉ (symbol c).toList) :
    cutText (layOut (g.rows.map (·.map symbol))) =
      g.rows.map (·.map fun c => (symbol c).toList) := by
  have hpieces : cutText (layOut (g.rows.map (·.map symbol))) =
      (g.rows.map (·.map symbol)).map (·.map String.toList) := by
    refine cutText_layOut (by simpa using g.rows_ne_nil) ?_ ?_
    · intro row hrow
      obtain ⟨colors, hcolors, rfl⟩ := List.mem_map.mp hrow
      simpa using g.row_ne_nil colors hcolors
    · intro row hrow s hs
      obtain ⟨colors, -, rfl⟩ := List.mem_map.mp hrow
      obtain ⟨c, -, rfl⟩ := List.mem_map.mp hs
      exact hsep c
  rw [hpieces, List.map_map]
  simp [Function.comp_def]

/-! ## Numeric codes -/

theorem digit_no_separator (c : Color) : ' ' ∉ (digit c).toList ∧ '\n' ∉ (digit c).toList := by
  cases c <;> decide

/-- The pieces of a rendered grid are the digits of its cells. -/
theorem cutText_render (g : Grid) :
    cutText g.render = g.rows.map (·.map fun c => (digit c).toList) :=
  cutText_layOut_rows g digit_no_separator

/-- The text has `height` lines, each of `width` codes of colours between single spaces. -/
def IsPicture (width height : Nat) (text : String) : Prop :=
  (cutText text).length = height ∧ ∀ line ∈ cutText text,
    line.length = width ∧ ∀ code ∈ line, code = ['1'] ∨ code = ['2'] ∨ code = ['3']

/-- A rendered grid has a line for every row and a code for every cell. -/
theorem isPicture_render (g : Grid) : IsPicture g.width g.height g.render := by
  rw [IsPicture, cutText_render]
  refine ⟨(List.length_map _).trans g.length_rows, fun line hline => ?_⟩
  obtain ⟨row, hrow, rfl⟩ := List.mem_map.mp hline
  refine ⟨(List.length_map _).trans (g.length_row row hrow), fun code hcode => ?_⟩
  obtain ⟨c, -, rfl⟩ := List.mem_map.mp hcode
  cases c <;> decide

/-! ## Replacing codes in a text -/

/-- The colour whose code is this digit. -/
def colorOfDigit? : Char → Option Color
  | '1' => some .red
  | '2' => some .green
  | '3' => some .cyan
  | _ => none

/-- Replace every code in a text by the symbol of its colour, and keep all other characters. -/
def replaceCodes (symbols : Color → Option String) (text : String) : String :=
  String.ofList <| text.toList.flatMap fun ch =>
    match colorOfDigit? ch with
    | some c => ((symbols c).getD "").toList
    | none => [ch]

/-- What is done to each character of joined pieces is done to the pieces and to the separator. -/
theorem flatMap_intercalate {α β : Type} (f : α → List β) (sep : List α) (parts : List (List α)) :
    (List.intercalate sep parts).flatMap f =
      List.intercalate (sep.flatMap f) (parts.map (·.flatMap f)) := by
  match parts with
  | [] => rfl
  | [part] => simp only [List.intercalate_singleton, List.map_cons, List.map_nil]
  | part :: next :: parts =>
    have ih := flatMap_intercalate f sep (next :: parts)
    rw [List.map_cons] at ih
    simp only [List.map_cons, List.intercalate_cons_cons, List.flatMap_append, ih]

/-- With its codes replaced, the text of a grid is laid out from the symbols of the cells. -/
theorem replaceCodes_render (g : Grid) (symbols : Color → Option String) :
    replaceCodes symbols g.render =
      layOut (g.rows.map (·.map fun c => (symbols c).getD "")) := by
  -- The digit of a code is replaced as a whole; separators are no digits and stay.
  have hdigit : ∀ c : Color, (digit c).toList.flatMap (fun ch =>
      match colorOfDigit? ch with
      | some c => ((symbols c).getD "").toList
      | none => [ch]) = ((symbols c).getD "").toList := by
    intro c
    cases c <;> exact List.append_nil _
  rw [replaceCodes, render, layOut, String.toList_ofList, flatMap_intercalate, layOut]
  simp only [List.map_map, Function.comp_def, flatMap_intercalate, hdigit]
  rfl

/-! ## Cells without a symbol -/

theorem symbolOf_eq_error_iff {c : Color} :
    symbolOf symbols c = .error e ↔ symbols c = none ∧ .missingSymbol c = e := by
  unfold symbolOf
  cases symbols c <;> simp

theorem exists_symbolOf_eq_ok_iff {c : Color} :
    (∃ s, symbolOf symbols c = .ok s) ↔ (symbols c).isSome := by
  unfold symbolOf
  cases symbols c <;> simp

/-- In reading order the cell in column `x` and row `y` is the first whose colour has no symbol;
this colour is `c`. -/
structure FirstMissing (g : Grid) (symbols : Color → Option String) (x y : Nat) (c : Color) :
    Prop where
  cell : g.colorAt? x y = some c
  missing : symbols c = none
  earlier : ∀ x' y' c', y' < y ∨ (y' = y ∧ x' < x) → g.colorAt? x' y' = some c' →
    (symbols c').isSome

/-- Rendering in symbols fails exactly at the first cell without one. -/
theorem renderWith_eq_error_iff :
    g.renderWith symbols = .error e ↔
      ∃ x y c, FirstMissing g symbols x y c ∧ .missingSymbol c = e := by
  simp only [renderWith, map_eq_error_iff, mapM_eq_error_iff, exists_mapM_eq_ok_iff,
    symbolOf_eq_error_iff, exists_symbolOf_eq_ok_iff]
  constructor
  · rintro ⟨y, row, hrow, ⟨x, c, hc, ⟨hmissing, rfl⟩, hleft⟩, habove⟩
    refine ⟨x, y, c, ⟨Option.bind_eq_some_iff.mpr ⟨row, hrow, hc⟩, hmissing, ?_⟩, rfl⟩
    intro x' y' c' hbefore hcell
    obtain ⟨row', hrow', hc'⟩ := Option.bind_eq_some_iff.mp hcell
    rcases hbefore with hy | ⟨rfl, hx⟩
    · exact habove y' hy row' hrow' c' (List.mem_of_getElem? hc')
    · obtain rfl := Option.some.inj (hrow.symm.trans hrow')
      exact hleft x' hx c' hc'
  · rintro ⟨x, y, c, hfirst, rfl⟩
    obtain ⟨row, hrow, hc⟩ := Option.bind_eq_some_iff.mp hfirst.cell
    refine ⟨y, row, hrow, ⟨x, c, hc, ⟨hfirst.missing, rfl⟩, fun x' hx c' hc' => ?_⟩,
      fun y' hy row' hrow' c' hc' => ?_⟩
    · exact hfirst.earlier x' y c' (.inr ⟨rfl, hx⟩) (Option.bind_eq_some_iff.mpr ⟨row, hrow, hc'⟩)
    · obtain ⟨x', hx'⟩ := List.getElem?_of_mem hc'
      exact hfirst.earlier x' y' c' (.inl hy) (Option.bind_eq_some_iff.mpr ⟨row', hrow', hx'⟩)

/-! ## Cells with symbols -/

/-- The cells of a row show colours of the grid. -/
theorem exists_colorAt?_of_mem {row : List Color} {c : Color} (hrow : row ∈ g.rows) (hc : c ∈ row) :
    ∃ x y, g.colorAt? x y = some c := by
  obtain ⟨y, hy⟩ := List.getElem?_of_mem hrow
  obtain ⟨x, hx⟩ := List.getElem?_of_mem hc
  exact ⟨x, y, Option.bind_eq_some_iff.mpr ⟨row, hy, hx⟩⟩

/-- If every cell has a symbol, the text is laid out from these symbols. -/
theorem renderWith_of_isSome (h : ∀ x y c, g.colorAt? x y = some c → (symbols c).isSome) :
    g.renderWith symbols = .ok (layOut (g.rows.map (·.map fun c => (symbols c).getD ""))) := by
  have hcell : ∀ row ∈ g.rows, ∀ c ∈ row, symbolOf symbols c = pure ((symbols c).getD "") := by
    intro row hrow c hc
    obtain ⟨x, y, hxy⟩ := exists_colorAt?_of_mem hrow hc
    obtain ⟨s, hs⟩ := Option.isSome_iff_exists.mp (h x y c hxy)
    rw [symbolOf, hs]
    rfl
  rw [renderWith, mapM_eq_pure_map fun row hrow => mapM_eq_pure_map (hcell row hrow)]
  rfl

/-- There is a text in symbols exactly if every cell has one. -/
theorem exists_renderWith_eq_ok_iff :
    (∃ t, g.renderWith symbols = .ok t) ↔
      ∀ x y c, g.colorAt? x y = some c → (symbols c).isSome := by
  refine ⟨fun ⟨t, ht⟩ x y c hcell => ?_, fun h => ⟨_, renderWith_of_isSome h⟩⟩
  obtain ⟨rows, hrows, -⟩ := map_eq_ok_iff.mp ht
  obtain ⟨row, hrow, hc⟩ := Option.bind_eq_some_iff.mp hcell
  have hall := exists_mapM_eq_ok_iff.mp ⟨rows, hrows⟩ row (List.mem_of_getElem? hrow)
  exact exists_symbolOf_eq_ok_iff.mp (exists_mapM_eq_ok_iff.mp hall c (List.mem_of_getElem? hc))

/-- The text in symbols, where there is one, is the text in codes with the codes replaced. -/
theorem renderWith_eq_ok_iff :
    g.renderWith symbols = .ok t ↔ (∀ x y c, g.colorAt? x y = some c → (symbols c).isSome) ∧
      t = replaceCodes symbols g.render := by
  rw [replaceCodes_render]
  constructor
  · intro h
    have hall := exists_renderWith_eq_ok_iff.mp ⟨t, h⟩
    exact ⟨hall, Except.ok.inj (h.symm.trans (renderWith_of_isSome hall))⟩
  · rintro ⟨hall, rfl⟩
    exact renderWith_of_isSome hall

/-- **Rendering in symbols replaces the codes, and fails exactly where a symbol is missing.** It
fails if and only if some cell holds a colour without a symbol, and names the colour of the first
such cell in reading order. Else its text is the text in codes with every code replaced by the
symbol and all separators kept. With the codes themselves for symbols, both texts are one. -/
theorem renderWith_replaces (g : Grid) (symbols : Color → Option String) :
    ((∃ e, g.renderWith symbols = .error e) ↔ ∃ x y c, g.colorAt? x y = some c ∧ symbols c = none) ∧
    (∀ e, g.renderWith symbols = .error e ↔
      ∃ x y c, FirstMissing g symbols x y c ∧ .missingSymbol c = e) ∧
    (∀ t, g.renderWith symbols = .ok t ↔ (¬ ∃ x y c, g.colorAt? x y = some c ∧ symbols c = none) ∧
      t = replaceCodes symbols g.render) ∧
    g.renderWith (fun c => some (toString c.code)) = .ok g.render := by
  have hall : (∀ x y c, g.colorAt? x y = some c → (symbols c).isSome) ↔
      ¬ ∃ x y c, g.colorAt? x y = some c ∧ symbols c = none := by
    simp only [Option.isSome_iff_ne_none, not_exists, not_and, ne_eq]
  refine ⟨?_, fun e => renderWith_eq_error_iff, fun t => ?_,
    renderWith_of_isSome fun _ _ _ _ => rfl⟩
  · rw [← not_iff_not, ← hall, ← exists_renderWith_eq_ok_iff]
    cases g.renderWith symbols <;> simp
  · rw [renderWith_eq_ok_iff, hall]

/-! ## One text, one grid -/

/-- The rows of a grid show its size. -/
theorem eq_of_rows_eq (hrows : g.rows = h.rows) : g = h := by
  have hheight : g.height = h.height := by rw [← g.length_rows, hrows, h.length_rows]
  obtain ⟨row, hrow⟩ := List.exists_mem_of_ne_nil _ g.rows_ne_nil
  have hwidth : g.width = h.width := by
    rw [← g.length_row row hrow, ← h.length_row row (hrows ▸ hrow)]
  exact eq_of_rows hwidth hheight hrows

/-- Grids with one matrix of codes are one. -/
theorem eq_of_cells (hcells : g.cells = h.cells) : g = h := by
  have hcode : Function.Injective Color.code := fun _ _ => Color.code_injective
  exact eq_of_rows_eq (hcode.list_map.list_map hcells)

/-- If every colour has a symbol of its own without separators, grids with one text are one. -/
theorem eq_of_layOut {symbol : Color → String} (hinj : Function.Injective symbol)
    (hsep : ∀ c, ' ' ∉ (symbol c).toList ∧ '\n' ∉ (symbol c).toList)
    (htext : layOut (g.rows.map (·.map symbol)) = layOut (h.rows.map (·.map symbol))) : g = h := by
  have hpieces := congrArg cutText htext
  rw [cutText_layOut_rows g hsep, cutText_layOut_rows h hsep] at hpieces
  have hpiece : Function.Injective fun c => (symbol c).toList :=
    fun _ _ hcd => hinj (String.toList_injective hcd)
  exact eq_of_rows_eq (hpiece.list_map.list_map hpieces)

/-- The digit of a colour is read as its code. -/
theorem parse_digit (c : Color) : Numeral.parse (digit c) = .ok c.code := by
  cases c <;> decide

theorem digit_injective : Function.Injective digit := fun c d hcd =>
  Color.code_injective (Except.ok.inj (by rw [← parse_digit c, hcd, parse_digit d]))

/-! ## Symbols that tell colours apart -/

/-- Every colour has a symbol, no two have the same one, and no symbol holds a space or a line feed.
-/
structure Distinguishing (symbols : Color → Option String) : Prop where
  isSome : ∀ c, (symbols c).isSome
  injective : Function.Injective symbols
  no_separator : ∀ c s, symbols c = some s → ' ' ∉ s.toList ∧ '\n' ∉ s.toList

theorem Distinguishing.exists_eq_some (hs : Distinguishing symbols) :
    ∃ symbol : Color → String, Function.Injective symbol ∧ (∀ c, symbols c = some (symbol c)) ∧
      ∀ c, ' ' ∉ (symbol c).toList ∧ '\n' ∉ (symbol c).toList := by
  choose symbol hsymbol using fun c => Option.isSome_iff_exists.mp (hs.isSome c)
  refine ⟨symbol, fun c d hcd => hs.injective ?_, hsymbol, fun c => hs.no_separator c _ (hsymbol c)⟩
  rw [hsymbol c, hsymbol d, hcd]

/-- The text in distinguishing symbols exists, and tells the grid. -/
theorem Distinguishing.renderWith (hs : Distinguishing symbols) (g h : Grid) :
    ∃ s t, g.renderWith symbols = .ok s ∧ h.renderWith symbols = .ok t ∧ (s = t ↔ g = h) := by
  obtain ⟨symbol, hinj, hsymbol, hsep⟩ := hs.exists_eq_some
  have htext : ∀ k : Grid, k.renderWith symbols = .ok (layOut (k.rows.map (·.map symbol))) := by
    intro k
    have hk := renderWith_of_isSome (g := k) fun _ _ c _ => hs.isSome c
    simpa only [hsymbol, Option.getD_some] using hk
  exact ⟨_, _, htext g, htext h, eq_of_layOut hinj hsep, fun hgh => by rw [hgh]⟩

/-! ## Reading the codes back -/

/-- The codes of a rendered grid are those of its cells. -/
theorem readCodes_render (g : Grid) : readCodes g.render = .ok g.cells := by
  have hrow : ∀ row : List Color,
      ((row.map fun c => (digit c).toList).mapM fun piece => Numeral.parse (String.ofList piece)) =
        pure (row.map Color.code) := by
    intro row
    rw [List.mapM_map]
    refine mapM_eq_pure_map fun c _ => ?_
    rw [Function.comp_apply, String.ofList_toList, parse_digit]
    rfl
  rw [readCodes, cutText_render, List.mapM_map]
  exact mapM_eq_pure_map fun row _ => hrow row

/-- A rendered grid is read back. -/
theorem read_render (g : Grid) : read g.render = .ok (some g) := by
  have hgrid : ofCells g.toCellArray = .ok g := g.copy_eq
  rw [read, readCodes_render]
  simp only [bind, Except.bind, CellArray.ofRows?_cells, hgrid]
  rfl

/-- **Rendering identifies the grid.** Grids are equal if and only if their cells are, if and only
if their texts are, and if and only if they have one size and `get` agrees inside it. Their texts in
symbols that tell the colours apart are equal exactly then as well. And the text of a grid, cut at
line feeds and spaces, is as many numerals as the grid has cells, in as many rows, from which the
constructor builds the grid again. -/
theorem render_identifies :
    (∀ g h : Grid, List.TFAE [g = h, g.cells = h.cells, g.render = h.render,
      g.width = h.width ∧ g.height = h.height ∧ ∀ p, g.Contains p → g.get p = h.get p]) ∧
    (∀ symbols, Distinguishing symbols → ∀ g h : Grid, ∃ s t,
      g.renderWith symbols = .ok s ∧ h.renderWith symbols = .ok t ∧ (s = t ↔ g = h)) ∧
    ∀ g : Grid, ∃ rows, readCodes g.render = .ok rows ∧ rows.length = g.height ∧
      (∀ row ∈ rows, row.length = g.width) ∧ read g.render = .ok (some g) := by
  refine ⟨fun g h => ?_, fun symbols hs g h => hs.renderWith g h, fun g => ?_⟩
  · tfae_have 1 → 2 := congrArg cells
    tfae_have 2 → 1 := eq_of_cells
    tfae_have 1 → 3 := congrArg render
    tfae_have 3 → 1 := eq_of_layOut digit_injective digit_no_separator
    tfae_have 1 → 4 := fun hgh => hgh ▸ ⟨rfl, rfl, fun _ _ => rfl⟩
    tfae_have 4 → 1 := fun ⟨hwidth, hheight, hget⟩ => eq_of_get hwidth hheight hget
    tfae_finish
  · exact ⟨g.cells, readCodes_render g, g.legalMatrix_cells.length_rows,
      g.legalMatrix_cells.length_row, read_render g⟩

/-- A display and the one that is turned by a right angle differ in every text, also where the
symbol of their one colour is empty. -/
theorem render_identifies_turned :
    let symbols : Color → Option String := fun
      | .red => some ""
      | .green => some "ab"
      | .cyan => some "#"
    let g := fill 2 3 (by decide) (by decide) .red
    let h := fill 3 2 (by decide) (by decide) .red
    Distinguishing symbols ∧ g.render ≠ h.render ∧
      (∃ s t, g.renderWith symbols = .ok s ∧ h.renderWith symbols = .ok t ∧ s ≠ t) ∧
      ∃ rows, readCodes g.render = .ok rows ∧ rows.length = 3 ∧ [1, 1] ∈ rows ∧
        [1, 1].length = g.width ∧ read g.render = .ok (some g) := by
  intro symbols g h
  have hs : Distinguishing symbols := by
    refine ⟨fun c => by cases c <;> rfl, fun c d hcd => ?_, fun c s hcs => ?_⟩
    · cases c <;> cases d <;> simp [symbols] at hcd ⊢
    · cases c <;> obtain rfl := Option.some.inj hcs <;> decide
  have hne : g ≠ h := fun hgh => absurd (congrArg width hgh) (by decide)
  obtain ⟨htfae, hsymbols, hread⟩ := render_identifies
  obtain ⟨s, t, hgs, hht, hst⟩ := hsymbols symbols hs g h
  obtain ⟨rows, hrows, hheight, hwidth, hback⟩ := hread g
  have hmem : [1, 1] ∈ rows := by
    obtain rfl := Except.ok.inj (hrows.symm.trans (readCodes_render g))
    decide
  exact ⟨hs, fun htext => hne (((htfae g h).out 2 0).mp htext),
    ⟨s, t, hgs, hht, fun heq => hne (hst.mp heq)⟩,
    rows, hrows, hheight, hmem, hwidth _ hmem, hback⟩

end Mosaic.Grid
