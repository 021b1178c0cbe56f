import Mosaic.Grid
import Mosaic.Proofs.Failure

/-!
# A grid as a store of cells and as a matrix of codes

`put` is pinned down by what `colorAt?` shows afterwards: the new colour in the one cell, everything
else as before. `set` is `put` behind two checks, and `legalColor` names the colour that passes the
second one.

A grid is a matrix of legal codes with at least one row and one column, and every such matrix is a
grid. `LegalMatrix` says this of the codes that `cells` shows. A grid that is built from an array
holds the entries of the array cut into rows, and since the cells of a grid cut into rows are its
rows, a copy is the grid that was copied.
-/

namespace Mosaic

/-! ## Cutting entries into rows -/

theorem planeRows_succ (width height : Nat) (entries : List Int) :
    planeRows width (height + 1) entries =
      entries.take width :: planeRows width height (entries.drop width) := by
  have hdrop : ∀ y, (entries.drop width).drop (y * width) = entries.drop ((y + 1) * width) := by
    intro y
    rw [List.drop_drop, Nat.add_comm, ← Nat.succ_mul]
  rw [planeRows, List.range_succ_eq_map, List.map_cons, List.map_map, Nat.zero_mul, List.drop_zero]
  simp only [planeRows, hdrop]
  rfl

/-- Rows of one length that were put together are cut apart again. -/
theorem planeRows_flatten {width : Nat} {rows : List (List Int)}
    (hrows : ∀ row ∈ rows, row.length = width) :
    planeRows width rows.length rows.flatten = rows := by
  induction rows with
  | nil => rfl
  | cons row rows ih =>
    obtain ⟨hrow, hrest⟩ := List.forall_mem_cons.mp hrows
    rw [List.length_cons, planeRows_succ, List.flatten_cons, List.take_left' hrow,
      List.drop_left' hrow, ih hrest]

/-- Rows that are cut from as many entries as they take are all of them. -/
theorem flatten_planeRows {width height : Nat} {entries : List Int}
    (hlength : entries.length = height * width) :
    (planeRows width height entries).flatten = entries := by
  induction height generalizing entries with
  | zero => exact (List.eq_nil_of_length_eq_zero (by rw [hlength, Nat.zero_mul])).symm
  | succ height ih =>
    have hdrop : (entries.drop width).length = height * width := by
      rw [List.length_drop, hlength, Nat.succ_mul, Nat.add_sub_cancel]
    rw [planeRows_succ, List.flatten_cons, ih hdrop, List.take_append_drop]

/-- What stands in a row was an entry. -/
theorem mem_of_mem_planeRows {width height : Nat} {entries row : List Int} {n : Int}
    (hrow : row ∈ planeRows width height entries) (hn : n ∈ row) : n ∈ entries := by
  obtain ⟨y, -, rfl⟩ := List.mem_map.mp hrow
  exact List.mem_of_mem_drop (List.mem_of_mem_take hn)

namespace Grid

variable {g : Grid} {p : Position} {code : Int}

/-! ## Cells -/

/-- After a `put` the one cell shows the new colour, if it exists, and the others what they showed.
-/
theorem colorAt?_put (g : Grid) (x y : Nat) (c : Color) (x' y' : Nat) :
    (g.put x y c).colorAt? x' y' =
      if x = x' ∧ y = y' then (g.colorAt? x' y').map fun _ => c else g.colorAt? x' y' := by
  unfold put colorAt?
  rw [List.getElem?_modify]
  by_cases hy : y = y'
  · subst hy
    cases hrow : g.rows[y]? with
    | none => simp
    | some row =>
      have hset : (row.set x c)[x']? = if x = x' then row[x']?.map fun _ => c else row[x']? :=
        List.getElem?_set'
      simpa using hset
  · simp [hy]

/-- A filled grid shows its colour in all of its cells. -/
theorem colorAt?_fill {width height x y : Nat} (hw : 0 < width) (hh : 0 < height) (c : Color)
    (hx : x < width) (hy : y < height) : (fill width height hw hh c).colorAt? x y = some c := by
  simp [fill, colorAt?, hx, hy]

/-- A `put` at a position inside replaces what this position shows. -/
theorem colorAt?_put_of_contains (hp : g.Contains p) (c : Color) (x y : Nat) :
    (g.put p.x.toNat p.y.toNat c).colorAt? x y =
      if p = ⟨x, y⟩ then some c else g.colorAt? x y := by
  rw [colorAt?_put]
  by_cases h : p = ⟨x, y⟩
  · subst h
    have hsome := colorAt?_isSome_iff.mpr ⟨hp.toNat_x_lt, hp.toNat_y_lt⟩
    obtain ⟨d, hd⟩ := Option.isSome_iff_exists.mp hsome
    rw [if_pos ⟨rfl, rfl⟩, if_pos rfl, show g.colorAt? x y = some d from hd, Option.map_some]
  · have hne : ¬ (p.x.toNat = x ∧ p.y.toNat = y) := by
      rintro ⟨rfl, rfl⟩
      obtain ⟨hx, -, hy, -⟩ := hp
      exact h (by rw [Int.toNat_of_nonneg hx, Int.toNat_of_nonneg hy])
    rw [if_neg h, if_neg hne]

/-- The check of a legal code finds its colour. -/
theorem ofCode_of_isLegal (h : Color.IsLegal code) : Color.ofCode code = .ok (legalColor code) := by
  obtain ⟨c, hc⟩ := Option.isSome_iff_exists.mp h
  rw [Color.ofCode, legalColor, hc, Option.getD_some]

/-- The check of any other code fails. -/
theorem ofCode_of_not_isLegal (h : ¬ Color.IsLegal code) :
    Color.ofCode code = .error (Fault.invalidColor code).raise := by
  rw [Color.ofCode, Option.not_isSome_iff_eq_none.mp h]

/-- The colour of a legal code has this code. -/
theorem code_legalColor (h : Color.IsLegal code) : ((legalColor code).code : Int) = code := by
  obtain ⟨c, hc⟩ := Option.isSome_iff_exists.mp h
  rw [legalColor, hc, Option.getD_some, Color.ofCode?_eq_some_iff.mp hc]

/-- The colour of a colour's code is this colour. -/
@[simp] theorem legalColor_code (c : Color) : legalColor c.code = c := by
  rw [legalColor, Color.ofCode?_code, Option.getD_some]

/-- A grid can be filled exactly if both sides are positive and the code is legal. -/
theorem create_eq_ok_iff {width height : Int} :
    create width height code = .ok g ↔ ∃ (hw : 0 < width) (hh : 0 < height), Color.IsLegal code ∧
      g = fill width.toNat height.toNat (by omega) (by omega) (legalColor code) := by
  constructor
  · intro h
    by_cases hsides : 0 < width ∧ 0 < height
    · by_cases hcode : Color.IsLegal code
      · rw [create, dif_pos hsides, ofCode_of_isLegal hcode] at h
        exact ⟨hsides.1, hsides.2, hcode, (Except.ok.inj h).symm⟩
      · rw [create, dif_pos hsides, ofCode_of_not_isLegal hcode] at h
        cases h
    · rw [create, dif_neg hsides] at h
      cases h
  · rintro ⟨hw, hh, hcode, rfl⟩
    rw [create, dif_pos ⟨hw, hh⟩, ofCode_of_isLegal hcode]
    rfl

/-- Inside the grid only the code is checked. -/
theorem set_of_contains (hp : g.Contains p) (code : Int) :
    g.set p code = (Color.ofCode code).map (g.put p.x.toNat p.y.toNat) := if_pos hp

theorem set_of_not_contains (hp : ¬ g.Contains p) (code : Int) :
    g.set p code = .error (g.outside p).raise := if_neg hp

/-- A cell can be set exactly if it is inside and the code is legal; then it is what a `put` does.
-/
theorem set_eq_ok_iff {g' : Grid} :
    g.set p code = .ok g' ↔
      g.Contains p ∧ Color.IsLegal code ∧ g' = g.put p.x.toNat p.y.toNat (legalColor code) := by
  constructor
  · intro h
    by_cases hp : g.Contains p
    · by_cases hcode : Color.IsLegal code
      · rw [set_of_contains hp, ofCode_of_isLegal hcode] at h
        exact ⟨hp, hcode, (Except.ok.inj h).symm⟩
      · rw [set_of_contains hp, ofCode_of_not_isLegal hcode] at h
        cases h
    · rw [set_of_not_contains hp] at h
      cases h
  · rintro ⟨hp, hcode, rfl⟩
    rw [set_of_contains hp, ofCode_of_isLegal hcode]
    rfl

/-- Inside the grid the code of a colour can be set. -/
theorem set_code (hp : g.Contains p) (c : Color) :
    g.set p c.code = .ok (g.put p.x.toNat p.y.toNat c) :=
  set_eq_ok_iff.mpr ⟨hp, c.isLegal_code, by rw [legalColor_code]⟩

/-- The colour at a position is what the cell there shows. -/
theorem get_eq_ok_iff {c : Color} :
    g.get p = .ok c ↔ g.Contains p ∧ g.colorAt? p.x.toNat p.y.toNat = some c := by
  unfold get colorAt
  by_cases hp : g.Contains p
  · rw [dif_pos hp, Except.ok.injEq, Option.eq_some_iff_get_eq]
    exact ⟨fun h => ⟨hp, _, h⟩, fun ⟨_, _, h⟩ => h⟩
  · rw [dif_neg hp]
    exact ⟨nofun, fun h => absurd h.1 hp⟩

theorem get_natCast_eq_ok_iff {x y : Nat} {c : Color} :
    g.get ⟨x, y⟩ = .ok c ↔ g.colorAt? x y = some c := by
  rw [get_eq_ok_iff]
  refine ⟨And.right, fun h => ⟨Position.inside_natCast.mpr ?_, h⟩⟩
  exact colorAt?_isSome_iff.mp (Option.isSome_of_eq_some h)

/-- Every position inside has a colour. -/
theorem exists_get_eq_ok (hp : g.Contains p) : ∃ c, g.get p = .ok c := ⟨_, dif_pos hp⟩

theorem get_of_not_contains (hp : ¬ g.Contains p) : g.get p = .error (g.outside p).raise :=
  dif_neg hp

/-- After a `put` at a position inside, `get` finds the new colour there, and elsewhere what it
found. -/
theorem get_put (hp : g.Contains p) (c : Color) (q : Position) :
    (g.put p.x.toNat p.y.toNat c).get q = if q = p then .ok c else g.get q := by
  -- Inside the cell at `q` decides; outside nothing is found, before and afterwards.
  by_cases hq : g.Contains q
  · have hcell := colorAt?_put_of_contains hp c q.x.toNat q.y.toNat
    rw [Int.toNat_of_nonneg hq.1, Int.toNat_of_nonneg hq.2.2.1] at hcell
    have hfound : ∀ d, (g.put p.x.toNat p.y.toNat c).colorAt? q.x.toNat q.y.toNat = some d →
        (g.put p.x.toNat p.y.toNat c).get q = .ok d :=
      fun d hd => get_eq_ok_iff.mpr ⟨hq, hd⟩
    by_cases hpq : p = q
    · rw [if_pos hpq] at hcell
      rw [if_pos hpq.symm, hfound c hcell]
    · obtain ⟨d, hd⟩ := exists_get_eq_ok hq
      rw [if_neg hpq, (get_eq_ok_iff.mp hd).2] at hcell
      rw [if_neg (Ne.symm hpq), hd, hfound d hcell]
  · have hpq : q ≠ p := fun h => hq (h ▸ hp)
    rw [if_neg hpq, get_of_not_contains hq]
    exact get_of_not_contains hq

/-! ## One view, one grid -/

/-- A grid is its size and its rows. -/
theorem eq_of_rows {g h : Grid} (hwidth : g.width = h.width) (hheight : g.height = h.height)
    (hrows : g.rows = h.rows) : g = h := by
  obtain ⟨width, height, rows⟩ := g
  obtain ⟨width', height', rows'⟩ := h
  obtain rfl : width = width' := hwidth
  obtain rfl : height = height' := hheight
  obtain rfl : rows = rows' := hrows
  rfl

/-- Grids of one size that show the same everywhere are one grid. -/
theorem eq_of_colorAt? {g h : Grid} (hwidth : g.width = h.width) (hheight : g.height = h.height)
    (hcells : ∀ x y, g.colorAt? x y = h.colorAt? x y) : g = h := by
  refine eq_of_rows hwidth hheight ?_
  refine List.ext_getElem (by rw [g.length_rows, h.length_rows, hheight]) fun y hy hy' => ?_
  refine List.ext_getElem? fun x => ?_
  have hcell := hcells x y
  rwa [colorAt?, colorAt?, List.getElem?_eq_getElem hy, List.getElem?_eq_getElem hy'] at hcell

/-- Grids of one size that show the same in their cells are one grid. -/
theorem eq_of_colorAt?_inside {g h : Grid} (hwidth : g.width = h.width)
    (hheight : g.height = h.height)
    (hcells : ∀ x y, x < g.width → y < g.height → g.colorAt? x y = h.colorAt? x y) : g = h := by
  refine eq_of_colorAt? hwidth hheight fun x y => ?_
  by_cases hinside : x < g.width ∧ y < g.height
  · exact hcells x y hinside.1 hinside.2
  · have hg : ¬ (g.colorAt? x y).isSome := by rwa [colorAt?_isSome_iff]
    have hh : ¬ (h.colorAt? x y).isSome := by rwa [colorAt?_isSome_iff, ← hwidth, ← hheight]
    rw [Option.not_isSome_iff_eq_none.mp hg, Option.not_isSome_iff_eq_none.mp hh]

/-- Grids of one size are one if `get` finds the same colours in their cells. -/
theorem eq_of_get {g h : Grid} (hwidth : g.width = h.width) (hheight : g.height = h.height)
    (hget : ∀ p, g.Contains p → g.get p = h.get p) : g = h := by
  refine eq_of_colorAt?_inside hwidth hheight fun x y hx hy => ?_
  obtain ⟨c, hc⟩ := Option.isSome_iff_exists.mp (colorAt?_isSome_iff.mpr ⟨hx, hy⟩)
  have hfound := get_natCast_eq_ok_iff.mpr hc
  rw [hget ⟨x, y⟩ (Position.inside_natCast.mpr ⟨hx, hy⟩)] at hfound
  rw [hc, get_natCast_eq_ok_iff.mp hfound]

variable {width height : Nat} {rows : List (List Nat)}

/-! ## Matrices of codes -/

/-- The rows are `height` many, each of `width` legal codes. -/
structure LegalMatrix (width height : Nat) (rows : List (List Nat)) : Prop where
  length_rows : rows.length = height
  length_row : ∀ row ∈ rows, row.length = width
  code : ∀ row ∈ rows, ∀ code ∈ row, code = 1 ∨ code = 2 ∨ code = 3

/-- The cells of a grid are a matrix of legal codes. -/
theorem legalMatrix_cells (g : Grid) : LegalMatrix g.width g.height g.cells where
  length_rows := by rw [cells, List.length_map, g.length_rows]
  length_row := by
    intro codes hcodes
    obtain ⟨row, hrow, rfl⟩ := List.mem_map.mp hcodes
    rw [List.length_map, g.length_row row hrow]
  code := by
    intro codes hcodes code hcode
    obtain ⟨row, -, rfl⟩ := List.mem_map.mp hcodes
    obtain ⟨c, -, rfl⟩ := List.mem_map.mp hcode
    cases c <;> decide

theorem cells_ne_nil (g : Grid) : g.cells ≠ [] :=
  List.ne_nil_of_length_pos (g.legalMatrix_cells.length_rows ▸ g.height_pos)

theorem ne_nil_of_mem_cells {codes : List Nat} (h : codes ∈ g.cells) : codes ≠ [] :=
  List.ne_nil_of_length_pos (g.legalMatrix_cells.length_row codes h ▸ g.width_pos)

theorem LegalMatrix.isLegal {row : List Nat} {code : Nat} (h : LegalMatrix width height rows)
    (hrow : row ∈ rows) (hcode : code ∈ row) : Color.IsLegal code := by
  have hcases := h.code row hrow code hcode
  exact Color.isLegal_iff.mpr (by omega)

/-- The grid with a matrix of legal codes as its cells. -/
def ofMatrix (hw : 0 < width) (hh : 0 < height) (h : LegalMatrix width height rows) : Grid where
  width := width
  height := height
  rows := rows.map (·.map fun (code : Nat) => legalColor code)
  width_pos := hw
  height_pos := hh
  length_rows := by rw [List.length_map, h.length_rows]
  length_row := by
    intro row hrow
    obtain ⟨codes, hcodes, rfl⟩ := List.mem_map.mp hrow
    rw [List.length_map, h.length_row codes hcodes]

@[simp] theorem cells_ofMatrix (hw : 0 < width) (hh : 0 < height)
    (h : LegalMatrix width height rows) : (ofMatrix hw hh h).cells = rows := by
  have hcode : ∀ row ∈ rows, ∀ code ∈ row, (legalColor (code : Int)).code = code := by
    intro row hrow code hcode
    exact Int.ofNat.inj (code_legalColor (h.isLegal hrow hcode))
  have hback : ∀ row ∈ rows,
      (row.map fun (code : Nat) => legalColor code).map Color.code = row := by
    intro row hrow
    rw [List.map_map]
    exact (List.map_congr_left (hcode row hrow)).trans (List.map_id row)
  rw [cells, ofMatrix, List.map_map]
  exact (List.map_congr_left hback).trans (List.map_id rows)

/-! ## Building from an array -/

/-- No entry is the least illegal one exactly if all are legal. -/
theorem leastIllegal?_eq_none_iff {entries : List Int} :
    leastIllegal? entries = none ↔ ∀ n ∈ entries, Color.IsLegal n := by
  rw [leastIllegal?, List.min?_eq_none_iff, List.filter_eq_nil_iff]
  simp

/-- A byte keeps a legal code as it is. -/
theorem toNat_ofInt_of_isLegal {n : Int} (hn : Color.IsLegal n) :
    ((UInt8.ofInt n).toNat : Int) = n := by
  rcases Color.isLegal_iff.mp hn with rfl | rfl | rfl <;> rfl

/-- A cell that is given a legal code gets the colour of this code. -/
theorem storedColor_of_isLegal {n : Int} (hn : Color.IsLegal n) : storedColor n = legalColor n := by
  rw [storedColor, toNat_ofInt_of_isLegal hn]

/-- Legal entries are stored as the colours of their codes. -/
theorem map_storedColor_planeRows {entries : List Int} (h : ∀ n ∈ entries, Color.IsLegal n) :
    (planeRows width height entries).map (·.map storedColor) =
      (planeRows width height entries).map (·.map legalColor) :=
  List.map_congr_left fun _ hrow => List.map_congr_left fun n hn =>
    storedColor_of_isLegal (h n (mem_of_mem_planeRows hrow hn))

/-- An array is read as a grid that holds its entries, cut into rows, or it is refused for want of a
shape or of legal entries. -/
theorem ofCells_cases (a : CellArray) :
    (∃ g, ofCells a = .ok g ∧ a.shape = [g.height, g.width] ∧
      (∀ n ∈ a.entries, Color.IsLegal n) ∧
      g.rows = (planeRows g.width g.height a.entries).map (·.map legalColor)) ∨
    ∃ e, ofCells a = .error e ∧ ∀ width height, a.shape = [height, width] → 0 < width →
      0 < height → ¬ ∀ n ∈ a.entries, Color.IsLegal n := by
  -- The checks are of the number of dimensions, then of the sides, then of the entries.
  unfold ofCells
  split
  next height width hshape =>
    by_cases hsides : 0 < width ∧ 0 < height
    · rw [dif_pos hsides]
      split
      next code hleast =>
        refine .inr ⟨_, rfl, fun _ _ _ _ _ hlegal => ?_⟩
        rw [leastIllegal?_eq_none_iff.mpr hlegal] at hleast
        cases hleast
      next hleast =>
        have hlegal := leastIllegal?_eq_none_iff.mp hleast
        exact .inl ⟨_, rfl, hshape, hlegal, map_storedColor_planeRows hlegal⟩
    · refine .inr ⟨_, dif_neg hsides, fun width' height' hshape' hw hh => ?_⟩
      obtain ⟨rfl, rfl⟩ : height = height' ∧ width = width' := by simpa [hshape] using hshape'
      exact absurd ⟨hw, hh⟩ hsides
  next hother =>
    exact .inr ⟨_, rfl, fun width height hshape => absurd hshape (hother height width)⟩

/-- An array is accepted exactly if it has two dimensions, no empty side and legal entries only; the
grid then holds the entries, cut into rows. -/
theorem ofCells_eq_ok_iff {a : CellArray} :
    ofCells a = .ok g ↔ a.shape = [g.height, g.width] ∧ (∀ n ∈ a.entries, Color.IsLegal n) ∧
      g.rows = (planeRows g.width g.height a.entries).map (·.map legalColor) := by
  rcases ofCells_cases a with ⟨g', hok, hshape', hlegal', hrows'⟩ | ⟨e, herror, hrefused⟩
  · constructor
    · intro h
      obtain rfl := Except.ok.inj (hok.symm.trans h)
      exact ⟨hshape', hlegal', hrows'⟩
    · rintro ⟨hshape, -, hrows⟩
      obtain ⟨hheight, hwidth⟩ : g'.height = g.height ∧ g'.width = g.width := by
        simpa [hshape'] using hshape
      rw [hwidth, hheight, ← hrows] at hrows'
      exact hok.trans (congrArg Except.ok (eq_of_rows hwidth hheight hrows'))
  · constructor
    · intro h
      cases herror.symm.trans h
    · rintro ⟨hshape, hlegal, -⟩
      exact absurd hlegal (hrefused g.width g.height hshape g.width_pos g.height_pos)

/-- The cells of a grid hold legal codes only. -/
theorem isLegal_of_mem_toCellArray {n : Int} (hn : n ∈ g.toCellArray.entries) :
    Color.IsLegal n := by
  obtain ⟨code, hcode, rfl⟩ := List.mem_map.mp hn
  obtain ⟨codes, hcodes, hmem⟩ := List.mem_flatten.mp hcode
  exact g.legalMatrix_cells.isLegal hcodes hmem

/-- Cut into rows again, the codes of a grid stand as its cells do. -/
theorem planeRows_toCellArray (g : Grid) :
    planeRows g.width g.height g.toCellArray.entries =
      g.rows.map (·.map fun c => (c.code : Int)) := by
  have hentries : g.toCellArray.entries = (g.rows.map (·.map fun c => (c.code : Int))).flatten := by
    change g.cells.flatten.map Int.ofNat = _
    rw [cells, List.map_flatten, List.map_map]
    simp only [Function.comp_def, List.map_map, Int.ofNat_eq_natCast]
  have hlength : (g.rows.map (·.map fun c => (c.code : Int))).length = g.height := by
    rw [List.length_map, g.length_rows]
  rw [hentries, ← hlength]
  refine planeRows_flatten fun row hrow => ?_
  obtain ⟨colors, hcolors, rfl⟩ := List.mem_map.mp hrow
  rw [List.length_map, g.length_row colors hcolors]

/-- A copy of a grid is the grid. -/
theorem copy_eq (g : Grid) : g.copy = .ok g := by
  have hrow : ∀ row ∈ g.rows, (row.map fun c => (c.code : Int)).map legalColor = row := by
    intro row _
    rw [List.map_map]
    exact (List.map_congr_left fun c _ => legalColor_code c).trans (List.map_id row)
  refine ofCells_eq_ok_iff.mpr ⟨rfl, fun n hn => isLegal_of_mem_toCellArray hn, ?_⟩
  rw [planeRows_toCellArray, List.map_map]
  exact ((List.map_congr_left hrow).trans (List.map_id g.rows)).symm

end Grid

end Mosaic
