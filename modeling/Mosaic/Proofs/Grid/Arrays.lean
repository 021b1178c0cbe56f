import Mathlib.Data.List.Basic
import Mathlib.Order.Bounds.Basic
import Mosaic.Proofs.Failure
import Mosaic.Grid
import Mosaic.Picture
import Mosaic.Proofs.Grid.Store

/-!
# Which arrays are grids

A nested list is told by the array that it writes, since an array of one shape can be cut into its
parts again (`eq_of_array?`). So what the constructor does with an array is a statement about lists:
it accepts those that are the cells of a grid, and hands back this grid. Everything else is `Unfit`,
for one of three reasons that are tried in order.
-/

namespace Mosaic

/-! ## Arrays side by side -/

namespace CellArray

variable {a b : CellArray} {parts others : List CellArray} {shape : List Nat}

/-- An array is its shape and its entries. -/
theorem eq_of_shape_entries (hshape : a.shape = b.shape) (hentries : a.entries = b.entries) :
    a = b := by
  obtain ⟨shape, entries, _⟩ := a
  obtain ⟨shape', entries', _⟩ := b
  obtain rfl : shape = shape' := hshape
  obtain rfl : entries = entries' := hentries
  rfl

/-- Parts of one shape have as many entries each. -/
theorem map_length_entries (h : ∀ p ∈ parts, p.shape = shape) :
    (parts.map (·.entries)).map List.length =
      List.replicate parts.length (shape.foldr (· * ·) 1) := by
  refine List.eq_replicate_iff.mpr ⟨by simp, fun n hn => ?_⟩
  obtain ⟨entries, hentries, rfl⟩ := List.mem_map.mp hn
  obtain ⟨p, hp, rfl⟩ := List.mem_map.mp hentries
  rw [p.length_entries, h p hp]

theorem length_flatMap_entries (h : ∀ p ∈ parts, p.shape = shape) :
    (parts.flatMap (·.entries)).length = (parts.length :: shape).foldr (· * ·) 1 := by
  rw [List.flatMap_def, List.length_flatten, map_length_entries h, List.sum_replicate_nat,
    List.foldr_cons]

/-- Some arrays stand side by side exactly if they have one shape. -/
theorem stack?_eq_some_iff (hne : parts ≠ []) :
    stack? parts = some a ↔ ∃ shape, (∀ p ∈ parts, p.shape = shape) ∧
      a.shape = parts.length :: shape ∧ a.entries = parts.flatMap (·.entries) := by
  obtain ⟨p, rest, rfl⟩ := List.exists_cons_of_ne_nil hne
  constructor
  · intro h
    rw [stack?, if_neg (by simp)] at h
    split at h
    next hregular =>
      obtain rfl := Option.some.inj h
      have hshape := fun q hq => of_decide_eq_true (List.all_eq_true.mp hregular.1 q hq)
      exact ⟨p.shape, hshape, rfl, rfl⟩
    next => cases h
  · rintro ⟨shape, hshape, hashape, haentries⟩
    obtain rfl : p.shape = shape := hshape p List.mem_cons_self
    rw [stack?, if_neg (by simp),
      dif_pos ⟨List.all_eq_true.mpr fun q hq => decide_eq_true (hshape q hq),
        length_flatMap_entries hshape⟩]
    exact congrArg some (eq_of_shape_entries hashape.symm haentries.symm)

/-- The first dimension counts what stands side by side. -/
theorem head?_shape_of_stack? (h : stack? parts = some a) : a.shape.head? = some parts.length := by
  by_cases hne : parts = []
  · subst hne
    obtain rfl := Option.some.inj h
    rfl
  · obtain ⟨shape, -, hshape, -⟩ := (stack?_eq_some_iff hne).mp h
    rw [hshape, List.head?_cons]

/-- What stands side by side can be told from the whole. -/
theorem stack?_injective (hparts : stack? parts = some a) (hothers : stack? others = some a) :
    parts = others := by
  have hlength : parts.length = others.length := Option.some.inj
    ((head?_shape_of_stack? hparts).symm.trans (head?_shape_of_stack? hothers))
  by_cases hne : parts = []
  · subst hne
    exact (List.eq_nil_of_length_eq_zero hlength.symm).symm
  · have hne' : others ≠ [] := by
      rintro rfl
      exact hne (List.eq_nil_of_length_eq_zero hlength)
    obtain ⟨shape, hall, hshape, hentries⟩ := (stack?_eq_some_iff hne).mp hparts
    obtain ⟨shape', hall', hshape', hentries'⟩ := (stack?_eq_some_iff hne').mp hothers
    obtain ⟨-, rfl⟩ := List.cons.inj (hshape.symm.trans hshape')
    -- The entries of the whole are cut at the same places on both sides.
    have hmap : parts.map (·.entries) = others.map (·.entries) := by
      refine List.eq_iff_flatten_eq.mpr ⟨?_, ?_⟩
      · rw [← List.flatMap_def, ← List.flatMap_def, ← hentries, hentries']
      · rw [map_length_entries hall, map_length_entries hall', hlength]
    refine List.ext_getElem hlength fun i hi hi' => eq_of_shape_entries ?_ ?_
    · rw [hall _ (List.getElem_mem hi), hall' _ (List.getElem_mem hi')]
    · have hentry := congrArg (·[i]?) hmap
      simpa [hi, hi'] using hentry

/-- A row of codes as an array of one dimension. -/
def row (codes : List Nat) : CellArray := ⟨[codes.length], codes.map Int.ofNat, by simp⟩

/-- Numbers side by side are a row. -/
theorem stack?_scalar {codes : List Nat} (hne : codes ≠ []) :
    stack? (codes.map fun (code : Nat) => scalar code) = some (row codes) := by
  refine (stack?_eq_some_iff (by simpa using hne)).mpr ⟨[], ?_, by simp [row], ?_⟩
  · intro p hp
    obtain ⟨code, -, rfl⟩ := List.mem_map.mp hp
    rfl
  · rw [List.flatMap_map]
    exact List.map_eq_flatMap

/-- The rows of a grid side by side are the array of the grid. -/
theorem stack?_rows (g : Grid) : stack? (g.cells.map row) = some g.toCellArray := by
  refine (stack?_eq_some_iff (by simpa using g.cells_ne_nil)).mpr ⟨[g.width], ?_, ?_, ?_⟩
  · intro p hp
    obtain ⟨codes, hcodes, rfl⟩ := List.mem_map.mp hp
    change [codes.length] = [g.width]
    rw [g.legalMatrix_cells.length_row codes hcodes]
  · change [g.height, g.width] = [(g.cells.map row).length, g.width]
    rw [List.length_map, g.legalMatrix_cells.length_rows]
  · change g.cells.flatten.map Int.ofNat = _
    rw [List.flatMap_map, List.map_flatten]
    rfl

/-- The cells of a grid, put together row by row, are the array of the grid. -/
theorem ofRows?_cells (g : Grid) : ofRows? g.cells = some g.toCellArray := by
  have hrows : (g.cells.mapM fun codes => stack? (codes.map fun (code : Nat) => scalar code)) =
      some (g.cells.map row) :=
    mapM_eq_pure_map fun codes hcodes => stack?_scalar (Grid.ne_nil_of_mem_cells hcodes)
  rw [ofRows?, hrows]
  exact stack?_rows g

end CellArray

/-! ## Nested lists -/

namespace Nested

open CellArray

theorem arrays?_map {α : Type} {f : α → Nested} {k : α → CellArray} {l : List α}
    (h : ∀ x ∈ l, array? (f x) = some (k x)) : arrays? (l.map f) = some (l.map k) := by
  induction l with
  | nil => rfl
  | cons x l ih =>
    obtain ⟨hx, hl⟩ := List.forall_mem_cons.mp h
    rw [List.map_cons, arrays?, hx, ih hl]
    rfl

/-- The cells of a grid as a nested list write the array of the grid. -/
theorem array?_matrix (g : Grid) : (matrix g.cells).array? = some g.toCellArray := by
  -- The array is put together from the inside: numbers to rows, and rows to the whole.
  have hrow : ∀ codes ∈ g.cells,
      (list (codes.map fun (code : Nat) => number code)).array? = some (row codes) := by
    intro codes hcodes
    have hcodes' : arrays? (codes.map fun (code : Nat) => number code) =
        some (codes.map fun (code : Nat) => scalar code) := arrays?_map fun _ _ => rfl
    rw [array?, hcodes', Option.bind_some, stack?_scalar (Grid.ne_nil_of_mem_cells hcodes)]
  rw [matrix, array?, arrays?_map hrow, Option.bind_some, stack?_rows]

mutual

/-- A regular nested list is told by its array. -/
theorem eq_of_array? {l l' : Nested} {a : CellArray} (h : l.array? = some a)
    (h' : l'.array? = some a) : l = l' := by
  match l, l' with
  | number n, number n' =>
    have hentries := congrArg (·.map entries) (h.trans h'.symm)
    simpa [array?, scalar] using hentries
  | list parts, list parts' =>
    obtain ⟨as, has, hstack⟩ := Option.bind_eq_some_iff.mp h
    obtain ⟨as', has', hstack'⟩ := Option.bind_eq_some_iff.mp h'
    obtain rfl := stack?_injective hstack hstack'
    rw [eq_of_arrays? has has']
  | number n, list parts =>
    obtain ⟨as, -, hstack⟩ := Option.bind_eq_some_iff.mp h'
    obtain rfl := Option.some.inj h
    cases head?_shape_of_stack? hstack
  | list parts, number n =>
    obtain ⟨as, -, hstack⟩ := Option.bind_eq_some_iff.mp h
    obtain rfl := Option.some.inj h'
    cases head?_shape_of_stack? hstack

theorem eq_of_arrays? {ls ls' : List Nested} {as : List CellArray} (h : arrays? ls = some as)
    (h' : arrays? ls' = some as) : ls = ls' := by
  match ls, ls', as with
  | [], [], _ => rfl
  | l :: ls, l' :: ls', _ =>
    obtain ⟨a, ha, hmap⟩ := Option.bind_eq_some_iff.mp h
    obtain ⟨a', ha', hmap'⟩ := Option.bind_eq_some_iff.mp h'
    obtain ⟨as, has, rfl⟩ := Option.map_eq_some_iff.mp hmap
    obtain ⟨as', has', heq⟩ := Option.map_eq_some_iff.mp hmap'
    obtain ⟨rfl, rfl⟩ := List.cons.inj heq
    rw [eq_of_array? ha ha', eq_of_arrays? has has']
  | [], l' :: ls', _ =>
    obtain rfl := Option.some.inj h
    obtain ⟨a, -, hmap⟩ := Option.bind_eq_some_iff.mp h'
    obtain ⟨as, -, heq⟩ := Option.map_eq_some_iff.mp hmap
    cases heq
  | l :: ls, [], _ =>
    obtain rfl := Option.some.inj h'
    obtain ⟨a, -, hmap⟩ := Option.bind_eq_some_iff.mp h
    obtain ⟨as, -, heq⟩ := Option.map_eq_some_iff.mp hmap
    cases heq

end

end Nested

namespace Grid

variable {a : CellArray} {g : Grid} {e : Failure}

/-! ## What is accepted -/

/-- Grids are built from the matrices of legal codes that have a row and a column. -/
theorem exists_ofCells_iff :
    (∃ g, ofCells a = .ok g) ↔ ∃ height width, a.shape = [height, width] ∧ 0 < height ∧
      0 < width ∧ ∀ n ∈ a.entries, Color.IsLegal n := by
  constructor
  · rintro ⟨g, hg⟩
    obtain ⟨hshape, hlegal, -⟩ := ofCells_eq_ok_iff.mp hg
    exact ⟨g.height, g.width, hshape, g.height_pos, g.width_pos, hlegal⟩
  · rintro ⟨height, width, hshape, hh, hw, hlegal⟩
    rcases ofCells_cases a with ⟨g, hg, -⟩ | ⟨e, -, hrefused⟩
    · exact ⟨g, hg⟩
    · exact absurd hlegal (hrefused width height hshape hw hh)

/-- The array that a grid is built from is the array of its cells. -/
theorem toCellArray_of_ofCells (h : ofCells a = .ok g) : g.toCellArray = a := by
  obtain ⟨hshape, hlegal, hrows⟩ := ofCells_eq_ok_iff.mp h
  have hlength : a.entries.length = g.height * g.width := by
    rw [a.length_entries, hshape]
    simp
  have hback : ∀ row ∈ planeRows g.width g.height a.entries,
      (row.map legalColor).map (fun c => (c.code : Int)) = row := by
    intro row hrow
    rw [List.map_map]
    exact (List.map_congr_left fun n hn =>
      code_legalColor (hlegal n (mem_of_mem_planeRows hrow hn))).trans (List.map_id row)
  -- Both lists of entries give the same rows when they are cut, and so they are one.
  have hcut : planeRows g.width g.height g.toCellArray.entries =
      planeRows g.width g.height a.entries := by
    rw [planeRows_toCellArray, hrows, List.map_map]
    exact (List.map_congr_left hback).trans (List.map_id _)
  refine CellArray.eq_of_shape_entries hshape.symm ?_
  have hlength' : g.toCellArray.entries.length = g.height * g.width := by
    rw [g.toCellArray.length_entries]
    simp [toCellArray]
  rw [← flatten_planeRows hlength', hcut, flatten_planeRows hlength]

/-- A nested list is built into the grid whose cells it writes, and into no other. -/
theorem ofCells_eq_ok_iff_matrix {l : Nested} (ha : l.array? = some a) :
    ofCells a = .ok g ↔ l = .matrix g.cells := by
  constructor
  · intro h
    refine Nested.eq_of_array? ha ?_
    rw [Nested.array?_matrix, toCellArray_of_ofCells h]
  · rintro rfl
    obtain rfl := Option.some.inj ((Nested.array?_matrix g).symm.trans ha)
    exact g.copy_eq

/-! ## What is refused -/

/-- Why an array is no grid: it has not two dimensions, or one of its sides is empty, or some entry
is no code, and then the least such entry counts. -/
inductive Unfit (a : CellArray) : Failure → Prop
  | rank (h : a.rank ≠ 2) : Unfit a (.notPlanar a.rank)
  | side {width height : Nat} (hshape : a.shape = [height, width]) (h : width = 0 ∨ height = 0) :
      Unfit a (.fault (.invalidDimensions width height none))
  | entry {width height : Nat} {code : Int} (hshape : a.shape = [height, width])
      (hw : 0 < width) (hh : 0 < height)
      (hcode : IsLeast {n | n ∈ a.entries ∧ ¬ Color.IsLegal n} code) :
      Unfit a (.fault (.invalidColor code))

theorem leastIllegal?_eq_some_iff {entries : List Int} {code : Int} :
    leastIllegal? entries = some code ↔
      IsLeast {n | n ∈ entries ∧ ¬ Color.IsLegal n} code := by
  rw [leastIllegal?, List.min?_eq_some_iff, IsLeast, mem_lowerBounds]
  simp only [List.mem_filter, decide_eq_true_eq, Set.mem_ofPred_eq]

/-- An unfit array is refused, and for the reason that makes it unfit. -/
theorem ofCells_of_unfit (h : Unfit a e) : ofCells a = .error e := by
  obtain ⟨shape, entries, hlength⟩ := a
  -- Each defect is found by the check for it, since the checks before it pass.
  cases h with
  | rank hrank =>
    unfold ofCells
    split
    next hshape => exact absurd (congrArg List.length hshape) hrank
    next => rfl
  | side hshape hside =>
    obtain rfl : shape = _ := hshape
    exact dif_neg (by omega)
  | entry hshape hw hh hcode =>
    obtain rfl : shape = _ := hshape
    have hleast := leastIllegal?_eq_some_iff.mpr hcode
    refine (dif_pos ⟨hw, hh⟩).trans ?_
    split
    next code' hcode' => rw [Option.some.inj (hcode'.symm.trans hleast)]
    next hnone => cases hnone.symm.trans hleast

/-- An array can be built into a grid, or it is unfit. -/
theorem exists_ofCells_or_unfit (a : CellArray) : (∃ g, ofCells a = .ok g) ∨ ∃ e, Unfit a e := by
  by_cases hrank : a.rank = 2
  · obtain ⟨height, width, hshape⟩ := List.length_eq_two.mp hrank
    by_cases hside : width = 0 ∨ height = 0
    · exact .inr ⟨_, .side hshape hside⟩
    · have hw : 0 < width := by omega
      have hh : 0 < height := by omega
      cases hleast : leastIllegal? a.entries with
      | none => exact .inl (exists_ofCells_iff.mpr
          ⟨height, width, hshape, hh, hw, leastIllegal?_eq_none_iff.mp hleast⟩)
      | some code => exact .inr ⟨_, .entry hshape hw hh (leastIllegal?_eq_some_iff.mp hleast)⟩
  · exact .inr ⟨_, .rank hrank⟩

/-- The constructor fails exactly with the reason that makes an array unfit. -/
theorem ofCells_eq_error_iff : ofCells a = .error e ↔ Unfit a e := by
  refine ⟨fun h => ?_, ofCells_of_unfit⟩
  rcases exists_ofCells_or_unfit a with ⟨g, hg⟩ | ⟨e', he'⟩
  · rw [h] at hg
    cases hg
  · rw [ofCells_of_unfit he'] at h
    exact Except.error.inj h ▸ he'

/-- **The constructor accepts exactly the matrices of legal codes, and keeps them.** A nested list
of numbers is built into a grid if and only if it has two dimensions, a row and a column, and holds
the codes of colours only. The list is then the matrix of the cells of that grid, so a byte has kept
every number, and the cells of any grid are built into this grid again. Any other list is refused:
for its number of dimensions, else for an empty side, else for its least illegal entry. -/
theorem ofCells_exactly_matrices :
    (∀ (l : Nested) (a : CellArray), l.array? = some a →
      ((∃ g, ofCells a = .ok g) ↔ ∃ height width, a.shape = [height, width] ∧
        0 < height ∧ 0 < width ∧ ∀ n ∈ a.entries, n = 1 ∨ n = 2 ∨ n = 3) ∧
      (∀ g, ofCells a = .ok g ↔ l = .matrix g.cells) ∧
      (∀ g, ofCells a = .ok g → ∀ n ∈ a.entries, ((UInt8.ofInt n).toNat : Int) = n) ∧
      ∀ e, ofCells a = .error e ↔ Unfit a e) ∧
    ∀ g : Grid, (Nested.matrix g.cells).array? = some g.toCellArray ∧
      ofCells g.toCellArray = .ok g := by
  refine ⟨fun l a ha => ⟨?_, fun g => ofCells_eq_ok_iff_matrix ha, fun g hg n hn => ?_,
    fun e => ofCells_eq_error_iff⟩, fun g => ⟨Nested.array?_matrix g, g.copy_eq⟩⟩
  · simp only [exists_ofCells_iff, Color.isLegal_iff]
  · exact toNat_ofInt_of_isLegal ((ofCells_eq_ok_iff.mp hg).2.1 n hn)

/-- Entries that a byte would turn into legal codes are refused, the least one first; without them
the matrix is kept. -/
theorem ofCells_exactly_matrices_wrapping :
    let bad : Nested :=
      .list [.list [.number 1, .number 257, .number 2],
        .list [.number (-255), .number 3, .number 4]]
    let good : Nested :=
      .list [.list [.number 1, .number 1, .number 2], .list [.number 1, .number 3, .number 3]]
    (∃ a, bad.array? = some a ∧ ofCells a = .error (.fault (.invalidColor (-255)))) ∧
      ∃ a g, good.array? = some a ∧ ofCells a = .ok g ∧ good = .matrix g.cells ∧
        3 ∈ a.entries ∧ ((UInt8.ofInt 3).toNat : Int) = 3 := by
  intro bad good
  have hbad : bad.array? = some ⟨[2, 3], [1, 257, 2, -255, 3, 4], rfl⟩ := rfl
  have hgood : good.array? = some ⟨[2, 3], [1, 1, 2, 1, 3, 3], rfl⟩ := rfl
  obtain ⟨-, -, -, herror⟩ := ofCells_exactly_matrices.1 bad _ hbad
  obtain ⟨hexists, hmatrix, hbyte, -⟩ := ofCells_exactly_matrices.1 good _ hgood
  refine ⟨⟨_, hbad, (herror _).mpr (.entry rfl (by decide) (by decide) ?_)⟩, ?_⟩
  · refine ⟨⟨by decide, by decide⟩, fun n hn => ?_⟩
    have hleast : ∀ n ∈ [1, 257, 2, -255, 3, 4], ¬ Color.IsLegal n → (-255 : Int) ≤ n := by decide
    exact hleast n hn.1 hn.2
  · obtain ⟨g, hg⟩ := hexists.mpr ⟨2, 3, rfl, by decide, by decide, by decide⟩
    exact ⟨_, g, hgood, hg, (hmatrix g).mp hg, by decide, hbyte g hg 3 (by decide)⟩

end Grid

end Mosaic
