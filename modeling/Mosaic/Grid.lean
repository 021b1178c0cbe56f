import Mosaic.Failure

/-!
# Grids

A grid is a rectangle of coloured cells with at least one row and one column; the type carries both
facts. `colorAt?` is the view through which the operations are described: `put` changes it at one
place and nowhere else, and `set` and `get` are `put` and the view behind the checks that arbitrary
integers need.

A `CellArray` is a regular array of integers of any rank: its shape, and its entries in row-major
order. `Grid.ofCells` accepts exactly the two-dimensional ones without an empty side whose entries
are legal codes, and keeps every entry where it is, as a byte. The cells of a grid form such an
array again, so a grid is copied by building it anew from its cells. An array is written as a nested
list (`Nested.array?`).
-/

namespace Mosaic

/-- A rectangle of coloured cells, row by row from the top. -/
structure Grid where
  width : Nat
  height : Nat
  rows : List (List Color)
  width_pos : 0 < width
  height_pos : 0 < height
  length_rows : rows.length = height
  length_row : ∀ row ∈ rows, row.length = width
  deriving DecidableEq

namespace Grid

/-! ## The view -/

/-- The colour of the cell in column `x` and row `y`, if there is one. -/
def colorAt? (g : Grid) (x y : Nat) : Option Color := g.rows[y]?.bind (·[x]?)

/-- The grid has a cell at this position. -/
def Contains (g : Grid) (p : Position) : Prop := p.Inside g.width g.height

instance (g : Grid) (p : Position) : Decidable (g.Contains p) :=
  inferInstanceAs (Decidable (p.Inside _ _))

theorem colorAt?_isSome_iff {g : Grid} {x y : Nat} :
    (g.colorAt? x y).isSome ↔ x < g.width ∧ y < g.height := by
  have hl := g.length_rows
  unfold colorAt?
  by_cases hy : y < g.rows.length
  · have hr := g.length_row g.rows[y] (List.getElem_mem hy)
    simp [hr, ← hl, hy]
  · simp [← hl, hy]

/-- The colour of a cell inside the grid. -/
def colorAt (g : Grid) (x y : Nat) (hx : x < g.width) (hy : y < g.height) : Color :=
  (g.colorAt? x y).get (colorAt?_isSome_iff.mpr ⟨hx, hy⟩)

/-! ## Building and changing -/

/-- The grid that holds one colour everywhere. -/
def fill (width height : Nat) (hw : 0 < width) (hh : 0 < height) (c : Color) : Grid where
  width := width
  height := height
  rows := List.replicate height (List.replicate width c)
  width_pos := hw
  height_pos := hh
  length_rows := List.length_replicate
  length_row := fun row h => by rw [List.eq_of_mem_replicate h, List.length_replicate]

/-- The grid with another colour in one cell; nothing changes where there is no such cell. -/
def put (g : Grid) (x y : Nat) (c : Color) : Grid where
  width := g.width
  height := g.height
  rows := g.rows.modify y (·.set x c)
  width_pos := g.width_pos
  height_pos := g.height_pos
  length_rows := by rw [List.length_modify, g.length_rows]
  length_row := fun row h => by
    obtain ⟨i, hi, rfl⟩ := List.getElem_of_mem h
    rw [List.length_modify] at hi
    have := g.length_row g.rows[i] (List.getElem_mem hi)
    rw [List.getElem_modify]
    split <;> simp [this]

@[simp] theorem width_put (g : Grid) (x y : Nat) (c : Color) : (g.put x y c).width = g.width := rfl

@[simp] theorem height_put (g : Grid) (x y : Nat) (c : Color) :
    (g.put x y c).height = g.height := rfl

/-- A grid filled with the colour of `code`. The sides are checked before the colour. There is room
for a grid of any size here: what memory and the words of a machine allow for an array is left out.
-/
def create (width height code : Int) : Except Failure Grid :=
  if h : 0 < width ∧ 0 < height then
    (Color.ofCode code).map (fill width.toNat height.toNat (by omega) (by omega))
  else .error (Fault.invalidDimensions width height none).raise

/-- The fault of a position that is not on the grid. -/
def outside (g : Grid) (p : Position) : Fault := .cursorOutOfBounds p g.width g.height

/-- The colour of the cell at a position. -/
def get (g : Grid) (p : Position) : Except Failure Color :=
  if h : g.Contains p then .ok (g.colorAt p.x.toNat p.y.toNat h.toNat_x_lt h.toNat_y_lt)
  else .error (g.outside p).raise

/-- Give the cell at a position the colour of `code`. The position is checked before the colour. -/
def set (g : Grid) (p : Position) (code : Int) : Except Failure Grid :=
  if g.Contains p then (Color.ofCode code).map (g.put p.x.toNat p.y.toNat)
  else .error (g.outside p).raise

/-! ## Counting -/

/-- The number of cells that hold a colour. -/
def count (g : Grid) (c : Color) : Nat := g.rows.flatten.count c

/-- The colours present, each with the number of its cells, in ascending order of their codes. -/
def histogram (g : Grid) : List (Color × Nat) :=
  (Color.all.map fun c => (c, g.count c)).filter fun (_, n) => n ≠ 0

/-- How the grid is named in diagnostics. -/
def describe (g : Grid) : String := s!"Grid(width={g.width}, height={g.height})"

end Grid

/-! ## Arrays of numbers -/

/-- A regular array of integers: the length along each dimension, and the entries, last index
fastest. -/
structure CellArray where
  shape : List Nat
  entries : List Int
  length_entries : entries.length = shape.foldr (· * ·) 1
  deriving DecidableEq

namespace CellArray

/-- The number of dimensions. -/
def rank (a : CellArray) : Nat := a.shape.length

/-- The array without dimensions that holds one number. -/
def scalar (code : Int) : CellArray := ⟨[], [code], rfl⟩

/-- Put arrays of one shape side by side along a new first dimension; `none` where shapes differ. An
empty row has one dimension. -/
def stack? (parts : List CellArray) : Option CellArray :=
  let shape := (parts.head?.map (·.shape)).getD []
  let entries := parts.flatMap (·.entries)
  if parts.isEmpty then some ⟨[0], [], rfl⟩
  else if h : parts.all (·.shape = shape) ∧
      entries.length = (parts.length :: shape).foldr (· * ·) 1 then
    some ⟨parts.length :: shape, entries, h.2⟩
  else none

end CellArray

/-- Cut the entries of a plane into `height` rows of `width` each. -/
def planeRows (width height : Nat) (entries : List Int) : List (List Int) :=
  (List.range height).map fun y => (entries.drop (y * width)).take width

namespace Grid

/-- The least entry that is no colour code. -/
def leastIllegal? (entries : List Int) : Option Int :=
  (entries.filter fun n => ¬ Color.IsLegal n).min?

/-- The colour of a legal code. -/
def legalColor (code : Int) : Color := (Color.ofCode? code).getD .red

/-- The colour of a cell that is given the number `n`. A cell is a byte, so only the lowest eight
bits of the number arrive. -/
def storedColor (n : Int) : Color := legalColor (UInt8.ofInt n).toNat

/-- Read an array of codes as a grid. The number of dimensions is checked first, then the sides,
then the entries. Sides and entries are machine words, so what is wrong with them can be told. -/
def ofCells (a : CellArray) : Except Failure Grid :=
  match hs : a.shape with
  | [height, width] =>
    if h : 0 < width ∧ 0 < height then
      match leastIllegal? a.entries with
      | some code => .error (.fault (.invalidColor code))
      | none =>
        .ok {
          width := width
          height := height
          rows := (planeRows width height a.entries).map (·.map storedColor)
          width_pos := h.1
          height_pos := h.2
          length_rows := by simp [planeRows]
          length_row := by
            intro row hrow
            have hlen := a.length_entries
            simp only [hs, List.foldr_cons, List.foldr_nil, Nat.mul_one] at hlen
            simp only [planeRows, List.map_map, List.mem_map, List.mem_range] at hrow
            obtain ⟨y, hy, rfl⟩ := hrow
            have : (y + 1) * width ≤ height * width := Nat.mul_le_mul_right _ hy
            rw [Nat.succ_mul] at this
            simp only [Function.comp_apply, List.length_map, List.length_take, List.length_drop]
            omega }
    else .error (.fault (.invalidDimensions width height none))
  | shape => .error (.notPlanar shape.length)

/-- The codes of the cells, row by row. -/
def cells (g : Grid) : List (List Nat) := g.rows.map (·.map Color.code)

/-- The codes of the cells as an array of two dimensions. -/
def toCellArray (g : Grid) : CellArray where
  shape := [g.height, g.width]
  entries := g.cells.flatten.map Int.ofNat
  length_entries := by
    have hlengths : g.cells.map List.length = List.replicate g.height g.width := by
      refine List.eq_replicate_iff.mpr ⟨by simp [cells, g.length_rows], fun n hn => ?_⟩
      obtain ⟨codes, hcodes, rfl⟩ := List.mem_map.mp hn
      obtain ⟨row, hrow, rfl⟩ := List.mem_map.mp hcodes
      rw [List.length_map, g.length_row row hrow]
    rw [List.length_map, List.length_flatten, hlengths, List.sum_replicate_nat]
    simp

/-- A grid with the same cells, built anew from them. -/
def copy (g : Grid) : Except Failure Grid := ofCells g.toCellArray

end Grid

/-! ## Nested lists of numbers -/

/-- A nested list of numbers. -/
inductive Nested
  | number (n : Int)
  | list (parts : List Nested)

namespace Nested

mutual

/-- The array that a nested list writes; `none` where it is not regular. -/
def array? : Nested → Option CellArray
  | number n => some (.scalar n)
  | list parts => (arrays? parts).bind CellArray.stack?

/-- The arrays of some nested lists, if all of them are regular. -/
def arrays? : List Nested → Option (List CellArray)
  | [] => some []
  | part :: parts => (array? part).bind fun a => (arrays? parts).map (a :: ·)

end

/-- The nested list of a matrix, row by row. -/
def matrix (rows : List (List Nat)) : Nested :=
  list (rows.map fun row => list (row.map fun (code : Nat) => number code))

end Nested

end Mosaic
