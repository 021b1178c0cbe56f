import Mathlib.Logic.Function.Basic
import Mosaic.Proofs.Failure
import Mosaic.Gallery
import Mosaic.Proofs.Grid.Store
import Mosaic.Proofs.Machine.LastWrite

/-!
# Which grids there can be, and what a write does to them

The grids of a gallery are matrices of legal codes with a row and a column, whatever was asked of
the gallery, and their sizes follow from what was built: `record` enters a size when a grid is built
and at no other time, and `sizes_performAll` says that the gallery shows these sizes. In the other
direction no such matrix is out of reach, since the stream that is made from it draws it on a grid
of one colour.

A write is refused or overwrites one cell, and which of the two happens, and with which fault, is
told by the position and the code alone. The fault is raised, so it is reported unless the number at
fault is too long to be written; the grid is the same either way. `Overwritten` says what a write
changes in every view of a grid: its size stays, `get` finds the new colour at the position and
elsewhere what it found, and in the rows and in the cells it is the entry of column `x` in row `y`
that is new. What is shown decides the grid, so writes to different cells commute, and of two writes
to one cell the second counts.
-/

namespace Mosaic

/-- The columns and the rows of a grid. -/
def Grid.size (g : Grid) : Nat × Nat := (g.width, g.height)

namespace Gallery

/-- The size of the grid that a name stands for, if it stands for one. -/
def sizes (gallery : Gallery) (name : String) : Option (Nat × Nat) :=
  (gallery.lookup name).map Grid.size

/-- The name that an action is about. -/
def Action.name : Action → String
  | .create name .. => name
  | .ofCells name _ => name
  | .copy name _ => name
  | .set name .. => name
  | .process name _ => name

/-- The size of what an action builds, told from its arguments and, for a copy, from the sizes so
far; `none` where it builds nothing. -/
def Action.built? (sizes : String → Option (Nat × Nat)) : Action → Option (Nat × Nat)
  | .create _ width height code =>
    if 0 < width ∧ 0 < height ∧ Color.IsLegal code then some (width.toNat, height.toNat) else none
  | .ofCells _ cells =>
    match cells.shape with
    | [height, width] =>
      if 0 < width ∧ 0 < height ∧ ∀ n ∈ cells.entries, Color.IsLegal n then some (width, height)
      else none
    | _ => none
  | .copy _ source => sizes source
  | .set .. => none
  | .process .. => none

/-- Enter the size of a grid under its name, if one was built. -/
def enter (sizes : String → Option (Nat × Nat)) (name : String) :
    Option (Nat × Nat) → String → Option (Nat × Nat)
  | some size => Function.update sizes name (some size)
  | none => sizes

/-- The sizes after an action, told from those before and from what it builds. -/
def record (sizes : String → Option (Nat × Nat)) (a : Action) : String → Option (Nat × Nat) :=
  enter sizes a.name (a.built? sizes)

/-! ## One action -/

theorem lookup_hang (gallery : Gallery) (name other : String) (g : Grid) :
    (gallery.hang name g).lookup other = if other = name then some g else gallery.lookup other := by
  rw [hang, List.lookup_cons]
  by_cases h : other = name
  · rw [if_pos h, beq_iff_eq.mpr h]
  · rw [if_neg h, beq_false_of_ne h]

theorem lookup_hang_self (gallery : Gallery) (name : String) (g : Grid) :
    (gallery.hang name g).lookup name = some g := by
  rw [lookup_hang, if_pos rfl]

/-- A write that is refused leaves the grid under its name. -/
theorem perform_set_of_error {gallery : Gallery} {name : String} {g : Grid} {p : Position}
    {code : Int} {e : Failure} (hg : gallery.lookup name = some g)
    (hset : g.set p code = .error e) :
    gallery.perform (.set name p code) = ⟨gallery.hang name g, .error e⟩ := by
  rw [perform, update, hg]
  dsimp only
  rw [hset]

/-- Any other write hangs the written grid under the name. -/
theorem perform_set_of_ok {gallery : Gallery} {name : String} {g g' : Grid} {p : Position}
    {code : Int} (hg : gallery.lookup name = some g) (hset : g.set p code = .ok g') :
    gallery.perform (.set name p code) = ⟨gallery.hang name g', .ok ()⟩ := by
  rw [perform, update, hg]
  dsimp only
  rw [hset]

/-- Hanging a grid enters its size. -/
theorem sizes_hang (gallery : Gallery) (name : String) (g : Grid) :
    (gallery.hang name g).sizes = Function.update gallery.sizes name (some g.size) := by
  funext other
  by_cases h : other = name
  · subst h
    rw [sizes, lookup_hang, if_pos rfl, Function.update_self, Option.map_some]
  · rw [sizes, lookup_hang, if_neg h, Function.update_of_ne h, sizes]

/-- Hanging what was built enters its size, and nothing if building failed. -/
theorem sizes_hangBuilt (gallery : Gallery) (name : String) (r : Except Failure Grid) :
    (gallery.hangBuilt name r).gallery.sizes =
      enter gallery.sizes name (r.toOption.map Grid.size) := by
  cases r with
  | ok g => exact sizes_hang gallery name g
  | error e => rfl

/-- A change that keeps the size of the grid changes no size. -/
theorem sizes_update (gallery : Gallery) (name : String) {change : Grid → Grid.Processed}
    (hchange : ∀ g, (change g).grid.size = g.size) :
    (gallery.update name change).gallery.sizes = gallery.sizes := by
  cases hlookup : gallery.lookup name with
  | none => rw [update, hlookup]
  | some g =>
    -- The name already stands for a grid of this size, so entering it again changes nothing.
    have hsize : some (change g).grid.size = gallery.sizes name := by
      rw [hchange, sizes, hlookup, Option.map_some]
    rw [update, hlookup]
    dsimp only
    rw [sizes_hang, hsize, Function.update_eq_self]

theorem size_set (g : Grid) (p : Position) (code : Int) {g' : Grid} (h : g.set p code = .ok g') :
    g'.size = g.size := by
  obtain ⟨-, -, rfl⟩ := Grid.set_eq_ok_iff.mp h
  rfl

theorem size_process (g : Grid) (stream : List Int) : (g.process stream).grid.size = g.size := by
  have hm := Machine.inBounds_new g
  cases hparse : Command.parse true stream with
  | ok cs =>
    rw [Grid.process_of_parse_ok hparse, Grid.size, Grid.size, Machine.runQueue,
      Machine.width_run hm, Machine.height_run hm]
    rfl
  | error f => rw [Grid.process_of_parse_error hparse]

/-- What is filled has the size that was asked for. -/
theorem size_create (width height code : Int) :
    (Grid.create width height code).toOption.map Grid.size =
      if 0 < width ∧ 0 < height ∧ Color.IsLegal code then some (width.toNat, height.toNat)
      else none := by
  by_cases h : 0 < width ∧ 0 < height ∧ Color.IsLegal code
  · rw [if_pos h, Grid.create_eq_ok_iff.mpr ⟨h.1, h.2.1, h.2.2, rfl⟩]
    rfl
  · rw [if_neg h]
    cases hcreate : Grid.create width height code with
    | ok g =>
      obtain ⟨hw, hh, hcode, -⟩ := Grid.create_eq_ok_iff.mp hcreate
      exact absurd ⟨hw, hh, hcode⟩ h
    | error f => rfl

/-- What is built from an array has the size of the array. -/
theorem size_ofCells (cells : CellArray) (name : String) (sizes : String → Option (Nat × Nat)) :
    (Grid.ofCells cells).toOption.map Grid.size = (Action.ofCells name cells).built? sizes := by
  rcases Grid.ofCells_cases cells with ⟨g, hok, hshape, hlegal, -⟩ | ⟨e, herror, hrefused⟩
  · rw [hok, Action.built?, hshape]
    exact (if_pos ⟨g.width_pos, g.height_pos, hlegal⟩).symm
  · rw [herror, Action.built?]
    split
    next height width hshape =>
      exact (if_neg fun ⟨hw, hh, hlegal⟩ => hrefused width height hshape hw hh hlegal).symm
    next => rfl

/-- **An action changes the sizes as recorded**, that is, only where it builds a grid. -/
theorem sizes_perform (gallery : Gallery) (a : Action) :
    (gallery.perform a).gallery.sizes = record gallery.sizes a := by
  cases a with
  | create name width height code =>
    rw [perform, sizes_hangBuilt, size_create]
    rfl
  | ofCells name cells =>
    rw [perform, sizes_hangBuilt, size_ofCells cells name gallery.sizes]
    rfl
  | copy name source =>
    cases hlookup : gallery.lookup source with
    | none =>
      have hsource : gallery.sizes source = none := by rw [sizes, hlookup, Option.map_none]
      rw [perform, hlookup, record, Action.built?, hsource]
      rfl
    | some g =>
      have hsource : gallery.sizes source = some g.size := by rw [sizes, hlookup, Option.map_some]
      rw [perform, hlookup, record, Action.built?, hsource]
      dsimp only
      rw [sizes_hangBuilt, g.copy_eq]
      rfl
  | set name p code =>
    refine sizes_update gallery name fun g => ?_
    cases hset : g.set p code with
    | ok g' => exact size_set g p code hset
    | error f => rfl
  | process name stream => exact sizes_update gallery name fun g => size_process g stream

/-- **The sizes of the grids are those that were recorded when they were built.** -/
theorem sizes_performAll (gallery : Gallery) (actions : List Action) :
    (gallery.performAll actions).sizes = actions.foldl record gallery.sizes := by
  induction actions generalizing gallery with
  | nil => rfl
  | cons a as ih =>
    rw [List.foldl_cons, ← sizes_perform]
    exact ih (gallery.perform a).gallery

/-! ## All grids and only these -/

/-- **The grids there can be are the matrices of legal codes with a row and a column.** Whatever was
asked of a gallery, a name stands for a grid exactly if a size is recorded under it, and the grid is
such a matrix of this size. In the other direction a stream draws every such matrix on a new grid of
its size, whatever the colour of that is. -/
theorem performAll_legal_and_complete :
    (∀ (gallery : Gallery) (actions : List Action) (name : String),
      match actions.foldl record gallery.sizes name with
      | some (width, height) =>
        0 < width ∧ 0 < height ∧ ∃ g, (gallery.performAll actions).lookup name = some g ∧
          g.width = width ∧ g.height = height ∧ Grid.LegalMatrix width height g.cells
      | none => (gallery.performAll actions).lookup name = none) ∧
    ∀ (width height : Nat) (code : Int) (rows : List (List Nat)), 0 < width → 0 < height →
      Color.IsLegal code → Grid.LegalMatrix width height rows →
      ∃ g stream drawn, Grid.create width height code = .ok g ∧
        g.process stream = ⟨drawn, .ok ()⟩ ∧ drawn.cells = rows := by
  refine ⟨fun gallery actions name => ?_, ?_⟩
  · rw [← sizes_performAll, sizes]
    cases (gallery.performAll actions).lookup name with
    | none => rfl
    | some g => exact ⟨g.width_pos, g.height_pos, g, rfl, rfl, rfl, g.legalMatrix_cells⟩
  · -- The stream is made from the wanted grid, and it overwrites whatever the new one shows.
    intro width height code rows hw hh hcode hrows
    have hcreate := Grid.create_eq_ok_iff.mpr
      ⟨Int.natCast_pos.mpr hw, Int.natCast_pos.mpr hh, hcode, rfl⟩
    exact ⟨_, _, Grid.ofMatrix hw hh hrows, hcreate, Grid.process_drawing rfl rfl,
      Grid.cells_ofMatrix hw hh hrows⟩

/-- A copy keeps its size when its source is replaced, and a display that is wider than high is
drawn row by row. -/
theorem performAll_legal_and_complete_landscape :
    let actions : List Action := [.create "a" 3 2 1, .copy "b" "a", .create "a" 1 4 2,
      .create "c" 0 2 1, .set "b" ⟨2, 1⟩ 9, .process "b" [2, 3, 1, 3, 0]]
    let rows := [[1, 2, 3], [3, 1, 1]]
    (∃ g, (performAll [] actions).lookup "b" = some g ∧ g.width = 3 ∧ g.height = 2 ∧
        Grid.LegalMatrix 3 2 g.cells) ∧
      (performAll [] actions).lookup "c" = none ∧
      Grid.LegalMatrix 3 2 rows ∧
      ∃ g stream drawn, Grid.create 3 2 2 = .ok g ∧ g.process stream = ⟨drawn, .ok ()⟩ ∧
        drawn.cells = rows := by
  intro actions rows
  have hrows : Grid.LegalMatrix 3 2 rows := ⟨by decide, by decide, by decide⟩
  obtain ⟨-, -, hb⟩ := performAll_legal_and_complete.1 [] actions "b"
  exact ⟨hb, performAll_legal_and_complete.1 [] actions "c", hrows,
    performAll_legal_and_complete.2 3 2 2 rows (by decide) (by decide) (by decide) hrows⟩

end Gallery

namespace Grid

variable {g g₁ g₂ : Grid} {p q : Position} {code code' : Int}

/-! ## Refused writes -/

/-- A write is refused for its position, or for its code if the position is inside. -/
theorem set_eq_error_iff {e : Failure} : g.set p code = .error e ↔
    (¬ g.Contains p ∧ e = (g.outside p).raise) ∨
      (g.Contains p ∧ ¬ Color.IsLegal code ∧ e = (Fault.invalidColor code).raise) := by
  -- The position is checked before the code.
  by_cases hp : g.Contains p
  · rw [set_of_contains hp, map_eq_error_iff]
    by_cases hcode : Color.IsLegal code
    · simp [ofCode_of_isLegal hcode, hp, hcode]
    · simp [ofCode_of_not_isLegal hcode, hp, hcode, eq_comm]
  · simp [set_of_not_contains hp, hp, eq_comm]

/-- The position is reported if it is off the grid and can be written. -/
theorem set_eq_outside_iff : g.set p code = .error (.fault (g.outside p)) ↔
    ¬ g.Contains p ∧ IsWritable p.x ∧ IsWritable p.y := by
  have hposition :
      .fault (g.outside p) = (g.outside p).raise ↔ IsWritable p.x ∧ IsWritable p.y := by
    rw [eq_comm, Fault.raise_eq_fault_iff, outside, Fault.isTellable_cursorOutOfBounds]
    exact and_iff_right rfl
  have hcolor : .fault (g.outside p) ≠ (Fault.invalidColor code).raise := fun h =>
    nomatch (Fault.raise_eq_fault_iff.mp h.symm).1
  simp only [set_eq_error_iff, hposition, hcolor, and_false, or_false]

/-- The code is reported if the position is inside and the code is illegal and can be written. -/
theorem set_eq_invalidColor_iff : g.set p code = .error (.fault (.invalidColor code)) ↔
    g.Contains p ∧ ¬ Color.IsLegal code ∧ IsWritable code := by
  have hposition : .fault (.invalidColor code) ≠ (g.outside p).raise := fun h =>
    nomatch (Fault.raise_eq_fault_iff.mp h.symm).1
  have hcolor :
      .fault (.invalidColor code) = (Fault.invalidColor code).raise ↔ IsWritable code := by
    rw [eq_comm, Fault.raise_eq_fault_iff, Fault.isTellable_invalidColor]
    exact and_iff_right rfl
  simp only [set_eq_error_iff, hposition, hcolor, and_false, false_or]

/-- Nothing is reported if the number at fault cannot be written. -/
theorem set_eq_overlongNumber_iff : g.set p code = .error .overlongNumber ↔
    (¬ g.Contains p ∧ ¬ (IsWritable p.x ∧ IsWritable p.y)) ∨
      (g.Contains p ∧ ¬ IsWritable code) := by
  have hcode : ¬ Color.IsLegal code ∧ ¬ IsWritable code ↔ ¬ IsWritable code :=
    and_iff_right_of_imp (mt Color.isWritable_of_isLegal)
  rw [set_eq_error_iff, eq_comm, Fault.raise_eq_overlongNumber_iff, outside,
    Fault.isTellable_cursorOutOfBounds, eq_comm, Fault.raise_eq_overlongNumber_iff,
    Fault.isTellable_invalidColor, hcode]

/-- A write that is refused neither for its position nor for its code succeeds. -/
theorem exists_set_eq_ok_iff :
    (∃ g', g.set p code = .ok g') ↔ g.Contains p ∧ Color.IsLegal code := by
  simp only [set_eq_ok_iff, exists_and_left, exists_eq, and_true]

/-! ## Overwritten cells -/

/-- The grid `g'` is `g` with the colour `c` in the cell at `p`, in every view of it. -/
structure Overwritten (g : Grid) (p : Position) (c : Color) (g' : Grid) : Prop where
  width : g'.width = g.width
  height : g'.height = g.height
  get : ∀ q, g'.get q = if q = p then .ok c else g.get q
  rows : ∀ x y : Nat, g'.rows[y]?.bind (·[x]?) =
    if p = ⟨x, y⟩ then some c else g.rows[y]?.bind (·[x]?)
  cells : ∀ x y : Nat, g'.cells[y]?.bind (·[x]?) =
    if p = ⟨x, y⟩ then some c.code else g.cells[y]?.bind (·[x]?)

/-- The code in a column and a row is that of the colour there. -/
theorem cells_getElem? (g : Grid) (x y : Nat) :
    g.cells[y]?.bind (·[x]?) = (g.colorAt? x y).map Color.code := by
  rw [cells, colorAt?, List.getElem?_map]
  cases g.rows[y]? <;> simp

theorem overwritten_put (hp : g.Contains p) (c : Color) :
    g.Overwritten p c (g.put p.x.toNat p.y.toNat c) where
  width := rfl
  height := rfl
  get := get_put hp c
  rows := colorAt?_put_of_contains hp c
  cells x y := by
    rw [cells_getElem?, cells_getElem?, colorAt?_put_of_contains hp]
    split <;> rfl

/-- A write that succeeds overwrites the cell with the colour that the code names. -/
theorem overwritten_of_set (h : g.set p code = .ok g₁) :
    ∃ c : Color, (c.code : Int) = code ∧ g.Overwritten p c g₁ := by
  obtain ⟨hp, hcode, rfl⟩ := set_eq_ok_iff.mp h
  exact ⟨_, code_legalColor hcode, overwritten_put hp _⟩

/-! ## Writes in turn -/

/-- Colours put into different cells may be put there in either order. -/
theorem put_put_comm (hp : g.Contains p) (hq : g.Contains q) (hpq : p ≠ q) (c d : Color) :
    (g.put p.x.toNat p.y.toNat c).put q.x.toNat q.y.toNat d =
      (g.put q.x.toNat q.y.toNat d).put p.x.toNat p.y.toNat c := by
  refine eq_of_get rfl rfl fun r _ => ?_
  rw [get_put (g := g.put p.x.toNat p.y.toNat c) hq, get_put hp,
    get_put (g := g.put q.x.toNat q.y.toNat d) hp, get_put hq]
  by_cases hr : r = p
  · rw [if_pos hr, if_neg (hr ▸ hpq), if_pos hr]
  · rw [if_neg hr, if_neg hr]

/-- A colour that is put into a cell replaces the one that was put there before. -/
theorem put_put_self (hp : g.Contains p) (c d : Color) :
    (g.put p.x.toNat p.y.toNat c).put p.x.toNat p.y.toNat d = g.put p.x.toNat p.y.toNat d := by
  refine eq_of_get rfl rfl fun r _ => ?_
  rw [get_put (g := g.put p.x.toNat p.y.toNat c) hp, get_put hp, get_put hp]
  split_ifs <;> rfl

/-- Two writes to different cells that succeed in one order succeed in the other, with one result.
-/
theorem set_comm (hpq : p ≠ q) (hfirst : g.set p code = .ok g₁)
    (hsecond : g₁.set q code' = .ok g₂) : ∃ h, g.set q code' = .ok h ∧ h.set p code = .ok g₂ := by
  obtain ⟨hp, hcode, rfl⟩ := set_eq_ok_iff.mp hfirst
  obtain ⟨hq, hcode', rfl⟩ := set_eq_ok_iff.mp hsecond
  refine ⟨_, set_eq_ok_iff.mpr ⟨hq, hcode', rfl⟩, set_eq_ok_iff.mpr ⟨hp, hcode, ?_⟩⟩
  exact put_put_comm hp hq hpq _ _

/-- A write to a cell that was written just before has the result that it would have had then. -/
theorem set_of_set (hfirst : g.set p code = .ok g₁) (code' : Int) :
    g₁.set p code' = g.set p code' := by
  obtain ⟨hp, -, rfl⟩ := set_eq_ok_iff.mp hfirst
  -- The second write meets the same checks, and what it puts hides what the first one put.
  have hput : (g.put p.x.toNat p.y.toNat (legalColor code)).put p.x.toNat p.y.toNat =
      g.put p.x.toNat p.y.toNat := funext (put_put_self hp _)
  have hagain : (g.put p.x.toNat p.y.toNat (legalColor code)).Contains p := hp
  rw [set_of_contains hagain, set_of_contains hp, hput]

end Grid

/-! ## The laws of the store -/

/-- The grid that a name stands for after a write is the written one, or the one before if the write
was refused; no other name stands for another grid than before. -/
theorem Gallery.perform_set {gallery : Gallery} {name : String}
    (hg : gallery.lookup name = some g) (p : Position) (code : Int) :
    let r := gallery.perform (.set name p code)
    r.outcome = ((g.set p code).map fun _ => ()) ∧
      r.gallery.lookup name = some ((g.set p code).toOption.getD g) ∧
      ∀ other, other ≠ name → r.gallery.lookup other = gallery.lookup other := by
  intro r
  cases hset : g.set p code with
  | ok g' =>
    have hr : r = ⟨gallery.hang name g', .ok ()⟩ := perform_set_of_ok hg hset
    rw [hr]
    exact ⟨rfl, gallery.lookup_hang_self name g', fun other hother => by
      rw [lookup_hang, if_neg hother]⟩
  | error e =>
    have hr : r = ⟨gallery.hang name g, .error e⟩ := perform_set_of_error hg hset
    rw [hr]
    exact ⟨rfl, gallery.lookup_hang_self name g, fun other hother => by
      rw [lookup_hang, if_neg hother]⟩

/-- **The laws of the store.** A write at a position off the grid is refused for the position,
whatever the code; inside it is refused exactly if the code is illegal, for the code. The position
or the code is reported exactly if it can be written. A refused write leaves the grid as it is. Any
other write changes the cell in column `x` of row `y`, in every view, and nothing else. A later
write to the same cell wins, as if the earlier one had not been, and writes to different cells
commute. -/
theorem Grid.set_store_laws (g : Grid) (x y code : Int) :
    let p : Position := ⟨x, y⟩
    let inside := (0 ≤ x ∧ x < g.width) ∧ 0 ≤ y ∧ y < g.height
    let legal := code = 1 ∨ code = 2 ∨ code = 3
    (g.set p code = .error (.fault (.cursorOutOfBounds p g.width g.height)) ↔
      ¬ inside ∧ IsWritable x ∧ IsWritable y) ∧
    (g.set p code = .error (.fault (.invalidColor code)) ↔ inside ∧ ¬ legal ∧ IsWritable code) ∧
    (g.set p code = .error .overlongNumber ↔
      (¬ inside ∧ ¬ (IsWritable x ∧ IsWritable y)) ∨ (inside ∧ ¬ IsWritable code)) ∧
    ((∃ e, g.set p code = .error e) ↔ ¬ (inside ∧ legal)) ∧
    ((∃ g', g.set p code = .ok g') ↔ inside ∧ legal) ∧
    (∀ (gallery : Gallery) (name : String), gallery.lookup name = some g →
      let r := gallery.perform (.set name p code)
      r.outcome = ((g.set p code).map fun _ => ()) ∧
      r.gallery.lookup name = some ((g.set p code).toOption.getD g) ∧
      ∀ other, other ≠ name → r.gallery.lookup other = gallery.lookup other) ∧
    ∀ g', g.set p code = .ok g' →
      (∃ c : Color, (c.code : Int) = code ∧ g.Overwritten p c g') ∧
      (∀ code', g'.set p code' = g.set p code') ∧
      ∀ q code' g'', p ≠ q → g'.set q code' = .ok g'' →
        ∃ h, g.set q code' = .ok h ∧ h.set p code = .ok g'' := by
  intro p inside legal
  have hinside : g.Contains p ↔ inside := and_assoc.symm
  have hlegal : Color.IsLegal code ↔ legal := Color.isLegal_iff
  rw [← hinside, ← hlegal]
  have hfails : (∃ e, g.set p code = .error e) ↔ ¬ (g.Contains p ∧ Color.IsLegal code) := by
    rw [← exists_set_eq_ok_iff]
    cases g.set p code <;> simp
  exact ⟨set_eq_outside_iff, set_eq_invalidColor_iff, set_eq_overlongNumber_iff, hfails,
    exists_set_eq_ok_iff,
    fun gallery name hg => Gallery.perform_set hg p code, fun g' hset =>
      ⟨overwritten_of_set hset, set_of_set hset, fun q code' g'' hpq => set_comm hpq hset⟩⟩

/-- Two cells of a display that is higher than wide are painted in either order. -/
theorem Grid.set_store_laws_two_cells :
    let g := fill 2 3 (by decide) (by decide) .red
    ∃ g₁ g₂, g.set ⟨1, 2⟩ 3 = .ok g₁ ∧ g.Overwritten ⟨1, 2⟩ .cyan g₁ ∧
      g₁.set ⟨0, 1⟩ 2 = .ok g₂ ∧ g₂.cells = [[1, 1], [2, 1], [1, 3]] ∧
      ∃ h, g.set ⟨0, 1⟩ 2 = .ok h ∧ h.set ⟨1, 2⟩ 3 = .ok g₂ := by
  intro g
  obtain ⟨-, -, -, -, hsucceeds, -, hwrites⟩ := set_store_laws g 1 2 3
  obtain ⟨g₁, hfirst⟩ := hsucceeds.mpr (by decide)
  obtain ⟨⟨c, hc, hover⟩, -, hcommute⟩ := hwrites g₁ hfirst
  obtain rfl : c = .cyan := Color.code_injective (Int.ofNat.inj hc)
  obtain rfl : g₁ = g.put 1 2 .cyan := Except.ok.inj (hfirst.symm.trans (by decide))
  have hsecond : (g.put 1 2 .cyan).set ⟨0, 1⟩ 2 = .ok ((g.put 1 2 .cyan).put 0 1 .green) := by
    decide
  exact ⟨_, _, hfirst, hover, hsecond, by decide, hcommute _ _ _ (by decide) hsecond⟩

/-- A position and a code that are too long to be written are refused without being reported. -/
theorem Grid.set_unwritable :
    let g := fill 1 1 (by decide) (by decide) .red
    ¬ g.Contains ⟨leastUnwritable, 0⟩ ∧
      g.set ⟨leastUnwritable, 0⟩ 1 = .error .overlongNumber ∧
      g.Contains ⟨0, 0⟩ ∧ ¬ Color.IsLegal leastUnwritable ∧
      g.set ⟨0, 0⟩ leastUnwritable = .error .overlongNumber := by
  intro g
  have hlong := not_isWritable_leastUnwritable
  have hinside : g.Contains ⟨0, 0⟩ := by decide
  have houtside : ¬ g.Contains ⟨leastUnwritable, 0⟩ := fun h => hlong (h.isWritable_x (by decide))
  exact ⟨houtside, set_eq_overlongNumber_iff.mpr (.inl ⟨houtside, fun h => hlong h.1⟩),
    hinside, mt Color.isWritable_of_isLegal hlong,
    set_eq_overlongNumber_iff.mpr (.inr ⟨hinside, hlong⟩)⟩

/-- The column stands before the row, and a negative one does not count from the far edge. -/
example :
    let g := Grid.fill 2 3 (by decide) (by decide) .red
    g.set ⟨2, 1⟩ 3 = .error (.fault (.cursorOutOfBounds ⟨2, 1⟩ 2 3)) ∧
      g.set ⟨-1, 0⟩ 7 = .error (.fault (.cursorOutOfBounds ⟨-1, 0⟩ 2 3)) := by decide

end Mosaic
