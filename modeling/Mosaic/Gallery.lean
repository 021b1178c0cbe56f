import Mosaic.Machine

/-!
# Galleries

A gallery keeps grids under names. An action builds a grid under a name, which then stands for the
new grid, or changes the grid that a name stands for; an action that fails leaves every name as it
was, except that a stream which fails half-way has painted what came before.
-/

namespace Mosaic

/-- Grids under names; the first entry of a name counts. -/
abbrev Gallery := List (String × Grid)

namespace Gallery

/-- Something asked of a gallery. -/
inductive Action
  /-- Hang a new grid of one colour. -/
  | create (name : String) (width height code : Int)
  /-- Hang a grid built from an array of codes. -/
  | ofCells (name : String) (cells : CellArray)
  /-- Hang a copy of another grid. -/
  | copy (name source : String)
  /-- Paint one cell. -/
  | set (name : String) (p : Position) (code : Int)
  /-- Execute a stream. -/
  | process (name : String) (stream : List Int)
  deriving DecidableEq

/-- The gallery after an action, and how the action ended. -/
structure Performed where
  gallery : Gallery
  outcome : Except Failure Unit
  deriving DecidableEq

/-- Hang a grid under a name. -/
def hang (gallery : Gallery) (name : String) (g : Grid) : Gallery := (name, g) :: gallery

/-- Hang what was built, if it was. -/
def hangBuilt (gallery : Gallery) (name : String) : Except Failure Grid → Performed
  | .ok g => ⟨gallery.hang name g, .ok ()⟩
  | .error e => ⟨gallery, .error e⟩

/-- Do to the grid of a name what `change` says; without such a grid nothing happens. -/
def update (gallery : Gallery) (name : String) (change : Grid → Grid.Processed) : Performed :=
  match gallery.lookup name with
  | some g => ⟨gallery.hang name (change g).grid, (change g).outcome⟩
  | none => ⟨gallery, .ok ()⟩

/-- One action. -/
def perform (gallery : Gallery) : Action → Performed
  | .create name width height code =>
    gallery.hangBuilt name (Grid.create width height code)
  | .ofCells name cells => gallery.hangBuilt name (Grid.ofCells cells)
  | .copy name source =>
    match gallery.lookup source with
    | some g => gallery.hangBuilt name g.copy
    | none => ⟨gallery, .ok ()⟩
  | .set name p code =>
    gallery.update name fun g =>
      match g.set p code with
      | .ok g' => ⟨g', .ok ()⟩
      | .error e => ⟨g, .error e⟩
  | .process name stream => gallery.update name (·.process stream)

/-- The gallery after a series of actions. -/
def performAll (gallery : Gallery) (actions : List Action) : Gallery :=
  actions.foldl (fun gallery a => (gallery.perform a).gallery) gallery

end Gallery

end Mosaic
