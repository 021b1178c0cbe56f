import Mosaic.Command
import Mosaic.Grid
import Mosaic.Terminal.Box

/-!
# What is shown on a terminal

Grids, command queues, cell counts, prompts and faults as lines for a terminal of a given width.
-/

namespace Mosaic.Report

open Terminal

/-- The ink of a colour. -/
def ink : Color → Ink
  | .red => .red
  | .green => .green
  | .cyan => .cyan

/-- The pen of a colour. -/
def pen (c : Color) : Pen := { ink := some (ink c) }

/-- A grid as coloured symbols, each row on a line of its own as far as the terminal is wide
enough. -/
def grid (columns : Nat) (symbol : String) (g : Grid) : List Line :=
  g.rows.flatMap fun row => wrap columns (row.map fun c => ⟨pen c, symbol.toList⟩)

/-- A prompt for input. -/
def prompt (columns : Nat) (message : String) : List Line :=
  wrap columns [⟨{ bold := true, ink := some .cyan }, message.toList⟩]

/-- The panel that tells of a fault, under its kind. -/
def fault (columns : Nat) (kind message : String) : List Line :=
  let red : Pen := { ink := some .red }
  let panel : Panel := {
    border := red
    title := kind.toList
    titlePen := { bold := true }
    margin := 2 }
  panel.lines columns (wrap (panel.contentColumns columns) [⟨red, message.toList⟩])

/-- The panel of the cells that hold each colour, under the size of the grid. -/
def summary (columns : Nat) (g : Grid) : List Line :=
  let dim : Pen := { dim := true }
  let panel : Panel := {
    border := dim
    title := (s!"{g.width}x{g.height}").toList
    titlePen := dim
    margin := 1 }
  let room := panel.contentColumns columns
  let row := fun (c : Color) =>
    [(⟨c.label.toList, pen c⟩ : Cell), ⟨(toString (g.count c)).toList, .plain⟩]
  let table :=
    bare room [{ pen := dim, fixed := some 8 }, { justify := .right }] (Color.all.map row)
  panel.lines columns (if room = 0 then [] else table)

/-- A queue of commands as a numbered table. -/
def commands (columns : Nat) (cs : List Command) : List Line :=
  let dim : Pen := { dim := true }
  if cs.isEmpty then wrap columns [⟨{ dim := true, ink := some .white }, "No commands.".toList⟩]
  else
    let cell := fun (s : String) => (⟨s.toList, .plain⟩ : Cell)
    boxed columns "Commands".toList dim
      [{ header := "#".toList, pen := dim, justify := .right },
        { header := "Command".toList, pen := { ink := some .cyan } },
        { header := "Description".toList }]
      (cs.mapIdx fun i c => [cell (toString i), cell c.name, cell c.describe])

end Mosaic.Report
