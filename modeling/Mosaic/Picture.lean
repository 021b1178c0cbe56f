import Mosaic.Machine
import Mosaic.Session

/-!
# Pictures

A grid is written one line per row, the cells of a row separated by single spaces. By default a cell
stands as its numeric code; a choice of symbols replaces the codes, and fails on the first cell
whose colour has no symbol. The text in numeric codes can be read back: it is cut at line feeds,
each line at spaces, and every piece is read as a numeral.

The whole job leads from lines to a picture: read a session, fill a grid, read the whole command
stream, execute it, and write the grid as text. The first stage that fails decides the failure.
-/

namespace Mosaic

/-! ## Grids as text -/

namespace Grid

/-- Put rows of written cells together: spaces inside a row, line feeds between rows. -/
def layOut (rows : List (List String)) : String :=
  String.ofList <| List.intercalate ['\n'] <|
    rows.map fun row => List.intercalate [' '] (row.map String.toList)

/-- The digit that stands for a colour. -/
def digit (c : Color) : String := toString c.code

/-- The text of a grid in numeric codes. -/
def render (g : Grid) : String := layOut (g.rows.map (·.map digit))

/-- The symbol of a colour, or the failure that there is none. -/
def symbolOf (symbols : Color → Option String) (c : Color) : Except Failure String :=
  match symbols c with
  | some s => .ok s
  | none => .error (.missingSymbol c)

/-- The text of a grid in chosen symbols; the first cell in reading order without one decides the
failure. -/
def renderWith (g : Grid) (symbols : Color → Option String) : Except Failure String :=
  (g.rows.mapM fun (row : List Color) => row.mapM (symbolOf symbols)).map layOut

end Grid

/-! ## Reading a rendered grid -/

/-- The array of these rows; `none` where their lengths differ. -/
def CellArray.ofRows? (rows : List (List Nat)) : Option CellArray := do
  let parts ← rows.mapM fun row => stack? (row.map fun (code : Nat) => scalar code)
  stack? parts

namespace Grid

/-- The pieces of a rendered grid, row by row. -/
def cutText (text : String) : List (List (List Char)) :=
  (text.toList.splitOnP (· = '\n')).map (List.splitOnP (· = ' '))

/-- The codes of a rendered grid, row by row. -/
def readCodes (text : String) : Except Failure (List (List Nat)) :=
  (cutText text).mapM fun row => row.mapM fun piece => Numeral.parse (String.ofList piece)

/-- The grid of a rendered text. -/
def read (text : String) : Except Failure (Option Grid) := do
  let rows ← readCodes text
  match CellArray.ofRows? rows with
  | some a => some <$> ofCells a
  | none => return none

end Grid

/-! ## From lines to a picture -/

namespace Session

/-- The stream as the integers that a command queue is read from. -/
def wire (s : Session) : List Int := s.stream.map Int.ofNat

/-- The grid that a session ends with. -/
def paint (s : Session) : Except Failure Grid := do
  let m ← Machine.create s.width s.height s.color.code
  let r := m.runStream true s.wire
  r.outcome.map fun () => r.machine.grid

end Session

/-- The picture described by these lines. -/
def picture (limit : Int) (lines : List String) : Except Failure String := do
  let session ← Session.read limit lines
  let grid ← session.paint
  return grid.render

end Mosaic
