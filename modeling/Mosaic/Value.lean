import Mosaic.Double
import Mosaic.Failure

/-!
# Plain data values

Settings may be given as plain data, and a machine may be handed plain data where it expects a
command. `Value` is that data; `display` writes it the way diagnostics show it, and `text?` does so
unless it holds an integer that is too long.
-/

namespace Mosaic

/-- A plain data value. -/
inductive Value
  | null
  | bool (b : Bool)
  | int (n : Int)
  | real (x : Double)
  | text (s : String)
  | list (items : List Value)
  | record (fields : List (String × Value))
  deriving Inhabited, Repr

namespace Value

/-- Entries between brackets, separated by commas. -/
def enclose (left right : String) (entries : List String) : String :=
  left ++ ", ".intercalate entries ++ right

mutual

/-- The value as diagnostics show it. -/
def display : Value → String
  | null => "None"
  | bool b => if b then "True" else "False"
  | int n => toString n
  | real x => x.text
  | text s => Text.quote s
  | list items => enclose "[" "]" (displayAll items)
  | record fields => enclose "\x7b" "\x7d" (displayFields fields)

/-- The items of a list, each as diagnostics show it. -/
def displayAll : List Value → List String
  | [] => []
  | v :: vs => display v :: displayAll vs

/-- The fields of a record, each as its key and its value. -/
def displayFields : List (String × Value) → List String
  | [] => []
  | (key, v) :: fields => (Text.quote key ++ ": " ++ display v) :: displayFields fields

end

mutual

/-- The integers in a value. -/
def integers : Value → List Int
  | int n => [n]
  | list items => integersOfAll items
  | record fields => integersOfFields fields
  | _ => []

/-- The integers in the items of a list. -/
def integersOfAll : List Value → List Int
  | [] => []
  | v :: vs => integers v ++ integersOfAll vs

/-- The integers in the fields of a record. -/
def integersOfFields : List (String × Value) → List Int
  | [] => []
  | (_, v) :: fields => integers v ++ integersOfFields fields

end

/-- The text of the value, unless an integer in it is too long to be written. -/
def text? (v : Value) : Option String :=
  if v.integers.all (IsWritable ·) then some v.display else none

end Value

end Mosaic
