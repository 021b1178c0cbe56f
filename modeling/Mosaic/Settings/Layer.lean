import Mosaic.Settings.Basic
import Mosaic.Settings.EnvFile
import Mosaic.Text.Utf8

/-!
# Layers of settings

A setting may be given as an argument, as an environment variable, or in a file of variables, and
the first of these that gives it wins, whatever the others hold. Names of variables carry a fixed
start and are read in any mixture of upper and lower case; among several spellings the last one
counts.

Each field is *given* a value by the strongest source that has one for it, and what comes of the
field is what this value is read as. `Given` tells the value without a look at any weaker source,
and `Field.outcome` what comes of it without a look at any other field. A file of variables is no
source of its own: its values may refer to variables of the environment. `EnvFile.Refers` tells to
which.
-/

namespace Mosaic

namespace Settings

/-- A layer gives a value to some of the fields. -/
abbrev Layer := Field → Option Value

/-- Arguments give a field under its exact name. -/
def argumentLayer (arguments : List (String × Value)) : Layer := fun f => arguments.lookup f.name

/-- The name of a field as a variable, in lower case. -/
def Field.variableName (f : Field) : String := "pixelgrid_" ++ f.name

/-- The name in lower case. -/
def foldCase (name : String) : String := String.ofList (name.toList.map Char.toLower)

/-- Variables give a field under its name in any case; a variable without a value gives nothing. -/
def variableLayer (assigned : List (String × Option String)) : Layer := fun f =>
  ((assigned.reverse.find? fun v => foldCase v.1 = f.variableName).bind (·.2)).map Value.text

/-- The value from the first layer that gives one. -/
def choose (layers : List Layer) : Layer := fun f => layers.findSome? (· f)

/-- Where settings come from. -/
structure Origin where
  arguments : List (String × Value) := []
  environment : List (String × String) := []
  /-- The text of the file of variables; an absent file is an empty one. -/
  envFile : String := ""

/-- The layers of an origin, the strongest first. -/
def Origin.layers (o : Origin) : List Layer :=
  [argumentLayer o.arguments,
    variableLayer (o.environment.map fun (name, v) => (name, some v)),
    variableLayer (EnvFile.parse o.environment o.envFile)]

/-- Build settings from where they come from. -/
def load (o : Origin) : Except (List (Field × Complaint)) Settings := ofChoice (choose o.layers)

end Settings

/-! ## What decides a setting -/

namespace EnvFile

/-- The variables of a file as they are written, with all references. -/
def written (text : String) : List Binding :=
  let s := text.toList
  let s := Text.unifyBreaks (if s.head? = some byteOrderMark then s.tail else s)
  statements (s.length + 1) s

/-- A text refers to the variable of this name, with or without a fallback. -/
def Mentions (s : List Char) (name : String) : Prop :=
  ∃ c, (c = '\x7d' ∨ c = ':') ∧ '$' :: '\x7b' :: (name.toList ++ [c]) <:+: s

/-- A value of a file refers to the variable of this name. -/
def Refers (text : String) (name : String) : Prop :=
  ∃ b ∈ written text, ∃ v ∈ b.2, Mentions v.toList name

end EnvFile

namespace Settings

/-! ## Sources -/

/-- The last variable of the field's name, in any case, has this value. -/
def Sets (assigned : List (String × Option String)) (f : Field) (v : Option String) : Prop :=
  ∃ before name after, assigned = before ++ (name, v) :: after ∧ foldCase name = f.variableName ∧
    ∀ b ∈ after, foldCase b.1 ≠ f.variableName

/-- The variables of the environment all have values. -/
def Origin.variables (o : Origin) : List (String × Option String) :=
  o.environment.map fun (name, v) => (name, some v)

/-- The variables of the file, with their references replaced. -/
def Origin.fileVariables (o : Origin) : List (String × Option String) :=
  EnvFile.parse o.environment o.envFile

/-- The value that the strongest source with one gives to a field, or none. -/
inductive Given (o : Origin) (f : Field) : Option Value → Prop
  | argument {v : Value} : o.arguments.lookup f.name = some v → Given o f (some v)
  | environment {t : String} : o.arguments.lookup f.name = none →
    Sets o.variables f (some t) → Given o f (some (.text t))
  | file {t : String} : o.arguments.lookup f.name = none →
    (∀ t, ¬ Sets o.variables f (some t)) → Sets o.fileVariables f (some t) →
    Given o f (some (.text t))
  | nothing : o.arguments.lookup f.name = none → (∀ t, ¬ Sets o.variables f (some t)) →
    (∀ t, ¬ Sets o.fileVariables f (some t)) → Given o f none

/-! ## Fields -/

/-- The fields in their order. -/
def Field.all : List Field := [style, symbol, prompts, maxDimension]

/-- The value of a field. -/
def value (s : Settings) : Field → Value
  | .style => .text s.style.name
  | .symbol => .text s.symbol
  | .prompts => .bool s.prompts
  | .maxDimension => .int s.maxDimension

/-- Read the value of a field. -/
def Field.read : Field → Value → Except Complaint Value
  | style, v => (readStyle v).map fun style => .text style.name
  | symbol, v => (readSymbol v).map .text
  | prompts, v => (readTruth v).map .bool
  | maxDimension, v => (readMaxDimension v).map fun n : Nat => .int n

/-- What comes of a field that is given this value. -/
def Field.outcome (f : Field) : Option Value → Except Complaint Value
  | none => .ok (default.value f)
  | some v => f.read v

end Settings

end Mosaic
