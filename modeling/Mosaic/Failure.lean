import Mosaic.Basic
import Mosaic.Text.Basic
import Mosaic.Text.Utf8

/-!
# Faults and failures

Every way in which a display description can be wrong is a `Fault`: an illegal colour, an unknown or
unfinished command, a move off the display, text that is not the expected numbers, or a size that is
not allowed. A fault carries what was found; `kind` names the violated condition and `message` tells
the reader about it.

A `Failure` is anything that stops an operation: a fault, which the command line reports and
survives, or one of the conditions outside that class, which it does not catch. A fault is raised
together with its message (`Fault.raise`). So it needs numbers that can be written: where one has
too many digits, writing the message fails in the place of the fault.
-/

namespace Mosaic

/-! ## Numbers in texts -/

/-- The most digits that a number may have where it is read or written, leading zeros included. -/
def maxDigits : Nat := 4300

/-- A number is short enough to be written. Its sign does not count. -/
def IsWritable (n : Int) : Prop := (Nat.toDigits 10 n.natAbs).length ≤ maxDigits

instance (n : Int) : Decidable (IsWritable n) := inferInstanceAs (Decidable (_ ≤ _))

/-! ## Faults -/

/-- What is wrong with a line that should hold numbers. -/
inductive Malformed
  /-- A token is not an unsigned number. -/
  | token (text : String)
  /-- The size line holds this many tokens instead of two. -/
  | sizeCount (tokens : Nat)
  /-- The colour line holds this many tokens instead of one. -/
  | colorCount (tokens : Nat)
  | missingSize
  | missingColor
  deriving DecidableEq, Repr

/-- The offending token, where the fault is about a single one. -/
def Malformed.token? : Malformed → Option String
  | .token text => some text
  | _ => none

def Malformed.message : Malformed → String
  | .token text => s!"Expected an unsigned integer, got {Text.quote text}."
  | .sizeCount n => s!"Expected two numbers for the display size, got {n}."
  | .colorCount n => s!"Expected one number for the default colour, got {n}."
  | .missingSize => "Missing display size line."
  | .missingColor => "Missing default colour line."

/-- A violated condition on the description of a display. -/
inductive Fault
  /-- A colour code outside the legal three. -/
  | invalidColor (code : Int)
  /-- An unknown opcode, at this index of the command stream. -/
  | invalidCommand (opcode : Int) (position : Nat)
  /-- The stream ends before the operands of its last opcode. -/
  | truncatedInput (opcode : Int) (expected received : Nat)
  /-- A position off a display of this size. -/
  | cursorOutOfBounds (target : Position) (width height : Nat)
  | malformedNumericInput (cause : Malformed)
  /-- A side that is not positive, or above `limit` where there is one. -/
  | invalidDimensions (width height : Int) (limit : Option Int)
  deriving DecidableEq, Repr

namespace Fault

/-- The name of the violated condition. -/
def kind : Fault → String
  | invalidColor .. => "InvalidColor"
  | invalidCommand .. => "InvalidCommand"
  | truncatedInput .. => "TruncatedInput"
  | cursorOutOfBounds .. => "CursorOutOfBounds"
  | malformedNumericInput .. => "MalformedNumericInput"
  | invalidDimensions .. => "InvalidDimensions"

/-- The diagnostic for the reader. -/
def message : Fault → String
  | invalidColor code => s!"Invalid colour code {code}; expected 1, 2 or 3."
  | invalidCommand opcode position => s!"Invalid command {opcode} at position {position}."
  | truncatedInput opcode expected received =>
    s!"Command {opcode} expects {expected} operand(s) but the stream ended after {received}."
  | cursorOutOfBounds p width height =>
    s!"Cursor position ({p.x}, {p.y}) is outside the {width}x{height} display."
  | malformedNumericInput cause => cause.message
  | invalidDimensions width height none =>
    s!"Display dimensions must be positive, got {width}x{height}."
  | invalidDimensions width height (some limit) =>
    s!"Display dimensions {width}x{height} exceed the maximum of {limit}."

/-- The numbers in the message that may be of any size. The others count something that there is,
integers of a stream, tokens of a line or cells of a display, and are never too long to be written.
-/
def numbers : Fault → List Int
  | invalidColor code => [code]
  | invalidCommand opcode _ => [opcode]
  | truncatedInput opcode _ _ => [opcode]
  | cursorOutOfBounds p _ _ => [p.x, p.y]
  | malformedNumericInput _ => []
  | invalidDimensions width height limit => width :: height :: limit.toList

/-- The message of the fault can be written. -/
def IsTellable (f : Fault) : Prop := ∀ n ∈ f.numbers, IsWritable n

instance (f : Fault) : Decidable f.IsTellable := List.decidableBAll _ f.numbers

@[simp] theorem isTellable_invalidColor {code : Int} :
    (invalidColor code).IsTellable ↔ IsWritable code := List.forall_mem_singleton

@[simp] theorem isTellable_invalidCommand {opcode : Int} {position : Nat} :
    (invalidCommand opcode position).IsTellable ↔ IsWritable opcode := List.forall_mem_singleton

@[simp] theorem isTellable_truncatedInput {opcode : Int} {expected received : Nat} :
    (truncatedInput opcode expected received).IsTellable ↔ IsWritable opcode :=
  List.forall_mem_singleton

@[simp] theorem isTellable_cursorOutOfBounds {p : Position} {width height : Nat} :
    (cursorOutOfBounds p width height).IsTellable ↔ IsWritable p.x ∧ IsWritable p.y := by
  simp [IsTellable, numbers]

@[simp] theorem isTellable_malformedNumericInput {cause : Malformed} :
    (malformedNumericInput cause).IsTellable := List.forall_mem_nil _

@[simp] theorem isTellable_invalidDimensions {width height : Int} {limit : Option Int} :
    (invalidDimensions width height limit).IsTellable ↔
      IsWritable width ∧ IsWritable height ∧ ∀ n ∈ limit, IsWritable n := by
  simp [IsTellable, numbers]

end Fault

/-! ## Failures -/

/-- Why an operation stopped without a value. -/
inductive Failure
  /-- The description of the display is wrong. -/
  | fault (f : Fault)
  /-- A numeral has more digits than are read. -/
  | overlongNumeral (digits : Nat)
  /-- A number has more digits than are written. -/
  | overlongNumber
  /-- A cell array has this many dimensions instead of two. -/
  | notPlanar (dimensions : Nat)
  /-- The symbols chosen for a rendering lack one for this colour. -/
  | missingSymbol (color : Color)
  /-- An item that is no command, known by its text. -/
  | unsupportedItem (text : String)
  /-- A file is not UTF-8. -/
  | undecodable (defect : Text.Defect)
  deriving DecidableEq, Repr

namespace Failure

/-- The diagnostic for the reader. -/
def message : Failure → String
  | fault f => f.message
  | overlongNumeral n =>
    s!"Exceeds the limit ({maxDigits} digits) for integer string conversion: " ++
      s!"value has {n} digits; use sys.set_int_max_str_digits() to increase the limit"
  | overlongNumber =>
    s!"Exceeds the limit ({maxDigits} digits) for integer string conversion; " ++
      "use sys.set_int_max_str_digits() to increase the limit"
  | notPlanar n => s!"Expected a 2D array, got {n} dimension(s)."
  | missingSymbol c => s!"<Color.{c.name}: {c.code}>"
  | unsupportedItem text => s!"Unsupported command: {text}"
  | undecodable d => d.message

/-- The fault, if the failure belongs to the class that is reported. -/
def fault? : Failure → Option Fault
  | fault f => some f
  | _ => none

end Failure

/-- Outcomes can be compared when values and failures can. -/
instance decidableEqExcept {ε α : Type} [DecidableEq ε] [DecidableEq α] :
    DecidableEq (Except ε α)
  | .ok a, .ok b => decidable_of_iff (a = b) (by simp)
  | .error e, .error f => decidable_of_iff (e = f) (by simp)
  | .ok _, .error _ => isFalse nofun
  | .error _, .ok _ => isFalse nofun

namespace Fault

variable {f f' : Fault}

/-- What stops an operation that finds the fault: the fault, or else the failure to write its
message. -/
def raise (f : Fault) : Failure := if f.IsTellable then .fault f else .overlongNumber

theorem raise_of_isTellable (h : f.IsTellable) : f.raise = .fault f := if_pos h

theorem raise_of_not_isTellable (h : ¬ f.IsTellable) : f.raise = .overlongNumber := if_neg h

theorem raise_eq_fault_iff : f.raise = .fault f' ↔ f = f' ∧ f.IsTellable := by
  unfold raise
  split <;> simp_all

theorem raise_eq_overlongNumber_iff : f.raise = .overlongNumber ↔ ¬ f.IsTellable := by
  unfold raise
  split <;> simp_all

@[simp] theorem raise_malformedNumericInput (cause : Malformed) :
    (malformedNumericInput cause).raise = .fault (.malformedNumericInput cause) :=
  raise_of_isTellable isTellable_malformedNumericInput

end Fault

namespace Color

/-- The colour of a code, or the fault that there is none. -/
def ofCode (code : Int) : Except Failure Color :=
  match ofCode? code with
  | some c => .ok c
  | none => .error (Fault.invalidColor code).raise

end Color

end Mosaic
