import Mosaic.Failure

/-!
# Commands

A display obeys two commands: move the cursor to a position, and paint the cell under the cursor. On
the wire a command is its opcode followed by its operands, and a queue is the concatenation of its
commands (`encode`). Targets and colour codes are arbitrary integers here; what they may be depends
on the display and on who checks.

A stream of integers is read from the left, an opcode and its operands at a time. `decode` gives the
commands that precede the first fault together with that fault; `parse` asks for the whole stream.
Colour operands are checked as they are read, or left to whoever runs the queue.
-/

namespace Mosaic

/-- One instruction to the display. -/
inductive Command
  /-- Move the cursor to an absolute position. -/
  | moveCursor (target : Position)
  /-- Paint the cell under the cursor. -/
  | setColor (code : Int)
  deriving DecidableEq, Repr

namespace Command

/-- The opcode of a cursor move. -/
def moveOpcode : Int := 1

/-- The opcode of a paint. -/
def paintOpcode : Int := 2

/-- The wire form of a command. -/
def encode : Command → List Int
  | moveCursor p => [moveOpcode, p.x, p.y]
  | setColor code => [paintOpcode, code]

/-- The wire form of a queue. -/
def encodeAll (cs : List Command) : List Int := cs.flatMap encode

/-- The command's colour code, where it has one, is legal. -/
def HasLegalColor : Command → Prop
  | moveCursor _ => True
  | setColor code => Color.IsLegal code

instance (c : Command) : Decidable c.HasLegalColor :=
  match c with
  | moveCursor _ => isTrue trivial
  | setColor code => inferInstanceAs (Decidable (Color.IsLegal code))

/-! ## Commands in words -/

/-- The name of the command's kind. -/
def name : Command → String
  | moveCursor _ => "MoveCursor"
  | setColor _ => "SetColor"

/-- What the command does, in words; an illegal colour has no name. Like `display`, it writes out
numbers of any length. -/
def describe : Command → String
  | moveCursor p => s!"move cursor to ({p.x}, {p.y})"
  | setColor code =>
    let label := ((Color.ofCode? code).map Color.label).getD "?"
    s!"set colour {code} ({label})"

/-- The command with its fields, as logs and diagnostics show it. -/
def display : Command → String
  | moveCursor p => s!"MoveCursor(x={p.x}, y={p.y})"
  | setColor code => s!"SetColor(code={code})"

/-! ## Reading a stream -/

/-- The commands read before the first fault, and that fault if there is one. -/
structure Decoding where
  commands : List Command
  fault : Option Fault
  deriving DecidableEq, Repr

namespace Decoding

/-- Nothing read, and nothing wrong. -/
def done : Decoding := ⟨[], none⟩

/-- Nothing read before this fault. -/
def stop (f : Fault) : Decoding := ⟨[], some f⟩

/-- One more command in front. -/
def cons (c : Command) (d : Decoding) : Decoding := { d with commands := c :: d.commands }

/-- All commands, provided the whole stream was read; otherwise the fault is raised. -/
def toExcept (d : Decoding) : Except Failure (List Command) :=
  match d.fault with
  | none => .ok d.commands
  | some f => .error f.raise

end Decoding

/-- Read a stream whose first integer has index `position`. -/
def decodeFrom (checkColors : Bool) (position : Nat) : List Int → Decoding
  | [] => .done
  | opcode :: rest =>
    if opcode = moveOpcode then
      match rest with
      | x :: y :: rest => (decodeFrom checkColors (position + 3) rest).cons (.moveCursor ⟨x, y⟩)
      | operands => .stop (.truncatedInput opcode 2 operands.length)
    else if opcode = paintOpcode then
      match rest with
      | code :: rest =>
        if checkColors && !(Color.ofCode? code).isSome then .stop (.invalidColor code)
        else (decodeFrom checkColors (position + 2) rest).cons (.setColor code)
      | [] => .stop (.truncatedInput opcode 1 0)
    else .stop (.invalidCommand opcode position)

/-- Read a stream from its start. -/
def decode (checkColors : Bool) (stream : List Int) : Decoding := decodeFrom checkColors 0 stream

/-- Read a whole stream as a queue of commands. -/
def parse (checkColors : Bool) (stream : List Int) : Except Failure (List Command) :=
  (decode checkColors stream).toExcept

end Command

end Mosaic
