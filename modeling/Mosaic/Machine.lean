import Mosaic.Command
import Mosaic.Grid

/-!
# The machine

A machine is a grid with a cursor on it and a count of the commands it has applied. `step` executes
one item or fails and leaves the machine as it is; `run` executes a list of items, stops at the
first failure, and hands back the machine as that left it. A machine may be used for many actions in
a row, and lives on when one of them fails: `perform` is one action, `performAll` a history, and
`accepted` lists the commands that took effect on the way.

Two other accounts stand beside it. `interpret` executes an integer stream in one pass, each command
as soon as its last operand is there, so whatever comes before a failure has already changed the
grid. And what a queue of commands does to a display can be told without a display: where the cursor
goes (`lastTarget`), which code a position is given last (`lastWrite`), and which items can be
executed on a display of a given size at all (`refusal?`).
-/

namespace Mosaic

/-- What may be handed to a machine: a command, or anything else. That is known by its text, which
it lacks if a number in it is too long to be written. -/
inductive Item
  | command (c : Command)
  | other (text : Option String)
  deriving DecidableEq, Repr

/-- What stops the execution of something that is no command. -/
def Item.unsupported : Option String → Failure
  | some text => .unsupportedItem text
  | none => .overlongNumber

/-- A display under a cursor. -/
structure Machine where
  grid : Grid
  cursor : Position
  /-- The number of commands applied so far. -/
  applied : Nat
  deriving DecidableEq

namespace Machine

/-- A new machine over a grid: the cursor is in the upper left corner. -/
def new (g : Grid) : Machine := ⟨g, .origin, 0⟩

/-- A new machine over a grid filled with one colour. -/
def create (width height code : Int) : Except Failure Machine :=
  (Grid.create width height code).map new

/-- Execute one command. A move is checked against the display and a paint by its colour; the grid
repeats both checks before it writes. -/
def apply (m : Machine) : Command → Except Failure Machine
  | .moveCursor p =>
    if p.Inside m.grid.width m.grid.height then
      .ok { m with cursor := p, applied := m.applied + 1 }
    else .error (m.grid.outside p).raise
  | .setColor code => do
    let color ← Color.ofCode code
    let grid ← m.grid.set m.cursor color.code
    return { m with grid := grid, applied := m.applied + 1 }

/-- Execute one item; what is no command is refused. -/
def step (m : Machine) : Item → Except Failure Machine
  | .command c => m.apply c
  | .other text => .error (Item.unsupported text)

/-- The machine as a run leaves it, and how the run ended. -/
structure Run where
  machine : Machine
  outcome : Except Failure Unit
  deriving DecidableEq

/-- Execute items in order up to the first failure. -/
def run (m : Machine) : List Item → Run
  | [] => ⟨m, .ok ()⟩
  | i :: is =>
    match m.step i with
    | .ok m' => m'.run is
    | .error e => ⟨m, .error e⟩

/-- Execute the commands of a queue. -/
def runQueue (m : Machine) (cs : List Command) : Run := m.run (cs.map .command)

/-- Read a stream as a queue and execute it; a stream that cannot be read changes nothing. -/
def runStream (m : Machine) (checkColors : Bool) (stream : List Int) : Run :=
  match Command.parse checkColors stream with
  | .ok cs => m.runQueue cs
  | .error e => ⟨m, .error e⟩

/-- The commands that a run of a queue applies, each with the cursor position after it. -/
def journal (m : Machine) : List Command → List (Command × Position)
  | [] => []
  | c :: cs =>
    match m.apply c with
    | .ok m' => (c, m'.cursor) :: m'.journal cs
    | .error _ => []

end Machine

namespace Grid

/-- What processing a stream makes of a grid, and how it ended. -/
structure Processed where
  grid : Grid
  outcome : Except Failure Unit
  deriving DecidableEq

/-- Read a stream, then execute it on the grid from the upper left corner. -/
def process (g : Grid) (stream : List Int) : Processed :=
  let r := (Machine.new g).runStream true stream
  ⟨r.machine.grid, r.outcome⟩

end Grid

namespace Machine

/-! ## Histories -/

/-- Something asked of a machine. -/
inductive Action
  /-- Execute one item. -/
  | apply (i : Item)
  /-- Execute items in order. -/
  | run (is : List Item)
  /-- Read a stream, then execute it. -/
  | stream (checkColors : Bool) (values : List Int)
  deriving DecidableEq, Repr

/-- The machine after an action, and how the action ended. -/
def perform (m : Machine) : Action → Run
  | .apply i => m.run [i]
  | .run is => m.run is
  | .stream checkColors values => m.runStream checkColors values

/-- The machine after a history. -/
def performAll (m : Machine) (actions : List Action) : Machine :=
  actions.foldl (fun m a => (m.perform a).machine) m

/-- The commands that a list of items makes the machine apply. -/
def acceptedItems (m : Machine) : List Item → List Command
  | [] => []
  | .command c :: is =>
    match m.apply c with
    | .ok m' => c :: m'.acceptedItems is
    | .error _ => []
  | .other _ :: _ => []

/-- The commands that an action makes the machine apply. -/
def acceptedBy (m : Machine) : Action → List Command
  | .apply i => m.acceptedItems [i]
  | .run is => m.acceptedItems is
  | .stream checkColors values =>
    match Command.parse checkColors values with
    | .ok cs => m.acceptedItems (cs.map .command)
    | .error _ => []

/-- The commands that a history makes the machine apply, in order. -/
def accepted (m : Machine) : List Action → List Command
  | [] => []
  | a :: as => m.acceptedBy a ++ (m.perform a).machine.accepted as

/-! ## Execution in one pass -/

/-- Execute a stream, whose first integer has index `position`, while reading it. -/
def interpretFrom (m : Machine) (position : Nat) : List Int → Run
  | [] => ⟨m, .ok ()⟩
  | opcode :: rest =>
    if opcode = Command.moveOpcode then
      match rest with
      | x :: y :: rest =>
        match m.apply (.moveCursor ⟨x, y⟩) with
        | .ok m' => m'.interpretFrom (position + 3) rest
        | .error e => ⟨m, .error e⟩
      | operands => ⟨m, .error (Fault.truncatedInput opcode 2 operands.length).raise⟩
    else if opcode = Command.paintOpcode then
      match rest with
      | code :: rest =>
        match m.apply (.setColor code) with
        | .ok m' => m'.interpretFrom (position + 2) rest
        | .error e => ⟨m, .error e⟩
      | [] => ⟨m, .error (Fault.truncatedInput opcode 1 0).raise⟩
    else ⟨m, .error (Fault.invalidCommand opcode position).raise⟩

/-- Execute a stream from its start while reading it. -/
def interpret (m : Machine) (stream : List Int) : Run := m.interpretFrom 0 stream

end Machine

/-! ## What a queue writes -/

namespace Command

/-- Where a cursor that starts at `start` ends up. -/
def lastTarget (start : Position) : List Command → Position
  | [] => start
  | moveCursor p :: cs => lastTarget p cs
  | setColor _ :: cs => lastTarget start cs

/-- The code of the last paint with the cursor at `p`, for a cursor that starts at `start`. -/
def lastWrite (start : Position) (p : Position) : List Command → Option Int
  | [] => none
  | moveCursor q :: cs => lastWrite q p cs
  | setColor code :: cs => (lastWrite start p cs).or (if start = p then some code else none)

theorem lastTarget_append (start : Position) (cs ds : List Command) :
    lastTarget start (cs ++ ds) = lastTarget (lastTarget start cs) ds := by
  induction cs generalizing start with
  | nil => rfl
  | cons c cs ih =>
    rcases c with q | code
    · exact ih q
    · exact ih start

/-- The last write of two queues in turn is that of the second, or else that of the first. -/
theorem lastWrite_append (start p : Position) (cs ds : List Command) :
    lastWrite start p (cs ++ ds) =
      (lastWrite (lastTarget start cs) p ds).or (lastWrite start p cs) := by
  induction cs generalizing start with
  | nil => simp [lastTarget, lastWrite]
  | cons c cs ih =>
    rcases c with q | code
    · exact ih q
    · simp [lastTarget, lastWrite, ih, Option.or_assoc]

/-- What is written last was the code of a paint. -/
theorem mem_of_lastWrite {start p : Position} {cs : List Command} {code : Int}
    (h : lastWrite start p cs = some code) : setColor code ∈ cs := by
  induction cs generalizing start with
  | nil => cases h
  | cons c cs ih =>
    rcases c with q | other
    · exact List.mem_cons_of_mem _ (ih h)
    · rw [lastWrite, Option.or_eq_some_iff] at h
      rcases h with hlater | ⟨-, hnow⟩
      · exact List.mem_cons_of_mem _ (ih hlater)
      · obtain ⟨-, rfl⟩ : start = p ∧ other = code := by simpa using hnow
        exact List.mem_cons_self

end Command

namespace Item

/-- Why an item cannot be executed on a display of this size. -/
def refusal? (width height : Nat) : Item → Option Failure
  | command (.moveCursor p) =>
    if p.Inside width height then none else some (Fault.cursorOutOfBounds p width height).raise
  | command (.setColor code) =>
    if Color.IsLegal code then none else some (Fault.invalidColor code).raise
  | other text => some (unsupported text)

/-- The command of an item that is one. -/
def command? : Item → Option Command
  | command c => some c
  | other _ => none

/-- The commands in front of the first item that cannot be executed. -/
def executable (width height : Nat) (items : List Item) : List Command :=
  (items.takeWhile fun i => (i.refusal? width height).isNone).filterMap command?

end Item

end Mosaic
