import Mosaic.CommandLine.Arguments
import Mosaic.Picture
import Mosaic.Report
import Mosaic.Settings.Basic

/-!
# The program

`start` is the whole program as a function: from the arguments, the settings and the surroundings to
a `Transcript`, the events in their order and the way the program ends. An event is a prompt, a
record of the log, or a piece of text on one of the two outputs. Events tell the time of nothing, so
the line of a record is written once a time stamp is known.

The surroundings are a `World`: the lines of the standard input, a `Directory` of the files that a
path can reach, and the terminals that the standard streams are connected to.
-/

namespace Mosaic.CommandLine

/-! ## Files -/

/-- Files by their paths from the working directory. -/
abbrev Directory := List (String × ByteArray)

namespace Directory

/-- The path without what leads nowhere: empty steps and single dots. -/
def plainPath (path : String) : String :=
  let steps := (path.toList.splitOnP (· = '/')).filter fun s => s ≠ [] && s ≠ ['.']
  let root := if path.toList.head? = some '/' then "/" else ""
  root ++ "/".intercalate (steps.map String.ofList)

/-- The path of the null device. -/
def nullDevice : String := "/dev/null"

/-- The content of the file that a path names, as it is written or step by step. -/
def content? (d : Directory) (path : String) : Option ByteArray :=
  (d.lookup path).or <|
    if plainPath path = nullDevice then some .empty
    else (d.find? fun (name, _) => plainPath name = plainPath path).map (·.2)

end Directory

/-! ## Records of the log -/

/-- How much a record matters. -/
inductive Level
  | debug
  | warning
  deriving DecidableEq, Repr

/-- The name of a level. -/
def Level.name : Level → String
  | debug => "DEBUG"
  | warning => "WARNING"

/-- One message to the log. -/
structure Record where
  /-- The part of the program that speaks. -/
  source : String
  level : Level
  message : String
  deriving DecidableEq, Repr

/-- A text filled up with spaces. -/
def padRight (n : Nat) (s : String) : String :=
  s ++ String.ofList (List.replicate (n - s.length) ' ')

/-- The line of a record behind its time stamp. -/
def Record.line (stamp : String) (r : Record) : String :=
  s!"{stamp}  {padRight 30 r.source}  {padRight 7 r.level.name}  {r.message}\n"

/-- A record that only a verbose log shows. -/
def debug (source message : String) : Record := ⟨source, .debug, message⟩

/-- The records of reading commands. -/
def decodingRecords (d : Command.Decoding) : List Record :=
  d.commands.mapIdx fun i c =>
    debug "pixelgrid.display.commands" s!"Parsed command #{i}: {c.display}"

/-- The records of executing a queue on a new machine. -/
def executionRecords (m : Machine) (cs : List Command) : List Record :=
  let source := "pixelgrid.display.interpreter"
  let applied := (m.journal cs).map fun (c, p) =>
    debug source s!"Applied {c.display}; cursor at ({p.x}, {p.y})"
  let r := m.runQueue cs
  match r.outcome with
  | .ok () => applied ++ [debug source s!"Processed {r.machine.applied} command(s)"]
  | .error _ => applied

/-- The records of painting a session. -/
def sessionRecords (s : Session) : List Record :=
  let d := Command.decode true s.wire
  let opening := [
    debug "pixelgrid.display.io"
      (s!"Read session: {s.width}x{s.height}, default {s.color.name}, " ++
        s!"{s.stream.length} stream value(s)"),
    debug "pixelgrid.display.grid"
      s!"Creating {s.width}x{s.height} grid filled with {s.color.name}"]
  let execution :=
    match d.fault, Machine.create s.width s.height s.color.code with
    | none, .ok m => executionRecords m d.commands
    | _, _ => []
  opening ++ decodingRecords d ++ execution

/-- The record of a fault that ends a command. -/
def faultRecord (f : Fault) : Record := ⟨"pixelgrid.cli", .warning, s!"{f.kind}: {f.message}"⟩

/-! ## Surroundings, events and transcripts -/

/-- What the program finds around it. A standard stream that is connected to a terminal comes with
the number of its columns, which is zero if the terminal does not tell it. -/
structure World where
  /-- The lines of the standard input. -/
  input : Supply
  /-- The standard input claims to be a terminal. -/
  interactive : Bool := false
  files : Directory := []
  /-- The number of columns that the environment prescribes. -/
  prescribed : Option Nat := none
  stdin : Option Nat := none
  stdout : Option Nat := none
  stderr : Option Nat := none

namespace World

/-- The columns that lines are laid out for: those prescribed, else those of the terminal on the
first standard stream that is connected to one, else 80. -/
def columns (w : World) : Nat :=
  w.prescribed.getD <|
    match w.stdin.or (w.stdout.or w.stderr) with
    | none | some 0 => 80
    | some n => n

/-- What the standard output is written to. A terminal is sent escapes. -/
def out (w : World) : Terminal.Screen := ⟨w.columns, w.stdout.isSome⟩

/-- What the error output is written to. -/
def err (w : World) : Terminal.Screen := ⟨w.columns, w.stderr.isSome⟩

/-- The number of columns that the variables of an environment prescribe. -/
def prescribed? (environment : List (String × String)) : Option Nat :=
  (environment.lookup "COLUMNS").bind fun text =>
    if Numeral.IsNumeral text.toList then some (Numeral.value text.toList) else none

end World

/-- Something that the program does. -/
inductive Event
  /-- It asks for a line of input. -/
  | prompt (message : String)
  /-- It speaks to the log. -/
  | log (r : Record)
  /-- It writes to the standard output. -/
  | out (text : String)
  /-- It writes to the error output. -/
  | err (text : String)
  deriving DecidableEq, Repr

/-- How the program ends. -/
inductive Ending
  /-- The arguments are refused. -/
  | usage
  | exit (code : Nat)
  /-- A failure that is not of the reported class stops it. -/
  | uncaught (e : Failure)
  deriving DecidableEq, Repr

/-- The events in their order, and the end. -/
structure Transcript where
  events : List Event
  ending : Ending
  deriving DecidableEq

namespace Event

/-- What an event adds to the standard output. -/
def stdout : Event → String
  | out text => text
  | _ => ""

/-- What an event adds to the error output. -/
def stderr (screen : Terminal.Screen) (stamp : String) : Event → String
  | prompt message => screen.write (Report.prompt screen.columns message)
  | log r => r.line stamp
  | err text => text
  | out _ => ""

end Event

namespace Transcript

/-- The standard output. -/
def stdout (t : Transcript) : String := String.join (t.events.map Event.stdout)

/-- The error output, with one time stamp for all records. -/
def stderr (screen : Terminal.Screen) (stamp : String) (t : Transcript) : String :=
  String.join (t.events.map (Event.stderr screen stamp))

/-- Events in front. -/
def after (before : List Event) (t : Transcript) : Transcript :=
  { t with events := before ++ t.events }

end Transcript

/-- The prompts for the three lines of a session. -/
def prompts : List String :=
  ["Enter the display size (width height):",
    "Enter the default colour (1 - red, 2 - green, 3 - cyan):",
    "Enter the command stream:"]

/-- A character of the numbers in an escape sequence. -/
def isParameter (c : Char) : Bool := c = ';' || c = '?' || c.isDigit

/-- The length of the escape sequence that a text starts with, less its first character. -/
def escapeTail? : List Char → Option Nat
  | '\x1b' :: '[' :: s =>
    match s.dropWhile isParameter with
    | c :: _ => if c.isAlpha then some ((s.takeWhile isParameter).length + 2) else none
    | [] => none
  | _ => none

/-- Drop escape sequences, as for an output that is no terminal; the first `skip` characters belong
to a sequence. -/
def dropEscapes : (skip : Nat) → List Char → List Char
  | _, [] => []
  | skip + 1, _ :: s => dropEscapes skip s
  | 0, c :: s =>
    match escapeTail? (c :: s) with
    | some n => dropEscapes n s
    | none => c :: dropEscapes 0 s

/-- End with a failure: a fault is logged and shown, anything else is not caught. -/
def fail (w : World) (e : Failure) : Transcript :=
  match e.fault? with
  | some f =>
    ⟨[.log (faultRecord f),
      .err (w.err.write (Report.fault w.err.columns f.kind f.message))], .exit 1⟩
  | none => ⟨[], .uncaught e⟩

/-- The events of records that are logged only on demand. -/
def logged (verbose : Bool) (records : List Record) : List Event :=
  if verbose then records.map .log else []

/-- The style to draw in: the option's if it is not empty, else that of the settings; or the name
that is no style. -/
def chosenStyle (o : RunOptions) (s : Settings) : Except String Style :=
  match o.style with
  | none => .ok s.style
  | some name =>
    if name.isEmpty then .ok s.style else (Style.ofName? name).elim (.error name) .ok

/-- The lines that a session is read from, unless the input file does not exist. -/
def inputOf? (o : RunOptions) (w : World) : Option Supply :=
  match o.input with
  | none => some w.input
  | some path => (w.files.content? path).map Supply.ofBytes

/-- Prompts are shown for the lines of an interactive terminal. -/
def isPrompting (o : RunOptions) (s : Settings) (w : World) : Bool :=
  o.input.isNone && s.prompts && w.interactive

/-- The events of drawing a finished grid. -/
def drawing (o : RunOptions) (s : Settings) (w : World) (style : Style) (g : Grid) : List Event :=
  let picture :=
    match style with
    | .plain => g.render ++ "\n"
    | .color => w.out.write (Report.grid w.out.columns s.symbol g)
  let summary :=
    if o.summary then [.err (w.err.write (Report.summary w.err.columns g))] else []
  .out picture :: summary

/-- Paint what a session describes. -/
def paintSession (o : RunOptions) (s : Settings) (w : World) (style : Style) (session : Session) :
    Transcript :=
  Transcript.after (logged o.verbose (sessionRecords session)) <|
    match session.paint with
    | .ok g => ⟨drawing o s w style g, .exit 0⟩
    | .error e => fail w e

/-- Read a session and paint it. -/
def runDisplay (o : RunOptions) (s : Settings) (w : World) : Transcript :=
  match inputOf? o w with
  | none => ⟨[], .usage⟩
  | some supply =>
    match chosenStyle o s with
    | .error name =>
      ⟨[.err (s!"Unknown style: {String.ofList (dropEscapes 0 name.toList)}\n")], .exit 2⟩
    | .ok style =>
      let reading := Session.converse s.maxDimension supply
      let asked := if isPrompting o s w then (prompts.take reading.asked).map .prompt else []
      Transcript.after asked <|
        match reading.outcome with
        | .ok session => paintSession o s w style session
        | .error e => fail w e

/-- Read tokens as a command stream and list the queue. -/
def listCommands (tokens : List String) (verbose : Bool) (w : World) : Transcript :=
  match Session.readStream (" ".intercalate tokens) with
  | .error e => fail w e
  | .ok stream =>
    let d := Command.decode true (stream.map Int.ofNat)
    Transcript.after (logged verbose (decodingRecords d)) <|
      match d.toExcept with
      | .ok cs => ⟨[.out (w.out.write (Report.commands w.out.columns cs))], .exit 0⟩
      | .error e => fail w e

/-- How the program is called. -/
def helpText : String :=
  "Usage: pixelgrid [--help] COMMAND [ARGS]...\n\n" ++
  "Command interpreter for a 2D pixel display.\n\n" ++
  "Commands:\n" ++
  "  run    Read the display description and print the resulting grid.\n" ++
  "         [--input FILE] [--style plain|color] [--summary] [--verbose]\n" ++
  "  parse  Parse a command stream and list the command queue without running it.\n" ++
  "         TOKENS... [--verbose]\n"

/-- The whole program. -/
def start (arguments : List String) (s : Settings) (w : World) : Transcript :=
  match Request.ofArguments? arguments with
  | none => ⟨[], .usage⟩
  | some .help => ⟨[.out helpText], .exit 0⟩
  | some (.run o) => runDisplay o s w
  | some (.parse tokens verbose) => listCommands tokens verbose w

end Mosaic.CommandLine
