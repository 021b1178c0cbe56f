/-!
# Arguments

A command line is a command name followed by options and tokens. Options have a long name, some a
short one; a value follows as the next argument or, attached, after `=` or right behind the short
name. Short options without a value can be written together. `--` ends the options, and the last of
several values for one option counts.

`Request.ofArguments?` is `none` for arguments that cannot be understood.
-/

namespace Mosaic.CommandLine

/-! ## Switches -/

/-- The switches that options name. -/
inductive Switch
  | input
  | style
  | summary
  | verbose
  | help
  deriving DecidableEq, Repr

namespace Switch

/-- The long name, without its dashes. -/
def long : Switch → List Char
  | input => "input".toList
  | style => "style".toList
  | summary => "summary".toList
  | verbose => "verbose".toList
  | help => "help".toList

/-- The short name. -/
def short? : Switch → Option Char
  | input => some 'i'
  | style => some 's'
  | verbose => some 'v'
  | summary | help => none

/-- A value belongs to the switch. -/
def takesValue : Switch → Bool
  | input | style => true
  | summary | verbose | help => false

/-- The switches of the command that paints a display. -/
def ofRun : List Switch := [input, style, summary, verbose, help]

/-- The switches of the command that lists a queue. -/
def ofParse : List Switch := [verbose, help]

/-- The switches before the command name. -/
def ofProgram : List Switch := [help]

end Switch

/-- A switch that was set, with its value if it takes one. -/
abbrev Setting := Switch × Option String

/-- What a single argument says. -/
inductive Reading
  /-- It is no option. -/
  | token
  | settings (given : List Setting)
  /-- The last of its switches takes the next argument as its value. -/
  | awaiting (given : List Setting) (last : Switch)
  /-- It names no switch, or a value stands where none belongs. -/
  | refused
  deriving DecidableEq, Repr

namespace Reading

/-- A setting in front. -/
def cons (s : Setting) : Reading → Reading
  | settings given => settings (s :: given)
  | awaiting given last => awaiting (s :: given) last
  | r => r

/-- Read short names written together. -/
def ofShort (known : List Switch) : List Char → Reading
  | [] => settings []
  | c :: s =>
    match known.find? (·.short? = some c) with
    | none => refused
    | some switch =>
      if switch.takesValue then
        if s.isEmpty then awaiting [] switch else settings [(switch, some (String.ofList s))]
      else (ofShort known s).cons (switch, none)

/-- Read a long name, and a value after `=`. -/
def ofLong (known : List Switch) (s : List Char) : Reading :=
  let name := s.takeWhile (· ≠ '=')
  let value? := ((s.dropWhile (· ≠ '=')).tail?).map String.ofList
  match known.find? (·.long = name) with
  | none => refused
  | some switch =>
    match switch.takesValue, value? with
    | true, some v => settings [(switch, some v)]
    | true, none => awaiting [] switch
    | false, none => settings [(switch, none)]
    | false, some _ => refused

/-- Read one argument. A single dash is a token. -/
def ofArgument (known : List Switch) (argument : String) : Reading :=
  match argument.toList with
  | '-' :: '-' :: s => ofLong known s
  | '-' :: c :: s => ofShort known (c :: s)
  | _ => token

end Reading

/-- Sort arguments into settings and tokens. -/
def sortArguments? (known : List Switch) : List String → Option (List Setting × List String)
  | [] => some ([], [])
  | "--" :: rest => some ([], rest)
  | argument :: rest =>
    match Reading.ofArgument known argument with
    | .token => (sortArguments? known rest).map fun (given, tokens) => (given, argument :: tokens)
    | .settings new => (sortArguments? known rest).map fun (given, tokens) => (new ++ given, tokens)
    | .awaiting new last =>
      match rest with
      | [] => none
      | v :: rest => (sortArguments? known rest).map fun (given, tokens) =>
          (new ++ (last, some v) :: given, tokens)
    | .refused => none

/-- Sort the arguments up to the command name, which starts the tokens. -/
def sortLeading? : List String → Option (List Setting × List String)
  | [] => some ([], [])
  | "--" :: rest => some ([], rest)
  | argument :: rest =>
    match Reading.ofArgument Switch.ofProgram argument with
    | .token => some ([], argument :: rest)
    | .settings new => (sortLeading? rest).map fun (given, tokens) => (new ++ given, tokens)
    | _ => none

/-! ## Requests -/

/-- How to paint a display. -/
structure RunOptions where
  /-- The file to read instead of the standard input. -/
  input : Option String := none
  /-- The style that overrides the settings. -/
  style : Option String := none
  summary : Bool := false
  verbose : Bool := false
  deriving DecidableEq, Repr

/-- What the program is asked to do. -/
inductive Request
  | help
  /-- Paint the display that the input describes. -/
  | run (options : RunOptions)
  /-- List the commands that these tokens make up. -/
  | parse (tokens : List String) (verbose : Bool)
  deriving DecidableEq, Repr

/-- The switch was set. -/
def isSet (given : List Setting) (s : Switch) : Bool := given.any (·.1 = s)

/-- The value given last for a switch. -/
def valueOf? (given : List Setting) (s : Switch) : Option String := (given.reverse.lookup s).join

namespace Request

/-- The request to paint. Tokens have no place in it. -/
def ofRun? (arguments : List String) : Option Request := do
  let (given, tokens) ← sortArguments? Switch.ofRun arguments
  if isSet given .help then return help
  guard tokens.isEmpty
  return run {
    input := valueOf? given .input
    style := valueOf? given .style
    summary := isSet given .summary
    verbose := isSet given .verbose }

/-- The request to list. It needs at least one token. -/
def ofParse? (arguments : List String) : Option Request := do
  let (given, tokens) ← sortArguments? Switch.ofParse arguments
  if isSet given .help then return help
  guard !tokens.isEmpty
  return parse tokens (isSet given .verbose)

/-- What the arguments of the program ask for. -/
def ofArguments? (arguments : List String) : Option Request := do
  let (given, rest) ← sortLeading? arguments
  if isSet given .help then return help
  match rest with
  | "run" :: arguments => ofRun? arguments
  | "parse" :: arguments => ofParse? arguments
  | _ => none

end Request

end Mosaic.CommandLine
