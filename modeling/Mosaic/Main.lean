import Mosaic.CommandLine.Program
import Mosaic.Session
import Mosaic.Settings.Layer
import Std.Time.Format

/-!
# The command line

The outer layer: it gathers the surroundings, asks an interactive terminal for lines as long as the
session needs them, runs `CommandLine.start`, and carries out the events.
-/

namespace Mosaic.Main

open CommandLine

/-- The bytes of a file, if it can be read. -/
def readFile? (path : String) : IO (Option ByteArray) :=
  try
    return some (← IO.FS.readBinFile path)
  catch _ =>
    return none

/-- The text of these bytes, without what cannot be decoded. -/
def textOf (bytes : ByteArray) : String := (String.fromUTF8? bytes).getD ""

/-- The variables of the environment, each a name and a value. -/
def readEnvironment : IO (List (String × String)) := do
  let block := textOf ((← readFile? "/proc/self/environ").getD .empty)
  return (block.toList.splitOnP (· = '\x00')).filterMap fun entry =>
    match entry.dropWhile (· ≠ '=') with
    | _ :: v => some (String.ofList (entry.takeWhile (· ≠ '=')), String.ofList v)
    | [] => none

/-- The time at which a record is written. -/
def timeStamp : IO String := do
  return (← Std.Time.PlainDateTime.now).format "uuuu-MM-dd HH:mm:ss,SSS"

/-- Write to the error output and see that it appears. -/
def complain (text : String) : IO Unit := do
  let stream ← IO.getStderr
  stream.putStr text
  stream.flush

/-- Everything on the standard input. -/
partial def readAll (stream : IO.FS.Stream) (before : ByteArray) : IO ByteArray := do
  let block ← stream.read 65536
  if block.isEmpty then return before else readAll stream (before ++ block)

/-- Ask for lines, each behind its prompt, until the session needs no more of them. -/
def askLines (screen : Terminal.Screen) (limit : Int) : IO Supply := do
  let stream ← IO.getStdin
  let heard ← IO.mkRef ([] : List String)
  let dialogue : Dialogue (ExceptT Failure IO) := {
    tell message := complain (screen.write (Report.prompt screen.columns message))
    hear := do
      let line ← stream.getLine
      if line.isEmpty then return none
      heard.modify (· ++ [line])
      return some line }
  discard ((Session.pull limit dialogue.next).run' prompts).run
  return { lines := ← heard.get }

/-- The files that a request reads. -/
def filesOf : Option Request → IO Directory
  | some (.run { input := some path, .. }) => do
    match ← readFile? (Directory.plainPath path) with
    | some bytes => return [(path, bytes)]
    | none => return []
  | _ => return []

/-- Carry out one event. Prompts have been shown when the lines were asked for. -/
def perform (screen : Terminal.Screen) (e : Event) : IO Unit := do
  match e with
  | .prompt _ => return
  | .out text =>
    let stream ← IO.getStdout
    stream.putStr text
    stream.flush
  | .log _ | .err _ => complain (e.stderr screen (← timeStamp))

/-- Tell what is wrong with the settings. -/
def complainOfSettings (cs : List (Settings.Field × Settings.Complaint)) : IO Unit := do
  complain s!"{cs.length} validation error(s) for Settings\n"
  for (f, c) in cs do
    complain s!"{f.name}\n  {c.message} [type={c.tag}]\n"

/-- Run the program with these settings, on as many columns as are prescribed. Terminals are not
asked for theirs. -/
def runWith (arguments : List String) (settings : Settings) (prescribed : Option Nat) :
    IO UInt32 := do
  let world : World := { input := { lines := [] }, prescribed }
  let request := Request.ofArguments? arguments
  let stdin ← IO.getStdin
  let interactive ← stdin.isTty
  let files ← filesOf request
  let input ←
    match request with
    | some (.run o) =>
      match chosenStyle o settings with
      | .error _ => pure { lines := [] }
      | .ok _ =>
        if o.input.isSome then pure { lines := [] }
        else if isPrompting o settings { world with interactive } then
          askLines world.err settings.maxDimension
        else Supply.ofBytes <$> readAll stdin .empty
    | _ => pure { lines := [] }
  let transcript := start arguments settings { world with input, interactive, files }
  for e in transcript.events do
    perform world.err e
  match transcript.ending with
  | .usage =>
    complain helpText
    return 2
  | .exit code => return code.toUInt32
  | .uncaught e =>
    complain (e.message ++ "\n")
    return 1

end Mosaic.Main

open Mosaic Mosaic.Main in
/-- Build the settings, then run. -/
def main (arguments : List String) : IO UInt32 := do
  let environment ← readEnvironment
  let envFile := textOf ((← readFile? ".env").getD .empty)
  match Settings.load { environment, envFile } with
  | .ok settings => runWith arguments settings (CommandLine.World.prescribed? environment)
  | .error cs =>
    complainOfSettings cs
    return 1
