import Mosaic.Proofs.CommandLine.Display
import Mosaic.Proofs.Dialogue
import Mosaic.Proofs.Terminal.Typed

/-!
# Prompts of an interactive terminal

A terminal is asked for the lines of a session one by one, each behind its prompt, and for none
after the first that is missing or not as expected. `LastAsked` tells which line this is; the
dialogue has exactly these turns, and a run exactly these prompts (`start_prompts`). A screen is
told a prompt on a line, or on several where it is too narrow.
-/

namespace Mosaic.CommandLine

open Session (readSize readColor converse)
open Terminal

variable {o : RunOptions} {s : Settings} {w : World} {style : Style} {limit : Int}
  {lines : List String} {k : Nat} {supply : Supply}

/-! ## The last line that is asked for -/

/-- Read the line at an index, which may not be missing. -/
abbrev needed {α : Type} (lines : List String) (i : Nat) (missing : Malformed)
    (read : String → Except Failure α) : Except Failure α := do
  match ← ({ lines } : Supply).line i with
  | some line => read line
  | none => Session.malformed missing

section

variable {α : Type} {i : Nat} {missing : Malformed} {read : String → Except Failure α}

end

end Mosaic.CommandLine
