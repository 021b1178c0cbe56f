import Mosaic.Failure
import Mosaic.Text.Basic

/-!
# Sessions

A display is described by three lines of text: its size, its default colour, and a stream of
numbers. The third line may be missing. `readSize`, `readColor` and `readStream` read one line each;
`read` asks a supply of lines for the first three, one after the other, and stops at the first
failure.

An unsigned number is written with ASCII digits; leading zeros are allowed and count as digits, and
blanks around it are skipped. A sign, a separator or a digit of another script makes the token
malformed, and a numeral longer than `maxDigits` is refused for its length.

Input is asked for line by line. A `Supply` is what there is to be had: the lines of a text, or
those that a file of bytes yields before the bytes that are no text. A file is read in blocks and
decoded block by block, so a defect stops everything from the first line that needs the block in
which the defect shows, and its position counts from the first byte that was still undecoded then.

A terminal gives its lines one by one, each when it is asked for it. Two parties take turns:
`Dialogue.next` shows a message and reads a line, as long as there are messages to show and lines to
read, and `Session.pull` takes the lines of a session from it and gives up at the first that is
missing or not as expected. Neither knows how messages are shown and lines are read. A `Tape` does
it without a terminal: it has the lines, and notes in which order they are asked for.
-/

namespace Mosaic

/-! ## Numerals -/

namespace Numeral

/-- The number that a row of decimal digits denotes. -/
def value (digits : List Char) : Nat := Nat.ofDigitChars 10 digits 0

/-- A non-empty row of ASCII digits. -/
def IsNumeral (s : List Char) : Prop := s ≠ [] ∧ ∀ c ∈ s, c.isDigit

-- The characters of `s` are tried, and not all that there are.
instance (s : List Char) : Decidable (IsNumeral s) :=
  @instDecidableAnd _ _ _ (List.decidableBAll _ s)

/-- Read a token as an unsigned number. -/
def parse (token : String) : Except Failure Nat :=
  let s := Text.trim token.toList
  if IsNumeral s then
    if s.length ≤ maxDigits then .ok (value s) else .error (.overlongNumeral s.length)
  else .error (.fault (.malformedNumericInput (.token token)))

/-- Read a line of numbers; the first token that is none decides the failure. -/
def parseAll (line : String) : Except Failure (List Nat) := (Text.tokens line).mapM parse

end Numeral

/-! ## Supplies of lines -/

/-- Lines to be asked for in order. After the last one the supply has ended, or it breaks because
the bytes that follow are no text. -/
structure Supply where
  lines : List String
  defect : Option Text.Defect := none
  deriving DecidableEq, Repr

namespace Supply

/-- The line at an index: `none` past the end, a failure where the supply breaks. -/
def line (s : Supply) (i : Nat) : Except Failure (Option String) :=
  match s.lines[i]?, s.defect with
  | some l, _ => .ok (some l)
  | none, none => .ok none
  | none, some d => .error (.undecodable d)

/-- The lines of a text. -/
def ofText (text : String) : Supply := { lines := Text.lines text }

/-- The number of bytes read at a time. -/
def blockSize : Nat := 8192

/-- The number of bytes decoded before the block in which a defect shows; past the last block it
shows when the end is reached. -/
def decodedBefore (size : Nat) (d : Text.Defect) : Nat :=
  let shown := d.position + d.certainAfter
  if shown ≤ size then (shown - 1) / blockSize * blockSize else size

/-- The last place up to `position` where a character starts. -/
def characterStart (bytes : ByteArray) : (position : Nat) → Nat
  | 0 => 0
  | position + 1 =>
    if h : position + 1 < bytes.size then
      if 0x80 ≤ bytes[position + 1] && bytes[position + 1] ≤ 0xBF then
        characterStart bytes position
      else position + 1
    else position + 1

/-- The lines that are complete in a text to which more may follow. A final carriage return may be
the first half of a line break. -/
def completeLines (text : String) : List String :=
  let s := text.toList
  let s := if s.getLast? = some '\r' then s.dropLast else s
  ((Text.cutLines (Text.unifyBreaks s)).filter (·.getLast? = some '\n')).map String.ofList

/-- The lines of a file with a defect. -/
def broken (bytes : ByteArray) (d : Text.Defect) : Supply :=
  let before := decodedBefore bytes.size d
  let start := if d.position ≤ before then d.position else characterStart bytes before
  { lines := completeLines ((String.fromUTF8? (bytes.extract 0 start)).getD "")
    defect := some { d with position := d.position - start } }

/-- The lines of a file. -/
def ofBytes (bytes : ByteArray) : Supply :=
  match Text.decodeUtf8 bytes with
  | .ok text => ofText text
  | .error d => broken bytes d

end Supply

/-! ## Reading a session -/

/-- The largest side a display may have unless the settings say otherwise. -/
def defaultMaxDimension : Int := 1024

/-- Everything needed to run a display once. -/
structure Session where
  width : Nat
  height : Nat
  color : Color
  stream : List Nat
  deriving DecidableEq, Repr

namespace Session

/-- Fail because a line is not as expected. -/
def malformed {α : Type} (cause : Malformed) : Except Failure α :=
  .error (.fault (.malformedNumericInput cause))

/-- Read a width and a height, both from 1 to `limit`. -/
def readSize (limit : Int) (line : String) : Except Failure (Nat × Nat) :=
  match Text.tokens line with
  | [first, second] => do
    let width ← Numeral.parse first
    let height ← Numeral.parse second
    if width = 0 ∨ height = 0 then
      .error (Fault.invalidDimensions width height none).raise
    else if limit < width ∨ limit < height then
      .error (Fault.invalidDimensions width height (some limit)).raise
    else .ok (width, height)
  | parts => malformed (.sizeCount parts.length)

/-- Read a single colour code. -/
def readColor (line : String) : Except Failure Color :=
  match Text.tokens line with
  | [token] => do
    let code ← Numeral.parse token
    Color.ofCode code
  | parts => malformed (.colorCount parts.length)

/-- Read a stream of numbers. -/
def readStream (line : String) : Except Failure (List Nat) := Numeral.parseAll line

/-- How many lines were asked for, and what came of them. -/
structure Reading where
  asked : Nat
  outcome : Except Failure Session
  deriving DecidableEq

/-- The size line of a supply. -/
def askSize (limit : Int) (s : Supply) : Except Failure (Nat × Nat) := do
  match ← s.line 0 with
  | some l => readSize limit l
  | none => malformed .missingSize

/-- The colour line of a supply. -/
def askColor (s : Supply) : Except Failure Color := do
  match ← s.line 1 with
  | some l => readColor l
  | none => malformed .missingColor

/-- The stream line of a supply; a missing one is empty. -/
def askStream (s : Supply) : Except Failure (List Nat) := do
  readStream ((← s.line 2).getD "")

/-- Ask for the three lines in turn. A line that fails is the last one asked for. -/
def converse (limit : Int) (s : Supply) : Reading :=
  match askSize limit s with
  | .error e => ⟨1, .error e⟩
  | .ok (width, height) =>
    match askColor s with
    | .error e => ⟨2, .error e⟩
    | .ok color => ⟨3, (askStream s).map fun stream => ⟨width, height, color, stream⟩⟩

/-- Read a session from the first three of these lines. -/
def read (limit : Int) (lines : List String) : Except Failure Session :=
  (converse limit { lines }).outcome

end Session

/-! ## Dialogues -/

/-- The two things that are done in a dialogue. -/
structure Dialogue (m : Type → Type) where
  /-- Show a message. -/
  tell : String → m Unit
  /-- Read a line; there is none once the input has ended. -/
  hear : m (Option String)

/-- The next line, behind the first of the messages that are left. Once the input has ended or no
message is left, nothing is shown or read any more. -/
def Dialogue.next {m : Type → Type} [Monad m] (d : Dialogue m) :
    StateT (List String) m (Option String) := do
  match ← get with
  | [] => return none
  | message :: messages =>
    d.tell message
    let line ← d.hear
    set (if line.isSome then messages else [])
    return line

namespace Session

variable {m : Type → Type} [Monad m] [MonadExcept Failure m]

/-- Read the next line, which may not be missing. -/
def require {α : Type} (next : m (Option String)) (missing : Malformed)
    (read : String → Except Failure α) : m α := do
  match ← next with
  | some line => ofExcept (read line)
  | none => ofExcept (malformed missing)

/-- Read a session from the lines that `next` gives. -/
def pull (limit : Int) (next : m (Option String)) : m Session := do
  let (width, height) ← require next .missingSize (readSize limit)
  let color ← require next .missingColor readColor
  let stream ← ofExcept (readStream ((← next).getD ""))
  return ⟨width, height, color, stream⟩

end Session

/-! ## Dialogues with a tape -/

/-- What is noted of a dialogue. -/
inductive Act
  /-- The message is shown. -/
  | tell (message : String)
  /-- The line at the index is read, or the end of the input found in its place. -/
  | hear (index : Nat)
  deriving DecidableEq, Repr

/-- A supply of lines, the number of them that have been asked for, and what has been done. -/
structure Tape where
  supply : Supply
  heard : Nat := 0
  acts : List Act := []

namespace Tape

/-- A message is noted. -/
def tell (message : String) (t : Tape) : Tape := { t with acts := t.acts ++ [.tell message] }

/-- A line is read. -/
def hear (t : Tape) : Tape := { t with heard := t.heard + 1, acts := t.acts ++ [.hear t.heard] }

/-- Tapes take part in a dialogue. A failure of the supply ends it. -/
def dialogue : Dialogue (ExceptT Failure (StateM Tape)) where
  tell message := modify (tell message)
  hear := do
    let t ← get
    set t.hear
    ofExcept (t.supply.line t.heard)

/-- Read a session from a tape, with a message for each line: what comes of it, and the tape
afterwards. -/
def converse (limit : Int) (messages : List String) (supply : Supply) :
    Except Failure Session × Tape :=
  ((Session.pull limit dialogue.next).run' messages).run.run { supply }

end Tape

end Mosaic
