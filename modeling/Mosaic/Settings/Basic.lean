import Mosaic.Value

/-!
# Settings

The settings of a display are how it is drawn, the symbol of a coloured cell, whether input is
prompted for, and the largest side. Each comes from a plain value, which may be loosely typed: a
text can stand for a number or a truth value. `Settings.ofChoice` reads the value chosen for every
field and reports one complaint for each field whose value will not do.
-/

namespace Mosaic

/-- How a finished grid is drawn. -/
inductive Style
  /-- Numeric codes. -/
  | plain
  /-- Coloured symbols. -/
  | color
  deriving DecidableEq, Repr

/-- The style of a name. -/
def Style.ofName? (name : String) : Option Style :=
  if name = "plain" then some .plain else if name = "color" then some .color else none

/-- The name of a style. -/
def Style.name : Style → String
  | plain => "plain"
  | color => "color"

/-- Options for reading and drawing a display. -/
structure Settings where
  style : Style
  /-- The symbol drawn for a cell in colour style. -/
  symbol : String
  /-- Prompt for input on an interactive terminal. -/
  prompts : Bool
  /-- The largest width or height accepted. -/
  maxDimension : Nat
  deriving DecidableEq, Repr

namespace Settings

/-- One of the settings. -/
inductive Field
  | style
  | symbol
  | prompts
  | maxDimension
  deriving DecidableEq, Repr

/-- The name of a setting as an argument. -/
def Field.name : Field → String
  | style => "render_style"
  | symbol => "cell_symbol"
  | prompts => "show_prompts"
  | maxDimension => "max_dimension"

/-- Why a value will not do for a field. -/
inductive Complaint
  | unknownStyle
  | notText
  | emptyText
  | notTruth
  | unreadableTruth
  | notNumber
  | unreadableNumber
  | overlongNumber
  | fractionalNumber
  | endlessNumber
  | belowOne
  deriving DecidableEq, Repr

/-- The short name of a complaint. -/
def Complaint.tag : Complaint → String
  | unknownStyle => "literal_error"
  | notText => "string_type"
  | emptyText => "string_too_short"
  | notTruth => "bool_type"
  | unreadableTruth => "bool_parsing"
  | notNumber => "int_type"
  | unreadableNumber => "int_parsing"
  | overlongNumber => "int_parsing_size"
  | fractionalNumber => "int_from_float"
  | endlessNumber => "finite_number"
  | belowOne => "greater_than_equal"

/-- A complaint in words. -/
def Complaint.message : Complaint → String
  | unknownStyle => "Input should be 'plain' or 'color'"
  | notText => "Input should be a valid string"
  | emptyText => "String should have at least 1 character"
  | notTruth => "Input should be a valid boolean"
  | unreadableTruth => "Input should be a valid boolean, unable to interpret input"
  | notNumber => "Input should be a valid integer"
  | unreadableNumber => "Input should be a valid integer, unable to parse string as an integer"
  | overlongNumber => "Unable to parse input string as an integer, exceeded maximum size"
  | fractionalNumber => "Input should be a valid integer, got a number with a fractional part"
  | endlessNumber => "Input should be a finite number"
  | belowOne => "Input should be greater than or equal to 1"

/-! ## Loosely typed values -/

/-- The numbers that 64 bits span lie below this one, and not below its negative. -/
def wordBound : Int := Int.pow 2 63

/-- The number is in the range that 64 bits span. Outside it, no number is tried as a truth value.
-/
def isWordSized (n : Int) : Bool := -wordBound ≤ n && n < wordBound

/-- The whole number that a number in double precision is. It has to lie inside the range that 64
bits span. -/
def wholeNumber (x : Double) : Except Complaint Int :=
  match x, x.whole? with
  | .finite .., some n => if -wordBound < n && n < wordBound then .ok n else .error .overlongNumber
  | .finite .., none => .error .fractionalNumber
  | _, _ => .error .endlessNumber

/-- The words that stand for a truth value, in lower case. -/
def truthOfWord? (word : String) : Option Bool :=
  if word ∈ ["1", "t", "true", "y", "yes", "on"] then some true
  else if word ∈ ["0", "f", "false", "n", "no", "off"] then some false
  else none

/-- Zero and one stand for truth values. -/
def truthOfNumber? (n : Int) : Option Bool :=
  if n = 0 then some false else if n = 1 then some true else none

/-- Read a truth value. -/
def readTruth : Value → Except Complaint Bool
  | .bool b => .ok b
  | .text s => (truthOfWord? (String.ofList (s.toList.map Char.toLower))).elim
      (.error .unreadableTruth) .ok
  | .int n => if isWordSized n then number n else .error .notTruth
  | .real x =>
    match wholeNumber x with
    | .ok n => number n
    | .error _ => .error .notTruth
  | _ => .error .notTruth
where
  /-- A number has to be zero or one. -/
  number (n : Int) : Except Complaint Bool := (truthOfNumber? n).elim (.error .unreadableTruth) .ok

/-- White space around a number in a text: the blanks other than the information separators. -/
def isSpace (c : Char) : Bool := Text.isBlank c && !(0x1C ≤ c.toNat && c.toNat ≤ 0x1F)

/-- Drop white space at both ends. -/
def strip (s : List Char) : List Char :=
  ((s.dropWhile isSpace).reverse.dropWhile isSpace).reverse

/-- Take off a sign: whether it is a minus, and what follows. A plus sign must not have another sign
after it. -/
def takeSign? : List Char → Option (Bool × List Char)
  | '+' :: s => if s.head? = some '+' || s.head? = some '-' then none else some (false, s)
  | '-' :: s => some (true, s)
  | s => some (false, s)

/-- Drop the leading zeros, and the underscores among them, of a number that starts with a zero; a
zero is kept where no other digit follows, and a sign may stand behind them. -/
def dropZeros? : List Char → Option (List Char)
  | '0' :: s =>
    match s.dropWhile fun c => c = '0' || c = '_' with
    | [] => some [s.getLastD '0']
    | '.' :: t => some ((('0' :: s).takeWhile (· ≠ '.')).getLastD '0' :: '.' :: t)
    | c :: t => if c.isDigit || c = '-' then some (c :: t) else none
  | c :: s => if c.isDigit then some (c :: s) else none
  | [] => none

/-- Drop a decimal point with zeros, at least one, after it. -/
def dropZeroFraction (s : List Char) : List Char :=
  match s.dropWhile (· ≠ '.') with
  | '.' :: zeros => if !zeros.isEmpty && zeros.all (· = '0') then s.takeWhile (· ≠ '.') else s
  | _ => s

/-- Drop underscores that stand singly between other characters. -/
def dropUnderscores? (s : List Char) : Option (List Char) :=
  let groups := s.splitOnP (· = '_')
  if groups.any List.isEmpty then none else some groups.flatten

/-- The most digits that a number in a text may have. -/
def maxDigits : Nat := 4300

/-- The text starts with more digits than a number may have. A leading zero ends a number. -/
def isOverlong (s : List Char) : Bool :=
  let s := if s.head? = some '-' then s.tail else s
  s.head? ≠ some '0' && maxDigits < (s.takeWhile Char.isDigit).length

/-- Read digits after an optional minus sign. Only zero starts with a zero. -/
def readSigned : List Char → Except Complaint Int
  | '-' :: s => (fun n : Nat => -(n : Int)) <$> digits s
  | s => (fun n : Nat => (n : Int)) <$> digits s
where
  /-- A non-empty row of digits. -/
  digits (s : List Char) : Except Complaint Nat :=
    if s.isEmpty || !s.all Char.isDigit || (s.head? = some '0' && s ≠ ['0']) then
      .error .unreadableNumber
    else .ok (Nat.ofDigitChars 10 s 0)

/-- The characters of a number in a text, without what does not count. -/
def numberText? (s : List Char) : Option (List Char) := do
  let (negative, s) ← takeSign? (strip s)
  let s ← dropZeros? s
  let s ← dropUnderscores? (dropZeroFraction s)
  return if negative then '-' :: s else s

/-- Read a whole number from a text. Only a text that starts with too many digits is called
overlong. -/
def readNumberText (s : List Char) : Except Complaint Int :=
  if isOverlong s then .error .overlongNumber
  else
    match numberText? s with
    | none => .error .unreadableNumber
    | some t => if isOverlong t then .error .unreadableNumber else readSigned t

/-- Read a whole number. -/
def readNumber : Value → Except Complaint Int
  | .int n => .ok n
  | .bool b => .ok (if b then 1 else 0)
  | .real x => wholeNumber x
  | .text s => readNumberText s.toList
  | _ => .error .notNumber

/-! ## Fields -/

/-- Read a style. -/
def readStyle : Value → Except Complaint Style
  | .text s => (Style.ofName? s).elim (.error .unknownStyle) .ok
  | _ => .error .unknownStyle

/-- Read a cell symbol. -/
def readSymbol : Value → Except Complaint String
  | .text s => if s.isEmpty then .error .emptyText else .ok s
  | _ => .error .notText

/-- Read a largest side. -/
def readMaxDimension (v : Value) : Except Complaint Nat := do
  let n ← readNumber v
  if n < 1 then .error .belowOne else .ok n.toNat

/-- The settings where nothing else is chosen. -/
def default : Settings where
  style := .plain
  symbol := "██"
  prompts := true
  maxDimension := 1024

/-- Read the value chosen for a field, if there is one. -/
def readField {α : Type} (choose : Field → Option Value) (f : Field) (unchosen : α)
    (read : Value → Except Complaint α) : Except (Field × Complaint) α :=
  match choose f with
  | none => .ok unchosen
  | some v => (read v).mapError (f, ·)

/-- What is wrong with a field. -/
def complaints {α : Type} : Except (Field × Complaint) α → List (Field × Complaint)
  | .ok _ => []
  | .error c => [c]

/-- Build settings from the values chosen for their fields, or tell all that is wrong, in the order
of the fields. -/
def ofChoice (choose : Field → Option Value) : Except (List (Field × Complaint)) Settings :=
  let style := readField choose .style default.style readStyle
  let symbol := readField choose .symbol default.symbol readSymbol
  let prompts := readField choose .prompts default.prompts readTruth
  let maxDimension := readField choose .maxDimension default.maxDimension readMaxDimension
  match style, symbol, prompts, maxDimension with
  | .ok style, .ok symbol, .ok prompts, .ok maxDimension =>
    .ok { style, symbol, prompts, maxDimension }
  | _, _, _, _ =>
    .error (complaints style ++ complaints symbol ++ complaints prompts ++ complaints maxDimension)

end Settings

end Mosaic
