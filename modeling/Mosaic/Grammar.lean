import Mathlib.Data.List.Forall2
import Mosaic.Session

/-!
# The grammar of a session

What a description of a display looks like, told without reading it. A line is *spaced* into words
when these are its stretches without blanks, a word *denotes* a number when it is a numeral that is
not too long, and three lines *describe* a session when they hold the numbers of its parts.

What can be wrong with lines is told by the checks, in the order in which they count. A check looks
at its own line only and at nothing that the checks before it have found out.
-/

namespace Mosaic

/-- A text made of these words, in order: each is a non-empty stretch without blanks, and the text
ends behind it or goes on with a blank. -/
inductive Text.Spaced : List Char → List (List Char) → Prop
  | nil : Spaced [] []
  | blank {c : Char} {s : List Char} {ws : List (List Char)} :
    isBlank c → Spaced s ws → Spaced (c :: s) ws
  | word {w s : List Char} {ws : List (List Char)} :
    w ≠ [] → (∀ c ∈ w, ¬ isBlank c) → (∀ c ∈ s.head?, isBlank c) → Spaced s ws →
      Spaced (w ++ s) (w :: ws)

namespace Numeral

/-- A word is a numeral of this number, not too long to be read. -/
structure Denotes (w : List Char) (n : Nat) : Prop where
  isNumeral : IsNumeral w
  length_le : w.length ≤ maxDigits
  value_eq : value w = n

/-- A word denotes no number, with this failure. -/
inductive Refused (w : List Char) : Failure → Prop
  | notNumeral : ¬ IsNumeral w →
    Refused w (.fault (.malformedNumericInput (.token (String.ofList w))))
  | overlong : IsNumeral w → maxDigits < w.length → Refused w (.overlongNumeral w.length)

/-- A line of so many words. -/
def Counts (line : String) (n : Nat) : Prop := ∃ ws, Text.Spaced line.toList ws ∧ ws.length = n

/-- A line whose words denote these numbers. -/
def Writes (line : String) (ns : List Nat) : Prop :=
  ∃ ws, Text.Spaced line.toList ws ∧ List.Forall₂ Denotes ws ns

/-- The leftmost word of a line that denotes no number is refused with this failure. -/
def Spoiled (line : String) (e : Failure) : Prop :=
  ∃ before w after, Text.Spaced line.toList (before ++ w :: after) ∧
    (∀ b ∈ before, ∃ n, Denotes b n) ∧ Refused w e

end Numeral

namespace Session

open Numeral

/-- Lines that describe a session on a display of sides up to `limit`: its size and its colour are
written on the first two, its stream on the third, which may be missing if the stream is empty. -/
structure Describes (limit : Int) (lines : List String) (s : Session) : Prop where
  size : ∃ line ∈ lines[0]?, Writes line [s.width, s.height]
  width_pos : 1 ≤ s.width
  height_pos : 1 ≤ s.height
  width_le : s.width ≤ limit
  height_le : s.height ≤ limit
  color : ∃ line ∈ lines[1]?, Writes line [s.color.code]
  stream : (lines[2]? = none ∧ s.stream = []) ∨ ∃ line ∈ lines[2]?, Writes line s.stream

/-- What is checked of the lines of a session, the first check first. -/
inductive Check
  | sizePresent
  | sizeCount
  | sizeNumerals
  | sizePositive
  | sizeLimit
  | colorPresent
  | colorCount
  | colorNumerals
  | colorLegal
  | streamNumerals
  deriving DecidableEq, Repr

/-- An earlier check counts before a later one. -/
instance : LT Check where
  lt j k := j.ctorIdx < k.ctorIdx

instance (j k : Check) : Decidable (j < k) :=
  inferInstanceAs (Decidable (j.ctorIdx < k.ctorIdx))

/-- The line that a check looks at. -/
def Check.line : Check → Nat
  | sizePresent | sizeCount | sizeNumerals | sizePositive | sizeLimit => 0
  | colorPresent | colorCount | colorNumerals | colorLegal => 1
  | streamNumerals => 2

/-- A check fails on these lines with this failure. -/
inductive Fails (limit : Int) (lines : List String) : Check → Failure → Prop
  | sizePresent : lines[0]? = none →
    Fails limit lines .sizePresent (.fault (.malformedNumericInput .missingSize))
  | sizeCount {line : String} {n : Nat} : lines[0]? = some line → Counts line n → n ≠ 2 →
    Fails limit lines .sizeCount (.fault (.malformedNumericInput (.sizeCount n)))
  | sizeNumerals {line : String} {e : Failure} : lines[0]? = some line → Spoiled line e →
    Fails limit lines .sizeNumerals e
  | sizePositive {line : String} {w h : Nat} : lines[0]? = some line → Writes line [w, h] →
    w = 0 ∨ h = 0 → Fails limit lines .sizePositive (.fault (.invalidDimensions w h none))
  | sizeLimit {line : String} {w h : Nat} : lines[0]? = some line → Writes line [w, h] →
    limit < w ∨ limit < h →
    Fails limit lines .sizeLimit (Fault.invalidDimensions w h (some limit)).raise
  | colorPresent : lines[1]? = none →
    Fails limit lines .colorPresent (.fault (.malformedNumericInput .missingColor))
  | colorCount {line : String} {n : Nat} : lines[1]? = some line → Counts line n → n ≠ 1 →
    Fails limit lines .colorCount (.fault (.malformedNumericInput (.colorCount n)))
  | colorNumerals {line : String} {e : Failure} : lines[1]? = some line → Spoiled line e →
    Fails limit lines .colorNumerals e
  | colorLegal {line : String} {n : Nat} : lines[1]? = some line → Writes line [n] →
    ¬ Color.IsLegal n → Fails limit lines .colorLegal (.fault (.invalidColor n))
  | streamNumerals {line : String} {e : Failure} : lines[2]? = some line → Spoiled line e →
    Fails limit lines .streamNumerals e

/-- The first check that fails on these lines fails with this failure. -/
def FirstFails (limit : Int) (lines : List String) (k : Check) (e : Failure) : Prop :=
  Fails limit lines k e ∧ ∀ j < k, ∀ e', ¬ Fails limit lines j e'

end Session

end Mosaic
