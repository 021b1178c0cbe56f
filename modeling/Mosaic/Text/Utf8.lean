/-!
# Defects of UTF-8

A byte sequence that is not UTF-8 has a first *defect*: the place where a character should start,
the bytes there that cannot belong to any character, and why. `firstDefect` finds it by the grammar
of well-formed sequences: the leading byte fixes how many bytes continue it and the range of the
next one. The offending bytes are the longest beginning of a well-formed sequence, or the leading
byte alone where it begins none.
-/

namespace Mosaic.Text

/-- Why bytes are no part of a UTF-8 text. -/
inductive DefectCause
  /-- The byte leads no sequence. -/
  | start
  /-- A sequence goes on with a byte that cannot continue it. -/
  | continuation
  /-- The sequence goes on as one for half of a surrogate pair, which is no character. -/
  | surrogate
  /-- The bytes end inside a sequence. -/
  | truncated
  deriving DecidableEq, Repr

/-- A stretch of bytes that cannot be decoded. -/
structure Defect where
  /-- Where the sequence starts. -/
  position : Nat
  /-- The bytes that begin it. -/
  bytes : List UInt8
  cause : DefectCause
  deriving DecidableEq, Repr

/-- How many bytes continue the sequence led by `lead`, and the range of the first of them. -/
def continuation? (lead : UInt8) : Option (Nat × UInt8 × UInt8) :=
  if lead < 0x80 then some (0, 0x80, 0xBF)
  else if lead < 0xC2 then none
  else if lead < 0xE0 then some (1, 0x80, 0xBF)
  else if lead = 0xE0 then some (2, 0xA0, 0xBF)
  else if lead = 0xED then some (2, 0x80, 0x9F)
  else if lead < 0xF0 then some (2, 0x80, 0xBF)
  else if lead = 0xF0 then some (3, 0x90, 0xBF)
  else if lead < 0xF4 then some (3, 0x80, 0xBF)
  else if lead = 0xF4 then some (3, 0x80, 0x8F)
  else none

/-- The bytes of `s`, at most `n`, that continue a sequence whose next byte lies in `low`–`high`. -/
def continuing : Nat → UInt8 → UInt8 → List UInt8 → List UInt8
  | 0, _, _, _ => []
  | _ + 1, _, _, [] => []
  | n + 1, low, high, b :: s =>
    if low ≤ b && b ≤ high then b :: continuing n 0x80 0xBF s else []

/-- The sequence led by `lead` and followed by `s`: the number of bytes that continue it, or its
defect when it stands at `position`. -/
def sequenceLength (position : Nat) (lead : UInt8) (s : List UInt8) : Except Defect Nat :=
  match continuation? lead with
  | none => .error ⟨position, [lead], .start⟩
  | some (n, low, high) =>
    let found := continuing n low high s
    if found.length = n then .ok n
    else if found.length = s.length then .error ⟨position, lead :: found, .truncated⟩
    else if lead = 0xED && s.head?.any (fun b => 0xA0 ≤ b && b ≤ 0xBF) then
      .error ⟨position, [lead], .surrogate⟩
    else .error ⟨position, lead :: found, .continuation⟩

/-- The first defect at or after `position`, where `owed` more bytes belong to the sequence under
way. -/
def firstDefect (position : Nat) : (owed : Nat) → List UInt8 → Option Defect
  | _, [] => none
  | owed + 1, _ :: s => firstDefect (position + 1) owed s
  | 0, lead :: s =>
    match sequenceLength position lead s with
    | .ok n => firstDefect (position + 1) n s
    | .error d => some d

/-- The text of these bytes, or their first defect. -/
def decodeUtf8 (bytes : ByteArray) : Except Defect String :=
  match String.fromUTF8? bytes with
  | some text => .ok text
  | none => .error ((firstDefect 0 0 bytes.toList).getD ⟨0, [], .start⟩)

/-- How many bytes from its position on must be seen before the defect is certain. A surrogate's
first two bytes are held back for a third. -/
def Defect.certainAfter (d : Defect) : Nat :=
  match d.cause with
  | .start => 1
  | .truncated => d.bytes.length + 1
  | .surrogate => 3
  | .continuation => d.bytes.length + 1

/-- A byte as two hexadecimal digits. -/
def hexByte (b : UInt8) : String :=
  String.ofList [Nat.digitChar (b.toNat / 16), Nat.digitChar (b.toNat % 16)]

/-- The reason as the diagnostic words it. -/
def DefectCause.message : DefectCause → String
  | .start => "invalid start byte"
  | .continuation | .surrogate => "invalid continuation byte"
  | .truncated => "unexpected end of data"

/-- The diagnostic for a defect: a single byte is shown, several are given by their positions. -/
def Defect.message (d : Defect) : String :=
  let place :=
    match d.bytes with
    | [b] => s!"byte 0x{hexByte b} in position {d.position}"
    | bs => s!"bytes in position {d.position}-{d.position + bs.length - 1}"
  s!"'utf-8' codec can't decode {place}: {d.cause.message}"

end Mosaic.Text
