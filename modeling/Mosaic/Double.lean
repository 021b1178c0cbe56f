/-!
# Double precision

A number in double precision is a whole number of at most 53 binary digits times a power of two, or
an infinity, or no number at all. `Double.ofDecimal` gives the one nearest to a decimal, where a
half goes to the even neighbour (`roundHalfEven`); `whole?` gives the integer that a number is.

A number is written with the fewest decimal digits that read back to it, and of several such
decimals with the nearest. `shortest` selects the digits: it tries one digit, two, and so on, and
for each the two neighbours of the number among the decimals of that many digits. `text` lays them
out, positionally where the point is not far away and with an exponent elsewhere.
-/

namespace Mosaic

/-- The integer nearest to `n / d`; a half goes to the even neighbour. -/
def roundHalfEven (n d : Nat) : Nat :=
  let q := n / d
  let r := n % d
  if 2 * r < d then q else if d < 2 * r then q + 1 else if q % 2 = 0 then q else q + 1

/-- A number in double precision. -/
inductive Double
  /-- The number `mantissa * 2 ^ exponent`, or its negative. -/
  | finite (negative : Bool) (mantissa : Nat) (exponent : Int)
  | infinite (negative : Bool)
  /-- The result of an operation that has none. -/
  | undefined
  deriving DecidableEq, Repr

namespace Double

/-- The exponent of the least positive number. -/
def leastExponent : Int := -1074

/-- The largest exponent of a finite number. -/
def largestExponent : Int := 971

/-- Zero. -/
def zero (negative : Bool) : Double := .finite negative 0 0

/-- The number nearest to `n / d`, which is positive; a half goes to the even mantissa. -/
def nearest (negative : Bool) (n d : Nat) : Double :=
  let scaled := fun (e : Int) => (n * Nat.pow 2 (-e).toNat, d * Nat.pow 2 e.toNat)
  -- With this exponent the mantissa has 52 or 53 binary digits.
  let e : Int := (n.log2 : Int) - d.log2 - 52
  let e := if (scaled e).1 / (scaled e).2 < Nat.pow 2 52 then e - 1 else e
  let e := max e leastExponent
  let m := roundHalfEven (scaled e).1 (scaled e).2
  let (m, e) := if m = Nat.pow 2 53 then (Nat.pow 2 52, e + 1) else (m, e)
  if m = 0 then zero negative
  else if largestExponent < e then .infinite negative
  else .finite negative m e

/-- The number nearest to `digits * 10 ^ scale`, or to its negative. -/
def ofDecimal (negative : Bool) (digits : Nat) (scale : Int) : Double :=
  let size := (Nat.toDigits 10 digits).length + scale
  if digits = 0 || size < -330 then zero negative
  else if 310 < size then .infinite negative
  else nearest negative (digits * Nat.pow 10 scale.toNat) (Nat.pow 10 (-scale).toNat)

/-- The integer that a number is. -/
def whole? : Double → Option Int
  | finite negative m e =>
    let unit := Nat.pow 2 (-e).toNat
    let n : Int := m * Nat.pow 2 e.toNat / unit
    if m % unit = 0 then some (if negative then -n else n) else none
  | _ => none

end Double

namespace Double

/-! ## Selecting digits -/

/-- Compare `a * 2 ^ i` with `b * 10 ^ j`. -/
def compareScaled (a : Nat) (i : Int) (b : Nat) (j : Int) : Ordering :=
  compare (a * Nat.pow 2 i.toNat * Nat.pow 10 (-j).toNat)
    (b * Nat.pow 10 j.toNat * Nat.pow 2 (-i).toNat)

/-- The decimal `d * 10 ^ g` reads back to `m * 2 ^ e`: it lies between the points half-way to its
neighbours, the one below being closer for a power of two. The points belong to an even mantissa. -/
def readsBack (m : Nat) (e : Int) (d : Nat) (g : Int) : Bool :=
  let narrow := m = Nat.pow 2 52 && leastExponent < e
  let low := compareScaled (4 * m - if narrow then 1 else 2) (e - 2) d g
  let high := compareScaled (4 * m + 2) (e - 2) d g
  let isEven := m % 2 = 0
  (low = .lt || isEven && low = .eq) && (high = .gt || isEven && high = .eq)

/-- The least `k` with `m * 2 ^ e < 10 ^ k`: where the decimal point stands before the digits. -/
def pointPlace (m : Nat) (e : Int) : Int :=
  let estimate := ((m.log2 : Int) + e) * 30103 / 100000
  ([estimate - 1, estimate, estimate + 1].find? fun k => compareScaled m e 1 k = .lt).getD
    (estimate + 2)

/-- The decimal `d * 10 ^ g` that reads back to `m * 2 ^ e` and is nearest to it, if one does. -/
def onGrid? (m : Nat) (e : Int) (g : Int) : Option Nat :=
  let d := m * Nat.pow 2 e.toNat * Nat.pow 10 (-g).toNat /
    (Nat.pow 2 (-e).toNat * Nat.pow 10 g.toNat)
  match readsBack m e d g, readsBack m e (d + 1) g with
  | true, false => some d
  | false, true => some (d + 1)
  | false, false => none
  | true, true =>
    match compareScaled (2 * m) e (2 * d + 1) g with
    | .lt => some d
    | .gt => some (d + 1)
    | .eq => some (if d % 2 = 0 then d else d + 1)

/-- The digits of the shortest decimal that reads back to `m * 2 ^ e`, which is positive, and where
the point stands before them. Seventeen digits always suffice. -/
def shortest (m : Nat) (e : Int) : List Char × Int :=
  let place := pointPlace m e
  let found := (List.range 17).findSome? fun n =>
    let g := place - (n + 1 : Nat)
    (onGrid? m e g).map (·, g)
  let (d, g) := found.getD (0, 0)
  let digits := Nat.toDigits 10 d
  ((digits.reverse.dropWhile (· = '0')).reverse, digits.length + g)

/-! ## Layout -/

/-- The digits with the point at its place, and a zero where it has no digit on one side. -/
def positional (digits : List Char) (place : Int) : List Char :=
  let whole := digits.take place.toNat
  let fraction := digits.drop place.toNat
  (if whole.isEmpty then ['0'] else whole) ++
    List.replicate (if whole.isEmpty then 0 else place.toNat - whole.length) '0' ++ ['.'] ++
    List.replicate (-place).toNat '0' ++ (if fraction.isEmpty then ['0'] else fraction)

/-- The digits with the point behind the first of them, and an exponent of at least two digits. -/
def scientific (digits : List Char) (place : Int) : List Char :=
  let exponent := place - 1
  let shown := Nat.toDigits 10 exponent.natAbs
  digits.take 1 ++ (if digits.length ≤ 1 then [] else '.' :: digits.drop 1) ++
    ['e', if exponent < 0 then '-' else '+'] ++ List.replicate (2 - shown.length) '0' ++ shown

/-- A number as diagnostics show it. -/
def text : Double → String
  | undefined => "nan"
  | infinite negative => if negative then "-inf" else "inf"
  | finite negative m e =>
    let unsigned :=
      if m = 0 then ['0', '.', '0']
      else
        let (digits, place) := shortest m e
        if -4 < place && place ≤ 16 then positional digits place else scientific digits place
    String.ofList (if negative then '-' :: unsigned else unsigned)

end Double

end Mosaic
