/-!
# Positions and colours

A position is a column and a row, counted from the upper left corner. Any two integers make one;
`Inside` says which of them lie on a display of a given size. A cell of a display holds one of three
colours, known by the codes 1, 2 and 3.
-/

namespace Mosaic

/-! ## Positions -/

/-- A column `x` and a row `y`. -/
structure Position where
  x : Int
  y : Int
  deriving DecidableEq, Repr

namespace Position

/-- The upper left corner. -/
def origin : Position := ⟨0, 0⟩

/-- The position lies on a display of `width` columns and `height` rows. -/
def Inside (p : Position) (width height : Nat) : Prop :=
  0 ≤ p.x ∧ p.x < width ∧ 0 ≤ p.y ∧ p.y < height

instance (p : Position) (width height : Nat) : Decidable (p.Inside width height) :=
  inferInstanceAs (Decidable (_ ∧ _))

/-- Counted from the corner, only the far edges matter. -/
theorem inside_natCast {x y width height : Nat} :
    Inside ⟨x, y⟩ width height ↔ x < width ∧ y < height := by
  simp [Inside]

theorem Inside.toNat_x_lt {p : Position} {width height : Nat} (h : p.Inside width height) :
    p.x.toNat < width := by
  unfold Inside at h
  omega

theorem Inside.toNat_y_lt {p : Position} {width height : Nat} (h : p.Inside width height) :
    p.y.toNat < height := by
  unfold Inside at h
  omega

end Position

/-! ## Colours -/

/-- A colour of a cell. -/
inductive Color
  | red
  | green
  | cyan
  deriving DecidableEq, Repr

namespace Color

/-- The colours in ascending order of their codes. -/
def all : List Color := [red, green, cyan]

/-- The number by which input and rendering know the colour. -/
def code : Color → Nat
  | red => 1
  | green => 2
  | cyan => 3

/-- The colour's name, in capitals. -/
def name : Color → String
  | red => "RED"
  | green => "GREEN"
  | cyan => "CYAN"

/-- The colour's name as running text has it. -/
def label : Color → String
  | red => "red"
  | green => "green"
  | cyan => "cyan"

/-- The colour of a code. -/
def ofCode? (code : Int) : Option Color :=
  if code = 1 then some red
  else if code = 2 then some green
  else if code = 3 then some cyan
  else none

/-- A code is legal when some colour has it. -/
def IsLegal (code : Int) : Prop := (ofCode? code).isSome

instance (code : Int) : Decidable (IsLegal code) := inferInstanceAs (Decidable (_ = true))

@[simp]
theorem ofCode?_code (c : Color) : ofCode? c.code = some c := by
  cases c <;> rfl

theorem ofCode?_eq_some_iff {code : Int} {c : Color} : ofCode? code = some c ↔ code = c.code := by
  unfold ofCode?
  cases c <;> grind [Color.code]

theorem isLegal_iff {code : Int} : IsLegal code ↔ code = 1 ∨ code = 2 ∨ code = 3 := by
  unfold IsLegal ofCode?
  grind

/-- The code of a colour is legal. -/
theorem isLegal_code (c : Color) : IsLegal c.code := by
  rw [IsLegal, ofCode?_code]
  rfl

theorem code_injective {c d : Color} (h : c.code = d.code) : c = d := by
  cases c <;> cases d <;> simp_all [code]

end Color

end Mosaic
