import Mathlib.Algebra.Group.Nat.Defs
import Mosaic.Failure

/-!
# Numbers that can be written, and chains of checks

A fault is told if the numbers in its message can be written. These are the numbers between two
bounds (`not_isWritable_iff`), the codes of colours among them, and on a display whose sides can be
written the coordinates of every cell.

A chain of checks passes when every check does, and fails with the first failure. The equivalences
take a chain apart without unfolding what it is made of.
-/

namespace Mosaic

/-! ## Numbers -/

theorem isWritable_iff {n : Int} : IsWritable n ↔ n.natAbs < 10 ^ maxDigits :=
  Nat.length_toDigits_le_iff (by decide) (by decide)

/-- A number is written in no more digits than one that is farther from zero. -/
theorem IsWritable.mono {m n : Int} (hn : IsWritable n) (h : m.natAbs ≤ n.natAbs) : IsWritable m :=
  isWritable_iff.mpr (Nat.lt_of_le_of_lt h (isWritable_iff.mp hn))

/-- A column of a display is no longer to write than the display's width. -/
theorem Position.Inside.isWritable_x {p : Position} {width height : Nat}
    (h : p.Inside width height) (hwidth : IsWritable width) : IsWritable p.x :=
  hwidth.mono (by have := h.1; have := h.2.1; omega)

/-- A row of a display is no longer to write than the display's height. -/
theorem Position.Inside.isWritable_y {p : Position} {width height : Nat}
    (h : p.Inside width height) (hheight : IsWritable height) : IsWritable p.y :=
  hheight.mono (by have := h.2.2.1; have := h.2.2.2; omega)

/-- The code of a colour can be written. -/
theorem Color.isWritable_of_isLegal {code : Int} (h : Color.IsLegal code) : IsWritable code := by
  obtain rfl | rfl | rfl := Color.isLegal_iff.mp h <;> decide

/-- The least number that is too long to be written. It is known by this only, and never computed.
-/
@[irreducible] def leastUnwritable : Int := (10 ^ maxDigits : Nat)

theorem not_isWritable_leastUnwritable : ¬ IsWritable leastUnwritable := by
  rw [isWritable_iff, leastUnwritable, Int.natAbs_natCast]
  exact Nat.lt_irrefl _

theorem leastUnwritable_pos : 0 < leastUnwritable := by
  rw [leastUnwritable]
  exact Int.natCast_pos.mpr (Nat.pow_pos (by decide))

/-- The numbers that are too long to be written are those far from zero on either side. -/
theorem not_isWritable_iff {n : Int} :
    ¬ IsWritable n ↔ n ≤ -leastUnwritable ∨ leastUnwritable ≤ n := by
  rw [isWritable_iff, leastUnwritable]
  generalize 10 ^ maxDigits = bound
  omega

/-! ## Chains of checks -/

variable {ε α β : Type} {x : Except ε α} {b : β} {e : ε}

/-- A chain passes exactly if its first check does and the rest does with what that found. -/
theorem bind_eq_ok_iff {f : α → Except ε β} :
    x >>= f = .ok b ↔ ∃ a, x = .ok a ∧ f a = .ok b := by
  cases x <;> simp [bind, Except.bind]

/-- A chain fails exactly if its first check does or the rest does with what that found. -/
theorem bind_eq_error_iff {f : α → Except ε β} :
    x >>= f = .error e ↔ x = .error e ∨ ∃ a, x = .ok a ∧ f a = .error e := by
  cases x <;> simp [bind, Except.bind]

/-- A check whose finding is changed passes exactly if the check does. -/
theorem map_eq_ok_iff {f : α → β} : x.map f = .ok b ↔ ∃ a, x = .ok a ∧ f a = b := by
  cases x with
  | error e =>
    constructor
    · intro h
      cases h
    · rintro ⟨a, ha, -⟩
      cases ha
  | ok a =>
    constructor
    · intro h
      exact ⟨a, rfl, Except.ok.inj h⟩
    · rintro ⟨a', ha, rfl⟩
      exact congrArg (Except.ok ∘ f) (Except.ok.inj ha)

/-- A check whose finding is changed fails exactly as the check does. -/
theorem map_eq_error_iff {f : α → β} : x.map f = .error e ↔ x = .error e := by
  cases x <;> simp [Except.map]

/-- A list of checks that all pass finds what each of them finds, in order. -/
theorem mapM_eq_pure_map {m : Type → Type} [Monad m] [LawfulMonad m] {f : α → m β} {k : α → β}
    {l : List α} (h : ∀ x ∈ l, f x = pure (k x)) : l.mapM f = pure (l.map k) := by
  induction l with
  | nil => exact List.mapM_nil
  | cons x l ih =>
    obtain ⟨hx, hl⟩ := List.forall_mem_cons.mp h
    rw [List.mapM_cons, hx, ih hl, pure_bind, pure_bind, List.map_cons]

/-- A list of checks passes exactly if each of them does. -/
theorem exists_mapM_eq_ok_iff {f : α → Except ε β} {l : List α} :
    (∃ bs, l.mapM f = .ok bs) ↔ ∀ x ∈ l, ∃ b, f x = .ok b := by
  induction l with
  | nil => exact ⟨fun _ => nofun, fun _ => ⟨[], rfl⟩⟩
  | cons x l ih =>
    rw [List.forall_mem_cons, ← ih, List.mapM_cons]
    constructor
    · rintro ⟨bs, h⟩
      obtain ⟨b, hb, hrest⟩ := bind_eq_ok_iff.mp h
      obtain ⟨bs', hbs', -⟩ := bind_eq_ok_iff.mp hrest
      exact ⟨⟨b, hb⟩, bs', hbs'⟩
    · rintro ⟨⟨b, hb⟩, bs, hbs⟩
      exact ⟨b :: bs, bind_eq_ok_iff.mpr ⟨b, hb, bind_eq_ok_iff.mpr ⟨bs, hbs, rfl⟩⟩⟩

/-- A list of checks fails exactly as the first of them that does. -/
theorem mapM_eq_error_iff {f : α → Except ε β} {l : List α} :
    l.mapM f = .error e ↔ ∃ (i : Nat) (x : α), l[i]? = some x ∧ f x = .error e ∧
      ∀ j < i, ∀ y, l[j]? = some y → ∃ b, f y = .ok b := by
  induction l with
  | nil => simp [pure, Except.pure]
  | cons a l ih =>
    rw [List.mapM_cons, bind_eq_error_iff]
    constructor
    · -- The first check fails itself, or the first failure of the others stands one place further
      -- on.
      rintro (ha | ⟨b, hb, hrest⟩)
      · exact ⟨0, a, rfl, ha, fun j hj => absurd hj (Nat.not_lt_zero j)⟩
      · obtain hl | ⟨bs, -, hpure⟩ := bind_eq_error_iff.mp hrest
        · obtain ⟨i, x, hx, hfail, hbefore⟩ := ih.mp hl
          refine ⟨i + 1, x, hx, hfail, fun j hj y hy => ?_⟩
          cases j with
          | zero => exact ⟨b, by rwa [← Option.some.inj hy]⟩
          | succ j => exact hbefore j (Nat.lt_of_succ_lt_succ hj) y hy
        · cases hpure
    · rintro ⟨i, x, hx, hfail, hbefore⟩
      cases i with
      | zero => exact .inl (by rwa [Option.some.inj hx])
      | succ i =>
        obtain ⟨b, hb⟩ := hbefore 0 (Nat.succ_pos i) a rfl
        refine .inr ⟨b, hb, bind_eq_error_iff.mpr (.inl (ih.mpr ⟨i, x, hx, hfail, ?_⟩))⟩
        exact fun j hj y hy => hbefore (j + 1) (Nat.succ_lt_succ hj) y hy

end Mosaic
