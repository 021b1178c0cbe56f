import Mathlib.Data.List.TakeWhile
import Mosaic.Machine
import Mosaic.Proofs.Grid.Store

/-!
# What a run does

Whether an item is executed depends on the size of the display alone (`Item.refusal?`), and what an
executed command does is a plain function of the machine (`obey`). So a run has a closed form,
`run_eq`: it obeys the commands in front of the first item that is refused, and ends with that
refusal. What the obeyed commands leave behind is then told field by field.
-/

namespace Mosaic

/-- Where a move goes. -/
def Command.target? : Command → Option Position
  | moveCursor p => some p
  | setColor _ => none

/-! ## What is refused -/

namespace Item

variable {width height : Nat}

@[simp] theorem refusal?_moveCursor_eq_none_iff {p : Position} :
    (command (.moveCursor p)).refusal? width height = none ↔ p.Inside width height := by
  by_cases hp : p.Inside width height <;> simp [refusal?, hp]

@[simp] theorem refusal?_setColor_eq_none_iff {code : Int} :
    (command (.setColor code)).refusal? width height = none ↔ Color.IsLegal code := by
  by_cases hcode : Color.IsLegal code <;> simp [refusal?, hcode]

theorem refusal?_moveCursor {p : Position} (hp : ¬ p.Inside width height) :
    (command (.moveCursor p)).refusal? width height =
      some (Fault.cursorOutOfBounds p width height).raise := if_neg hp

theorem refusal?_setColor {code : Int} (hcode : ¬ Color.IsLegal code) :
    (command (.setColor code)).refusal? width height = some (Fault.invalidColor code).raise :=
  if_neg hcode

/-- A move that is too far to be told is off every display whose sides can be written. -/
theorem refusal?_unwritable_moveCursor {p : Position} (hwidth : IsWritable width)
    (hheight : IsWritable height) (hp : ¬ (IsWritable p.x ∧ IsWritable p.y)) :
    (command (.moveCursor p)).refusal? width height = some .overlongNumber := by
  have houtside : ¬ p.Inside width height := fun h =>
    hp ⟨h.isWritable_x hwidth, h.isWritable_y hheight⟩
  rw [refusal?_moveCursor houtside,
    Fault.raise_of_not_isTellable (mt Fault.isTellable_cursorOutOfBounds.mp hp)]

/-- A command that some display does not refuse has a legal colour, if any. -/
theorem hasLegalColor_of_not_refused {c : Command}
    (h : (command c).refusal? width height = none) : c.HasLegalColor := by
  cases c with
  | moveCursor p => exact trivial
  | setColor code => exact refusal?_setColor_eq_none_iff.mp h

/-- From a refused item on nothing is executed. -/
theorem executable_cons_of_refused {i : Item} {e : Failure} (h : i.refusal? width height = some e)
    (is : List Item) : executable width height (i :: is) = [] := by
  simp [executable, h]

/-- A command that is not refused is executed, and then what follows it. -/
theorem executable_cons {c : Command} (h : (command c).refusal? width height = none)
    (is : List Item) :
    executable width height (command c :: is) = c :: executable width height is := by
  simp [executable, h, command?]

end Item

namespace Machine

/-- The cursor is on the display. -/
def InBounds (m : Machine) : Prop := m.grid.Contains m.cursor

/-- The machine after a command that is not refused. -/
def obey (m : Machine) : Command → Machine
  | .moveCursor p => { m with cursor := p, applied := m.applied + 1 }
  | .setColor code =>
    { m with
      grid := m.grid.put m.cursor.x.toNat m.cursor.y.toNat (Grid.legalColor code)
      applied := m.applied + 1 }

variable {m : Machine} {c : Command} {cs : List Command}

/-! ## One command -/

@[simp] theorem width_obey (m : Machine) (c : Command) :
    (m.obey c).grid.width = m.grid.width := by
  cases c <;> rfl

@[simp] theorem height_obey (m : Machine) (c : Command) :
    (m.obey c).grid.height = m.grid.height := by
  cases c <;> rfl

theorem cursor_obey (m : Machine) (c : Command) :
    (m.obey c).cursor = c.target?.getD m.cursor := by
  cases c <;> rfl

@[simp] theorem applied_obey (m : Machine) (c : Command) : (m.obey c).applied = m.applied + 1 := by
  cases c <;> rfl

/-- A command that the display does not refuse keeps the cursor on it. -/
theorem InBounds.obey (hm : m.InBounds)
    (hc : (Item.command c).refusal? m.grid.width m.grid.height = none) : (m.obey c).InBounds := by
  cases c with
  | moveCursor p => exact Item.refusal?_moveCursor_eq_none_iff.mp hc
  | setColor code => exact hm

/-- A command is obeyed exactly if the display does not refuse it. -/
theorem apply_cases (hm : m.InBounds) (c : Command) :
    (∃ e, (Item.command c).refusal? m.grid.width m.grid.height = some e ∧
        m.apply c = .error e) ∨
      (Item.command c).refusal? m.grid.width m.grid.height = none ∧ m.apply c = .ok (m.obey c) := by
  cases c with
  | moveCursor p =>
    by_cases hp : p.Inside m.grid.width m.grid.height
    · exact .inr ⟨if_pos hp, by rw [apply, if_pos hp]; rfl⟩
    · exact .inl ⟨_, if_neg hp, if_neg hp⟩
  | setColor code =>
    by_cases hcode : Color.IsLegal code
    · have hset := Grid.set_code hm (Grid.legalColor code)
      refine .inr ⟨if_pos hcode, ?_⟩
      rw [apply, Grid.ofCode_of_isLegal hcode]
      simp only [bind, Except.bind, hset]
      rfl
    · refine .inl ⟨_, if_neg hcode, ?_⟩
      rw [apply, Grid.ofCode_of_not_isLegal hcode]
      rfl

theorem apply_of_refused {e : Failure} (hm : m.InBounds)
    (hc : (Item.command c).refusal? m.grid.width m.grid.height = some e) :
    m.apply c = .error e := by
  rcases apply_cases hm c with ⟨e', hrefused, happly⟩ | ⟨hnone, -⟩
  · rw [hc] at hrefused
    obtain rfl := Option.some.inj hrefused
    exact happly
  · rw [hc] at hnone
    cases hnone

theorem apply_of_not_refused (hm : m.InBounds)
    (hc : (Item.command c).refusal? m.grid.width m.grid.height = none) :
    m.apply c = .ok (m.obey c) := by
  rcases apply_cases hm c with ⟨e, hrefused, -⟩ | ⟨-, happly⟩
  · rw [hc] at hrefused
    cases hrefused
  · exact happly

/-- An item is executed exactly if the display does not refuse it; what is executed is a command. -/
theorem step_cases (hm : m.InBounds) (i : Item) :
    (∃ e, i.refusal? m.grid.width m.grid.height = some e ∧ m.step i = .error e) ∨
      ∃ c, i = .command c ∧ i.refusal? m.grid.width m.grid.height = none ∧
        m.step i = .ok (m.obey c) := by
  cases i with
  | command c =>
    rcases apply_cases hm c with ⟨e, hrefused, happly⟩ | ⟨hnone, happly⟩
    · exact .inl ⟨e, hrefused, happly⟩
    · exact .inr ⟨c, rfl, hnone, happly⟩
  | other text => exact .inl ⟨_, rfl, rfl⟩

/-! ## Runs -/

/-- How a list of items ends on a display of this size: with the first refusal, if there is one. -/
def ending (width height : Nat) (items : List Item) : Except Failure Unit :=
  match items.findSome? (·.refusal? width height) with
  | some e => .error e
  | none => .ok ()

/-- Items that begin with a refused one end with its refusal. -/
theorem ending_cons_of_refused {width height : Nat} {i : Item} {e : Failure}
    (h : i.refusal? width height = some e) (is : List Item) :
    ending width height (i :: is) = .error e := by
  simp [ending, h]

/-- Behind an item that is not refused the other items decide how all end. -/
theorem ending_cons {width height : Nat} {i : Item} (h : i.refusal? width height = none)
    (is : List Item) : ending width height (i :: is) = ending width height is := by
  simp [ending, h]

/-- Items end well on a display exactly if it refuses none of them. -/
theorem ending_eq_ok_iff {width height : Nat} {items : List Item} :
    ending width height items = .ok () ↔ ∀ i ∈ items, i.refusal? width height = none := by
  rw [← List.findSome?_eq_none_iff, ending]
  split <;> simp_all

/-- A queue with legal colours can only be refused for a move off the display, the first of them. -/
theorem ending_of_legal {width height : Nat} (hcs : ∀ c ∈ cs, c.HasLegalColor) :
    ending width height (cs.map .command) =
      match (cs.filterMap Command.target?).find? fun p => ¬ p.Inside width height with
      | some p => .error (Fault.cursorOutOfBounds p width height).raise
      | none => .ok () := by
  -- The first move off the display stops the queue; no paint does, since its colour is legal.
  induction cs with
  | nil => rfl
  | cons c cs ih =>
    obtain ⟨hc, hrest⟩ := List.forall_mem_cons.mp hcs
    cases c with
    | moveCursor p =>
      by_cases hp : p.Inside width height
      · have hnone : (Item.command (.moveCursor p)).refusal? width height = none := if_pos hp
        rw [List.map_cons, ending_cons hnone]
        simpa [Command.target?, hp] using ih hrest
      · have hsome : (Item.command (.moveCursor p)).refusal? width height = some _ := if_neg hp
        rw [List.map_cons, ending_cons_of_refused hsome]
        simp [Command.target?, hp]
    | setColor code =>
      have hnone : (Item.command (.setColor code)).refusal? width height = none := if_pos hc
      rw [List.map_cons, ending_cons hnone]
      simpa [Command.target?] using ih hrest

/-- A queue with legal colours ends well, or for one of its moves. -/
theorem ending_cases_of_legal {width height : Nat} (hcs : ∀ c ∈ cs, c.HasLegalColor) :
    ending width height (cs.map .command) = .ok () ∨
      ∃ p, .moveCursor p ∈ cs ∧ ¬ p.Inside width height ∧
        ending width height (cs.map .command) =
          .error (Fault.cursorOutOfBounds p width height).raise := by
  rw [ending_of_legal hcs]
  split
  · rename_i p hfound
    have hmem := List.mem_of_find?_eq_some hfound
    have hp := List.find?_some hfound
    obtain ⟨c, hc, htarget⟩ := List.mem_filterMap.mp hmem
    cases c with
    | moveCursor q =>
      obtain rfl : q = p := Option.some.inj htarget
      exact .inr ⟨q, hc, by simpa using hp, rfl⟩
    | setColor code => cases htarget
  · exact .inl rfl

/-- **A run obeys the commands in front of the first refused item and ends with its refusal.** -/
theorem run_eq (hm : m.InBounds) (items : List Item) :
    m.run items = ⟨(Item.executable m.grid.width m.grid.height items).foldl obey m,
      ending m.grid.width m.grid.height items⟩ := by
  induction items generalizing m with
  | nil => rfl
  | cons i is ih =>
    -- Behind a refused item nothing runs. An obeyed command keeps the size of the display, so the
    -- same items are refused behind it.
    rcases step_cases hm i with ⟨e, hrefused, hstep⟩ | ⟨c, rfl, hnone, hstep⟩
    · rw [run, hstep, Item.executable_cons_of_refused hrefused, ending_cons_of_refused hrefused]
      rfl
    · have hrest := ih (hm.obey hnone)
      rw [width_obey, height_obey] at hrest
      rw [run, hstep, Item.executable_cons hnone, ending_cons hnone]
      exact hrest

/-- The commands that a run obeys are not refused. -/
theorem refusal?_of_mem_executable {width height : Nat} {items : List Item}
    (hc : c ∈ Item.executable width height items) :
    (Item.command c).refusal? width height = none := by
  obtain ⟨i, hi, hcommand⟩ := List.mem_filterMap.mp hc
  have hnone := List.mem_takeWhile_imp hi
  cases i with
  | command d =>
    obtain rfl : d = c := Option.some.inj hcommand
    exact Option.isNone_iff_eq_none.mp hnone
  | other text => cases hcommand

/-! ## Many commands -/

@[simp] theorem width_foldl_obey (m : Machine) (cs : List Command) :
    (cs.foldl obey m).grid.width = m.grid.width := by
  induction cs generalizing m with
  | nil => rfl
  | cons c cs ih => rw [List.foldl_cons, ih, width_obey]

@[simp] theorem height_foldl_obey (m : Machine) (cs : List Command) :
    (cs.foldl obey m).grid.height = m.grid.height := by
  induction cs generalizing m with
  | nil => rfl
  | cons c cs ih => rw [List.foldl_cons, ih, height_obey]

theorem applied_foldl_obey (m : Machine) (cs : List Command) :
    (cs.foldl obey m).applied = m.applied + cs.length := by
  induction cs generalizing m with
  | nil => rfl
  | cons c cs ih =>
    rw [List.foldl_cons, ih, applied_obey, List.length_cons]
    omega

theorem cursor_foldl_obey (m : Machine) (cs : List Command) :
    (cs.foldl obey m).cursor = Command.lastTarget m.cursor cs := by
  induction cs generalizing m with
  | nil => rfl
  | cons c cs ih =>
    rw [List.foldl_cons, ih]
    cases c <;> rfl

/-- A run keeps the width of the display. -/
theorem width_run (hm : m.InBounds) (items : List Item) :
    (m.run items).machine.grid.width = m.grid.width := by
  rw [run_eq hm, width_foldl_obey]

/-- A run keeps the height of the display. -/
theorem height_run (hm : m.InBounds) (items : List Item) :
    (m.run items).machine.grid.height = m.grid.height := by
  rw [run_eq hm, height_foldl_obey]

/-- A cell shows what was written there last, and what it showed before if nothing was. -/
theorem colorAt?_foldl_obey (hm : m.InBounds)
    (hcs : ∀ c ∈ cs, (Item.command c).refusal? m.grid.width m.grid.height = none) (x y : Nat) :
    (cs.foldl obey m).grid.colorAt? x y =
      ((Command.lastWrite m.cursor ⟨x, y⟩ cs).map Grid.legalColor).or (m.grid.colorAt? x y) := by
  induction cs generalizing m with
  | nil => rfl
  | cons c cs ih =>
    obtain ⟨hc, hrest⟩ := List.forall_mem_cons.mp hcs
    -- The rest of the queue meets the grid that the first command leaves.
    have htail := ih (m := m.obey c) (hm.obey hc) (by rwa [width_obey, height_obey])
    rw [List.foldl_cons, htail]
    cases c with
    | moveCursor q => rfl
    | setColor code =>
      -- A later write to the cell hides this one; without one, this write is what the cell shows.
      cases hlater : Command.lastWrite m.cursor ⟨x, y⟩ cs with
      | some later => simp [Command.lastWrite, obey, hlater]
      | none =>
        simp only [Command.lastWrite, obey, hlater, Option.map_none, Option.none_or,
          Grid.colorAt?_put_of_contains hm]
        split <;> simp

/-! ## New machines and whole streams -/

/-- A new machine has its cursor on the display. -/
theorem inBounds_new (g : Grid) : (new g).InBounds := by
  have hw : (0 : Int) < g.width := Int.natCast_pos.mpr g.width_pos
  have hh : (0 : Int) < g.height := Int.natCast_pos.mpr g.height_pos
  exact ⟨Int.le_refl 0, hw, Int.le_refl 0, hh⟩

/-- A new machine obeys what a display of the size of its grid does not refuse. -/
theorem run_new (g : Grid) (items : List Item) :
    (new g).run items = ⟨(Item.executable g.width g.height items).foldl obey (new g),
      ending g.width g.height items⟩ := run_eq (inBounds_new g) items

/-- What a new machine leaves in a cell. -/
theorem colorAt?_run_new (g : Grid) (items : List Item) (x y : Nat) :
    ((new g).run items).machine.grid.colorAt? x y =
      ((Command.lastWrite .origin ⟨x, y⟩ (Item.executable g.width g.height items)).map
        Grid.legalColor).or (g.colorAt? x y) := by
  rw [run_new]
  exact colorAt?_foldl_obey (inBounds_new g) (fun _ hc => refusal?_of_mem_executable hc) x y

/-- A display with positive sides and a legal colour can be made. -/
theorem exists_create_eq_ok {width height code : Int} (hw : 0 < width) (hh : 0 < height)
    (hcode : Color.IsLegal code) :
    ∃ g : Grid, create width height code = .ok (new g) ∧
      g.width = width.toNat ∧ g.height = height.toNat := by
  refine ⟨Grid.fill width.toNat height.toNat (by omega) (by omega) (Grid.legalColor code),
    ?_, rfl, rfl⟩
  rw [create, Grid.create, dif_pos ⟨hw, hh⟩, Grid.ofCode_of_isLegal hcode]
  rfl

end Machine

namespace Grid

variable {g : Grid} {stream : List Int}

/-- A stream that is read as a queue does to a grid what the queue does. -/
theorem process_of_parse_ok {cs : List Command} (h : Command.parse true stream = .ok cs) :
    g.process stream =
      ⟨((Machine.new g).runQueue cs).machine.grid, ((Machine.new g).runQueue cs).outcome⟩ := by
  rw [process, Machine.runStream, h]

/-- A stream that is not read leaves the grid as it was. -/
theorem process_of_parse_error {e : Failure} (h : Command.parse true stream = .error e) :
    g.process stream = ⟨g, .error e⟩ := by
  rw [process, Machine.runStream, h]
  rfl

end Grid

end Mosaic
