import Mathlib.Data.List.Induction
import Mosaic.Proofs.Machine.Effect

/-!
# The last paint wins

What a run leaves in a cell is told from the list of items and an index into it, without running
anything: `LastPaint` looks for the last paint in front of the index whose turn came while the
cursor stood on the cell, and `cursorBefore` finds the cursor by looking back for the last move. The
main statement, `run_lastPaint`, takes for the index that of the first item that is refused, so it
covers runs that end well and runs that fail.
-/

namespace Mosaic.Item

/-- Where an item that is a move goes. -/
def target? (i : Item) : Option Position := i.command?.bind Command.target?

/-- Where the cursor is when item `j` has its turn: at the target of the last move in front of it.
-/
def cursorBefore (start : Position) (items : List Item) (j : Nat) : Position :=
  ((items.take j).filterMap target?).getLast?.getD start

/-- Item `j` paints `code` with the cursor at `p`. -/
def PaintsAt (start : Position) (items : List Item) (p : Position) (j : Nat) (code : Int) : Prop :=
  items[j]? = some (.command (.setColor code)) ∧ cursorBefore start items j = p

/-- Of the first `k` items, the last one that paints with the cursor at `p` paints `code`. -/
def LastPaint (start : Position) (items : List Item) (k : Nat) (p : Position) (code : Int) : Prop :=
  ∃ j < k, PaintsAt start items p j code ∧
    ∀ i, j < i → i < k → ∀ code', ¬ PaintsAt start items p i code'

/-- The numbers in an item that a refusal would tell are short enough to be written. -/
def IsTellable : Item → Prop
  | command (.moveCursor p) => IsWritable p.x ∧ IsWritable p.y
  | command (.setColor code) => IsWritable code
  | other text => text.isSome

/-- The index of the first item that a display of this size refuses; the length without one. -/
def firstRefused (width height : Nat) (items : List Item) : Nat :=
  items.findIdx fun i => (i.refusal? width height).isSome

variable {start p : Position} {items rest : List Item} {j k width height : Nat} {code : Int}

/-! ## Only the items in front matter -/

theorem cursorBefore_append (hj : j ≤ items.length) :
    cursorBefore start (items ++ rest) j = cursorBefore start items j := by
  rw [cursorBefore, cursorBefore, List.take_append_of_le_length hj]

theorem paintsAt_append (hj : j < items.length) :
    PaintsAt start (items ++ rest) p j code ↔ PaintsAt start items p j code := by
  rw [PaintsAt, PaintsAt, List.getElem?_append_left hj, cursorBefore_append hj.le]

theorem lastPaint_append (hk : k ≤ items.length) :
    LastPaint start (items ++ rest) k p code ↔ LastPaint start items k p code := by
  have hpaints : ∀ {i code'}, i < k →
      (PaintsAt start (items ++ rest) p i code' ↔ PaintsAt start items p i code') :=
    fun hi => paintsAt_append (hi.trans_le hk)
  constructor
  · rintro ⟨j, hj, hpaint, hlast⟩
    exact ⟨j, hj, (hpaints hj).mp hpaint,
      fun i hji hi code' h => hlast i hji hi code' ((hpaints hi).mpr h)⟩
  · rintro ⟨j, hj, hpaint, hlast⟩
    exact ⟨j, hj, (hpaints hj).mpr hpaint,
      fun i hji hi code' h => hlast i hji hi code' ((hpaints hi).mp h)⟩

/-- With one more item in view, the last paint is this item or the last paint before it. -/
theorem lastPaint_succ :
    LastPaint start items (k + 1) p code ↔ PaintsAt start items p k code ∨
      (LastPaint start items k p code ∧ ∀ code', ¬ PaintsAt start items p k code') := by
  constructor
  · rintro ⟨j, hj, hpaint, hlast⟩
    rcases Nat.lt_succ_iff_lt_or_eq.mp hj with hjk | rfl
    · refine .inr ⟨⟨j, hjk, hpaint, fun i hji hi => hlast i hji (Nat.lt_succ_of_lt hi)⟩, ?_⟩
      exact hlast k hjk (Nat.lt_succ_self k)
    · exact .inl hpaint
  · rintro (hpaint | ⟨⟨j, hj, hpaint, hlast⟩, hnone⟩)
    · exact ⟨k, Nat.lt_succ_self k, hpaint, fun i hki hi => absurd hi (by omega)⟩
    · refine ⟨j, Nat.lt_succ_of_lt hj, hpaint, fun i hji hi => ?_⟩
      rcases Nat.lt_succ_iff_lt_or_eq.mp hi with hik | rfl
      · exact hlast i hji hik
      · exact hnone

/-! ## Looking back and running along agree on queues -/

/-- Behind a queue the cursor is at its last target. -/
theorem getLast?_target? (start : Position) (cs : List Command) :
    ((cs.map Item.command).filterMap target?).getLast?.getD start =
      Command.lastTarget start cs := by
  induction cs generalizing start with
  | nil => rfl
  | cons c cs ih =>
    cases c with
    | moveCursor q =>
      rw [Command.lastTarget, ← ih q]
      simp [target?, command?, Command.target?, List.getLast?_cons]
    | setColor code => exact ih start

theorem lastWrite_concat (start p : Position) (cs : List Command) (c : Command) :
    Command.lastWrite start p (cs ++ [c]) =
      match c with
      | .moveCursor _ => Command.lastWrite start p cs
      | .setColor code =>
        if Command.lastTarget start cs = p then some code else Command.lastWrite start p cs := by
  rw [Command.lastWrite_append]
  rcases c with q | code
  · rfl
  · by_cases hp : Command.lastTarget start cs = p <;> simp [Command.lastWrite, hp]

theorem paintsAt_length {cs : List Command} {c : Command} :
    PaintsAt start (cs.map .command ++ [.command c]) p cs.length code ↔
      c = .setColor code ∧ Command.lastTarget start cs = p := by
  have hcursor : cursorBefore start (cs.map .command ++ [.command c]) cs.length =
      Command.lastTarget start cs := by
    rw [cursorBefore, List.take_left' (List.length_map Item.command), getLast?_target?]
  rw [PaintsAt, hcursor, List.getElem?_append_right (List.length_map Item.command).le]
  simp

/-- What a queue writes last at a position is its last paint there. -/
theorem lastPaint_iff_lastWrite {cs : List Command} :
    LastPaint start (cs.map .command) cs.length p code ↔
      Command.lastWrite start p cs = some code := by
  -- The last paint is found from the back, so the queue is taken apart there.
  induction cs using List.reverseRecOn generalizing code with
  | nil =>
    constructor
    · rintro ⟨j, hj, -⟩
      exact absurd hj (Nat.not_lt_zero j)
    · exact nofun
  | append_singleton cs c ih =>
    rw [List.map_append, List.map_singleton, List.length_append, List.length_singleton,
      lastPaint_succ, lastPaint_append (by rw [List.length_map]), ih, lastWrite_concat]
    simp only [paintsAt_length]
    cases c with
    | moveCursor q => simp
    | setColor other =>
      by_cases hp : Command.lastTarget start cs = p <;> simp [hp]

/-! ## The items in front of the first refusal -/

theorem firstRefused_le_length (width height : Nat) (items : List Item) :
    firstRefused width height items ≤ items.length := List.findIdx_le_length

/-- In front of the first refused item there are only commands. -/
theorem map_command_executable (width height : Nat) (items : List Item) :
    (executable width height items).map .command =
      items.take (firstRefused width height items) := by
  induction items with
  | nil => rfl
  | cons i is ih =>
    cases hrefused : i.refusal? width height with
    | some e =>
      rw [executable_cons_of_refused hrefused]
      simp [firstRefused, List.findIdx_cons, hrefused]
    | none =>
      cases i with
      | command c =>
        rw [executable_cons hrefused]
        simpa [firstRefused, List.findIdx_cons, hrefused] using ih
      | other text => cases hrefused

theorem length_executable (width height : Nat) (items : List Item) :
    (executable width height items).length = firstRefused width height items := by
  rw [← List.length_map Item.command, map_command_executable,
    List.length_take_of_le (firstRefused_le_length width height items)]

/-- A list of items is its executed commands and the items from the first refused one on. -/
theorem executable_append_drop (width height : Nat) (items : List Item) :
    (executable width height items).map .command ++
      items.drop (firstRefused width height items) = items := by
  rw [map_command_executable, List.take_append_drop]

theorem cursorBefore_firstRefused (width height : Nat) (start : Position) (items : List Item) :
    cursorBefore start items (firstRefused width height items) =
      Command.lastTarget start (executable width height items) := by
  rw [cursorBefore, ← map_command_executable, getLast?_target?]

theorem lastPaint_firstRefused :
    LastPaint start items (firstRefused width height items) p code ↔
      Command.lastWrite start p (executable width height items) = some code := by
  -- Items from the first refused one on are out of view, so the executed queue decides.
  rw [← lastPaint_iff_lastWrite, ← lastPaint_append (List.length_map Item.command).ge,
    executable_append_drop, length_executable]

/-- What an executed command paints is the code of a colour. -/
theorem isLegal_of_lastPaint (h : LastPaint start items (firstRefused width height items) p code) :
    Color.IsLegal code := by
  have hmem := Command.mem_of_lastWrite (lastPaint_firstRefused.mp h)
  exact refusal?_setColor_eq_none_iff.mp (Machine.refusal?_of_mem_executable hmem)

end Mosaic.Item

namespace Mosaic.Machine

open Item

/-- Items end with the refusal of the first refused one. -/
theorem ending_eq (width height : Nat) (items : List Item) :
    ending width height items =
      match items[firstRefused width height items]?.bind (·.refusal? width height) with
      | some e => .error e
      | none => .ok () := by
  induction items with
  | nil => rfl
  | cons i is ih =>
    cases hrefused : i.refusal? width height with
    | some e =>
      rw [ending_cons_of_refused hrefused]
      simp [firstRefused, List.findIdx_cons, hrefused]
    | none =>
      rw [ending_cons hrefused]
      simpa [firstRefused, List.findIdx_cons, hrefused] using ih

/-- The refusal of an item is not told exactly if its numbers are too long to be written. -/
theorem refusal_eq_overlongNumber_iff {width height : Nat} {i : Item} {e : Failure}
    (he : i.refusal? width height = some e) : e = .overlongNumber ↔ ¬ i.IsTellable := by
  cases i with
  | command c =>
    cases c with
    | moveCursor p =>
      by_cases hp : p.Inside width height
      · cases (refusal?_moveCursor_eq_none_iff.mpr hp).symm.trans he
      · obtain rfl := Option.some.inj ((refusal?_moveCursor hp).symm.trans he)
        rw [Fault.raise_eq_overlongNumber_iff, Fault.isTellable_cursorOutOfBounds]
        rfl
    | setColor code =>
      by_cases hcode : Color.IsLegal code
      · cases (refusal?_setColor_eq_none_iff.mpr hcode).symm.trans he
      · obtain rfl := Option.some.inj ((refusal?_setColor hcode).symm.trans he)
        rw [Fault.raise_eq_overlongNumber_iff, Fault.isTellable_invalidColor]
        rfl
  | other text =>
    obtain rfl := Option.some.inj he
    cases text <;> simp [unsupported, IsTellable]

/-- **The last paint wins.** Let `k` be the index of the first item that the display refuses, or the
number of items if it refuses none. A run ends well in the second case and with the refusal of item
`k` in the first, which is told if the numbers in the item can be written. Either way the first `k`
items took effect and no other: every cell shows the last colour painted there, or what it showed
before, and the cursor is where the last move put it. -/
theorem run_lastPaint (m : Machine) (items : List Item) (hm : m.InBounds) :
    let k := firstRefused m.grid.width m.grid.height items
    let r := m.run items
    (k = items.length → r.outcome = .ok ()) ∧
    (∀ hk : k < items.length, ∃ e,
      items[k].refusal? m.grid.width m.grid.height = some e ∧ r.outcome = .error e ∧
      (e = .overlongNumber ↔ ¬ items[k].IsTellable)) ∧
    (∀ x y : Nat,
      (∀ code, LastPaint m.cursor items k ⟨x, y⟩ code →
        ∃ c : Color, c.code = code ∧ r.machine.grid.colorAt? x y = some c) ∧
      ((∀ code, ¬ LastPaint m.cursor items k ⟨x, y⟩ code) →
        r.machine.grid.colorAt? x y = m.grid.colorAt? x y)) ∧
    r.machine.grid.width = m.grid.width ∧ r.machine.grid.height = m.grid.height ∧
    r.machine.cursor = cursorBefore m.cursor items k ∧ r.machine.applied = m.applied + k := by
  have hall := fun c (hc : c ∈ executable m.grid.width m.grid.height items) =>
    refusal?_of_mem_executable hc
  intro k r
  have hr : r = ⟨_, _⟩ := run_eq hm items
  rw [hr]
  -- From here on the run is its closed form: the obeyed commands and the ending.
  refine ⟨fun hk => ?_, fun hk => ?_, fun x y => ⟨fun code h => ?_, fun h => ?_⟩,
    width_foldl_obey m _, height_foldl_obey m _, ?_, ?_⟩
  · rw [ending_eq, List.getElem?_eq_none hk.ge]
    rfl
  · have hsome : (items[k].refusal? m.grid.width m.grid.height).isSome = true :=
      List.findIdx_getElem (w := hk)
    obtain ⟨e, he⟩ := Option.isSome_iff_exists.mp hsome
    refine ⟨e, he, ?_, refusal_eq_overlongNumber_iff he⟩
    rw [ending_eq, List.getElem?_eq_getElem hk, Option.bind_some, he]
  · refine ⟨Grid.legalColor code, Grid.code_legalColor (isLegal_of_lastPaint h), ?_⟩
    rw [colorAt?_foldl_obey hm hall, lastPaint_firstRefused.mp h]
    rfl
  · have hnone : Command.lastWrite m.cursor ⟨x, y⟩ _ = none :=
      Option.eq_none_iff_forall_ne_some.mpr fun code hcode =>
        h code (lastPaint_firstRefused.mpr hcode)
    rw [colorAt?_foldl_obey hm hall, hnone]
    rfl
  · exact (cursor_foldl_obey m _).trans (cursorBefore_firstRefused _ _ _ _).symm
  · rw [applied_foldl_obey, length_executable]

/-- A cell painted twice before a move off the display stops the run shows its second colour. -/
theorem run_lastPaint_repainted :
    let m : Machine := ⟨Grid.fill 2 3 (by decide) (by decide) .green, ⟨1, 2⟩, 7⟩
    let items : List Item := [.command (.setColor 3), .command (.moveCursor ⟨0, 1⟩),
      .command (.setColor 3), .command (.moveCursor ⟨1, 2⟩), .command (.setColor 1),
      .command (.moveCursor ⟨2, 0⟩), .command (.setColor 2)]
    m.InBounds ∧ (m.run items).outcome = .error (.fault (.cursorOutOfBounds ⟨2, 0⟩ 2 3)) ∧
      (m.run items).machine.applied = 12 ∧ (m.run items).machine.cursor = ⟨1, 2⟩ ∧
      ∃ c : Color, (c.code : Int) = 1 ∧ (m.run items).machine.grid.colorAt? 1 2 = some c := by
  intro m items
  have hm : m.InBounds := show m.grid.Contains m.cursor by decide
  have hk : firstRefused m.grid.width m.grid.height items = 5 := by decide
  obtain ⟨-, hfails, hcells, -, -, hcursor, happlied⟩ := run_lastPaint m items hm
  rw [hk] at hcursor happlied
  obtain ⟨e, he, houtcome, -⟩ := hfails (by decide)
  have hpaint : LastPaint m.cursor items 5 ⟨1, 2⟩ 1 :=
    ⟨4, by decide, ⟨rfl, by decide⟩, fun i hlow hhigh => absurd hhigh (by omega)⟩
  refine ⟨hm, ?_, happlied, hcursor, (hcells 1 2).1 1 ?_⟩
  · rw [houtcome]
    exact congrArg Except.error (Option.some.inj he).symm
  · rw [hk]
    exact hpaint

/-- A move that is too far to be written is the first item that is refused, and is not told. -/
theorem run_unwritable_move :
    let m : Machine := new (Grid.fill 1 1 (by decide) (by decide) .red)
    let items : List Item := [.command (.moveCursor ⟨leastUnwritable, 0⟩)]
    m.InBounds ∧ firstRefused m.grid.width m.grid.height items = 0 ∧
      (m.run items).outcome = .error .overlongNumber := by
  intro m items
  have hrefused : (Item.command (.moveCursor ⟨leastUnwritable, 0⟩)).refusal? 1 1 =
      some .overlongNumber :=
    refusal?_unwritable_moveCursor (by decide) (by decide)
      fun h => not_isWritable_leastUnwritable h.1
  have hfirst : firstRefused 1 1 items = 0 := by
    rw [firstRefused, List.findIdx_cons, hrefused]
    rfl
  have hending : ending 1 1 items = .error .overlongNumber := ending_cons_of_refused hrefused []
  have hrun : (m.run items).outcome = ending 1 1 items :=
    congrArg Run.outcome (run_eq (inBounds_new _) items)
  exact ⟨inBounds_new _, hfirst, hrun.trans hending⟩

end Mosaic.Machine
