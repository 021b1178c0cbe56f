import Mosaic.Proofs.Failure
import Mosaic.Machine
import Mosaic.Proofs.Grid.Store
import Mosaic.Proofs.Machine.LastPaint

/-!
# A history is what was accepted of it

A machine that is used for many actions may see some of them fail. `performAll_eq` says what is left
of a history in the end: the machine obeyed the accepted commands, in order and with nothing in
between. A list of items leaves the commands in front of its first refused item, and a stream that
is not read leaves none. So one run of the accepted commands takes the place of the whole history.

The induction is over the actions. Its invariant is that the cursor stays on the display, since then
the size of the display alone decides which command is accepted.

Nothing is lost on the way. `Sound` lists what stays: the cursor is on the display, the display
keeps its size and its legal codes, and the count is that of the accepted commands. The grid checks
position and code again before it writes. In a sound machine both checks are idle: the cursor is on
the display, and the code that a paint passes on is that of a colour.
-/

namespace Mosaic

/-! ## Commands that are not refused -/

namespace Item

variable {width height : Nat} {cs : List Command}

/-- A queue without a refused command is executable as it stands. -/
theorem executable_map_command
    (hcs : ∀ c ∈ cs, (command c).refusal? width height = none) :
    executable width height (cs.map command) = cs := by
  induction cs with
  | nil => rfl
  | cons c cs ih =>
    obtain ⟨hc, hrest⟩ := List.forall_mem_cons.mp hcs
    rw [List.map_cons, executable_cons hc, ih hrest]

end Item

namespace Machine

variable {m : Machine} {c : Command} {cs : List Command}

/-- A queue without a refused command is obeyed to its end. -/
theorem runQueue_eq (hm : m.InBounds)
    (hcs : ∀ c ∈ cs, (Item.command c).refusal? m.grid.width m.grid.height = none) :
    m.runQueue cs = ⟨cs.foldl obey m, .ok ()⟩ := by
  rw [runQueue, run_eq hm, Item.executable_map_command hcs,
    ending_eq_ok_iff.mpr (List.forall_mem_map.mpr hcs)]

/-- A queue ends well exactly if the display refuses none of its commands. -/
theorem outcome_runQueue_eq_ok_iff (hm : m.InBounds) :
    (m.runQueue cs).outcome = .ok () ↔
      ∀ c ∈ cs, (Item.command c).refusal? m.grid.width m.grid.height = none := by
  rw [runQueue, run_eq hm, ending_eq_ok_iff, List.forall_mem_map]

/-- Commands that the display does not refuse keep the cursor on it. -/
theorem InBounds.foldl_obey (hm : m.InBounds)
    (hcs : ∀ c ∈ cs, (Item.command c).refusal? m.grid.width m.grid.height = none) :
    (cs.foldl Machine.obey m).InBounds := by
  induction cs generalizing m with
  | nil => exact hm
  | cons c cs ih =>
    obtain ⟨hc, hrest⟩ := List.forall_mem_cons.mp hcs
    refine ih (hm.obey hc) ?_
    rwa [width_obey, height_obey]

/-! ## One action -/

/-- Of a list of items the commands in front of the first refused item are accepted. -/
theorem acceptedItems_eq (hm : m.InBounds) (items : List Item) :
    m.acceptedItems items = Item.executable m.grid.width m.grid.height items := by
  induction items generalizing m with
  | nil => rfl
  | cons i is ih =>
    match i with
    -- A list of items stops at the first that is no command or is refused.
    | .other text => rfl
    | .command c =>
      rcases apply_cases hm c with ⟨f, hrefused, happly⟩ | ⟨hnone, happly⟩
      · rw [acceptedItems, happly, Item.executable_cons_of_refused hrefused]
      · have htail := ih (hm.obey hnone)
        rw [width_obey, height_obey] at htail
        rw [acceptedItems, happly, Item.executable_cons hnone, ← htail]

/-- What is accepted of an action is not refused. -/
theorem refusal?_of_mem_acceptedBy (hm : m.InBounds) {a : Action} (hc : c ∈ m.acceptedBy a) :
    (Item.command c).refusal? m.grid.width m.grid.height = none := by
  have hitems : ∀ items, c ∈ m.acceptedItems items →
      (Item.command c).refusal? m.grid.width m.grid.height = none := by
    intro items h
    rw [acceptedItems_eq hm] at h
    exact refusal?_of_mem_executable h
  cases a with
  | apply i => exact hitems [i] hc
  | run is => exact hitems is hc
  | stream checkColors values =>
    cases hparse : Command.parse checkColors values with
    | ok cs =>
      rw [acceptedBy, hparse] at hc
      exact hitems _ hc
    | error f =>
      rw [acceptedBy, hparse] at hc
      cases hc

/-- **An action leaves what was accepted of it**, however it ends. -/
theorem machine_perform (hm : m.InBounds) (a : Action) :
    (m.perform a).machine = (m.acceptedBy a).foldl obey m := by
  have hitems : ∀ items, (m.run items).machine = (m.acceptedItems items).foldl obey m := by
    intro items
    rw [run_eq hm, acceptedItems_eq hm]
  cases a with
  | apply i => exact hitems [i]
  | run is => exact hitems is
  | stream checkColors values =>
    cases hparse : Command.parse checkColors values with
    | ok cs =>
      rw [perform, runStream, acceptedBy, hparse]
      exact hitems _
    | error f =>
      rw [perform, runStream, acceptedBy, hparse]
      rfl

/-- An action keeps the cursor on the display. -/
theorem InBounds.perform (hm : m.InBounds) (a : Action) : (m.perform a).machine.InBounds := by
  rw [machine_perform hm]
  exact hm.foldl_obey fun c hc => refusal?_of_mem_acceptedBy hm hc

/-- An action keeps the width of the display. -/
theorem width_perform (hm : m.InBounds) (a : Action) :
    (m.perform a).machine.grid.width = m.grid.width := by
  rw [machine_perform hm, width_foldl_obey]

/-- An action keeps the height of the display. -/
theorem height_perform (hm : m.InBounds) (a : Action) :
    (m.perform a).machine.grid.height = m.grid.height := by
  rw [machine_perform hm, height_foldl_obey]

/-! ## Histories -/

/-- What is accepted of a history is not refused. -/
theorem refusal?_of_mem_accepted (hm : m.InBounds) {actions : List Action}
    (hc : c ∈ m.accepted actions) :
    (Item.command c).refusal? m.grid.width m.grid.height = none := by
  induction actions generalizing m with
  | nil => cases hc
  | cons a as ih =>
    rcases List.mem_append.mp hc with hfirst | hlater
    · exact refusal?_of_mem_acceptedBy hm hfirst
    · have hrest := ih (hm.perform a) hlater
      rwa [width_perform hm, height_perform hm] at hrest

/-- **A history leaves what was accepted of it.** -/
theorem performAll_eq (hm : m.InBounds) (actions : List Action) :
    m.performAll actions = (m.accepted actions).foldl obey m := by
  induction actions generalizing m with
  | nil => rfl
  | cons a as ih =>
    -- What the first action leaves is the machine that obeyed what was accepted of it.
    have hrest := ih (hm.perform a)
    rw [machine_perform hm] at hrest
    rw [accepted, List.foldl_append, machine_perform hm, ← hrest, ← machine_perform hm]
    rfl

/-- A history keeps the cursor on the display. -/
theorem InBounds.performAll (hm : m.InBounds) (actions : List Action) :
    (m.performAll actions).InBounds := by
  rw [performAll_eq hm]
  exact hm.foldl_obey fun c hc => refusal?_of_mem_accepted hm hc

/-- A history keeps the width of the display. -/
theorem width_performAll (hm : m.InBounds) (actions : List Action) :
    (m.performAll actions).grid.width = m.grid.width := by
  rw [performAll_eq hm, width_foldl_obey]

/-- A history keeps the height of the display. -/
theorem height_performAll (hm : m.InBounds) (actions : List Action) :
    (m.performAll actions).grid.height = m.grid.height := by
  rw [performAll_eq hm, height_foldl_obey]

/-! ## Replaying a history -/

/-- **A machine that lives on through failures is as if the failed commands had never been sent.**
On every display, one run of the accepted commands succeeds and gives the machine that the history
gives: its grid, its cursor and its count. Of a run that was stopped at item `k`, the first `k` are
accepted. -/
theorem performAll_replay {width height code : Int} (hw : 0 < width) (hh : 0 < height)
    (hcode : Color.IsLegal code) (actions : List Action) :
    ∃ m, create width height code = .ok m ∧
      m.runQueue (m.accepted actions) = ⟨m.performAll actions, .ok ()⟩ ∧
      ∀ items, ((m.performAll actions).acceptedItems items).map .command =
        items.take (Item.firstRefused width.toNat height.toNat items) := by
  obtain ⟨g, hcreate, hwidth, hheight⟩ := exists_create_eq_ok hw hh hcode
  have hm : (new g).InBounds := inBounds_new g
  refine ⟨new g, hcreate, ?_, fun items => ?_⟩
  · rw [runQueue_eq hm fun c hc => refusal?_of_mem_accepted hm hc, performAll_eq hm]
  · rw [acceptedItems_eq (hm.performAll actions), Item.map_command_executable,
      width_performAll hm, height_performAll hm, ← hwidth, ← hheight]
    rfl

/-- Of six actions that fail, each in another way, what they did before they failed is replayed. -/
theorem performAll_replay_failures :
    let m := new (Grid.fill 3 2 (by decide) (by decide) .red)
    let actions : List Action := [
      .run [.command (.moveCursor ⟨2, 1⟩), .command (.setColor 3), .command (.moveCursor ⟨3, 0⟩),
        .command (.setColor 2)],
      .apply (.command (.setColor 7)),
      .stream true [2, 2, 4],
      .stream true [1, 0, 0, 2, 2, 1, 1],
      .stream false [2, 1, 1, 0, 1, 2, 2, 2, 0, 2, 3],
      .apply (.other "None")]
    let cs : List Command :=
      [.moveCursor ⟨2, 1⟩, .setColor 3, .setColor 1, .moveCursor ⟨0, 1⟩, .setColor 2]
    create 3 2 1 = .ok m ∧ m.accepted actions = cs ∧
      m.runQueue cs = ⟨m.performAll actions, .ok ()⟩ := by
  intro m actions cs
  have haccepted : m.accepted actions = cs := by decide
  obtain ⟨m', hm', hrun, -⟩ := performAll_replay (show (0 : Int) < 3 by decide)
    (show (0 : Int) < 2 by decide) (show Color.IsLegal 1 by decide) actions
  obtain rfl : m = m' := Except.ok.inj hm'
  rw [haccepted] at hrun
  exact ⟨hm', haccepted, hrun⟩

/-! ## What a machine never loses -/

variable {width height n : Nat}

/-- A machine as it is first made, over a display of this size: a new one, or a grid that was there
before. -/
inductive Fresh : Nat → Nat → Machine → Prop
  | display {width height code : Int} {m : Machine} (h : create width height code = .ok m) :
      Fresh width.toNat height.toNat m
  | grid (g : Grid) : Fresh g.width g.height (new g)

/-- The cursor is on a display of this size and with legal codes, and `n` commands were applied. -/
structure Sound (width height n : Nat) (m : Machine) : Prop where
  cursor_x : 0 ≤ m.cursor.x ∧ m.cursor.x < width
  cursor_y : 0 ≤ m.cursor.y ∧ m.cursor.y < height
  grid_width : m.grid.width = width
  grid_height : m.grid.height = height
  cells : Grid.LegalMatrix width height m.grid.cells
  applied : m.applied = n

theorem Sound.inBounds (hm : Sound width height n m) : m.InBounds := by
  have hx := hm.cursor_x
  have hy := hm.cursor_y
  rw [← hm.grid_width] at hx
  rw [← hm.grid_height] at hy
  exact ⟨hx.1, hx.2, hy.1, hy.2⟩

/-- A machine is sound if its cursor is on its display and its size and count are as said. -/
theorem Sound.of_inBounds (hm : m.InBounds) (hwidth : m.grid.width = width)
    (hheight : m.grid.height = height) (happlied : m.applied = n) : Sound width height n m := by
  subst hwidth hheight
  obtain ⟨hx, hx', hy, hy'⟩ := hm
  exact ⟨⟨hx, hx'⟩, ⟨hy, hy'⟩, rfl, rfl, m.grid.legalMatrix_cells, happlied⟩

/-- A machine starts sound. -/
theorem Fresh.sound (hm : Fresh width height m) : Sound width height 0 m := by
  cases hm with
  | display h =>
    obtain ⟨g, hg, rfl⟩ := map_eq_ok_iff.mp h
    obtain ⟨hw, hh, -, rfl⟩ := Grid.create_eq_ok_iff.mp hg
    exact .of_inBounds (inBounds_new _) rfl rfl rfl
  | grid g => exact .of_inBounds (inBounds_new g) rfl rfl rfl

/-- A history keeps a machine sound, and adds what was accepted to the count. -/
theorem Sound.performAll (hm : Sound width height n m) (actions : List Action) :
    Sound width height (n + (m.accepted actions).length) (m.performAll actions) := by
  refine .of_inBounds (hm.inBounds.performAll actions) ?_ ?_ ?_
  · rw [width_performAll hm.inBounds, hm.grid_width]
  · rw [height_performAll hm.inBounds, hm.grid_height]
  · rw [performAll_eq hm.inBounds, applied_foldl_obey, hm.applied]

/-- With the cursor on the display a paint fails exactly for an illegal code. -/
theorem apply_setColor_error_iff (hm : m.InBounds) {code : Int} :
    (∃ f, m.apply (.setColor code) = .error f) ↔ ¬ Color.IsLegal code := by
  constructor
  · rintro ⟨f, hf⟩ hcode
    rw [apply_of_not_refused hm (Item.refusal?_setColor_eq_none_iff.mpr hcode)] at hf
    cases hf
  · intro hcode
    exact ⟨_, apply_of_refused hm (if_neg hcode)⟩

/-- **Whatever was asked of a machine, it is sound, and the checks of its grid are idle.** Its
cursor is on the display, which has the size and the legal codes it started with, and its count is
that of the accepted commands. So a paint fails exactly if its own check of the code does: behind
that check, the grid finds the cursor inside and the code legal, and writes. -/
theorem performAll_sound (hm : Fresh width height m) (actions : List Action) :
    let now := m.performAll actions
    Sound width height (m.accepted actions).length now ∧
    (∀ code, (∃ f, now.apply (.setColor code) = .error f) ↔
      ¬ (code = 1 ∨ code = 2 ∨ code = 3)) ∧
    now.grid.Contains now.cursor ∧
    ∀ color : Color, Color.IsLegal color.code ∧
      ∃ g, now.grid.set now.cursor color.code = .ok g := by
  intro now
  have hsound : Sound width height (m.accepted actions).length now := by
    have h := hm.sound.performAll actions
    rwa [Nat.zero_add] at h
  have hinside : now.InBounds := hsound.inBounds
  refine ⟨hsound, fun code => ?_, hinside,
    fun color => ⟨color.isLegal_code, _, Grid.set_code hinside color⟩⟩
  rw [apply_setColor_error_iff hinside, Color.isLegal_iff]

/-- Moves far off the display and codes far off the legal ones leave a machine sound. -/
theorem performAll_sound_extremes :
    let m := new (Grid.fill 2 1 (by decide) (by decide) .cyan)
    let actions : List Action := [
      .apply (.command (.moveCursor ⟨-1, 0⟩)),
      .stream false [1, 1, 0, 2, 2, 2, -254],
      .run [.command (.setColor 1), .command (.moveCursor ⟨1000000000000, -1000000000000⟩)],
      .stream true [1, 0, 1, 2, 3]]
    Fresh 2 1 m ∧ Sound 2 1 3 (m.performAll actions) ∧
      ∃ f, (m.performAll actions).apply (.setColor 257) = .error f := by
  intro m actions
  have hm : Fresh 2 1 m := .display (show create 2 1 3 = .ok m from rfl)
  obtain ⟨hsound, hpaint, -⟩ := performAll_sound hm actions
  have haccepted : (m.accepted actions).length = 3 := by decide
  rw [haccepted] at hsound
  exact ⟨hm, hsound, (hpaint 257).mpr (by decide)⟩

end Machine

end Mosaic
