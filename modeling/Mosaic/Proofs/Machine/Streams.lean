import Mosaic.Machine
import Mosaic.Proofs.Command.ReadError
import Mosaic.Proofs.Command.WireFormat
import Mosaic.Proofs.Machine.Effect
import Mosaic.Proofs.Machine.History

/-!
# Streams read at once, in one pass and in instalments

A stream can be read as a queue that is executed afterwards, or executed while it is read. Both take
the stream for a queue with nothing or a broken front behind it, so they are compared record by
record: a record that is read is one command that is applied, and the broken front stops both with
the same fault. On a stream that is read to its end the two agree. On any other stream the first
changes nothing, whatever the second did to the grid by then. A move off the grid and a fault of the
stream are raised, so either way they are told only if the numbers in them are not too long
(`process_refines_interpret`).

Two streams can be processed as one, or the second one later, by a new machine on the grid that the
first one left. The new machine starts in the corner where the old one would go on from its cursor,
and it counts from zero. The count has no part in what a run does (`Twins.run`). The cursor has
none either if the second stream begins with a move: both machines check it against the same
display, and behind it they are at one place before anything is painted (`stepsAlike_move`). So the
two instalments do what the whole does (`process_append`).
-/

namespace Mosaic

namespace Machine

open Command (encodeAll Broken)

variable {m m' : Machine} {c : Command} {i : Item} {cs : List Command} {is : List Item}
  {s rest : List Int} {position : Nat} {f : Fault}

/-! ## One record -/

/-- How an opcode of a paint and a colour code are executed, whatever follows them. -/
theorem interpretFrom_paint (m : Machine) (position : Nat) (code : Int) (s : List Int) :
    m.interpretFrom position (Command.paintOpcode :: code :: s) =
      match m.apply (.setColor code) with
      | .ok m' => m'.interpretFrom (position + 2) s
      | .error e => ⟨m, .error e⟩ := by
  -- The definition looks for the operands of a move first, so it is split at the third integer.
  cases happly : m.apply (.setColor code) <;> cases s <;>
    simp [interpretFrom, Command.moveOpcode, Command.paintOpcode, happly]

/-- A record is executed as its command, and execution goes on behind it. -/
theorem interpretFrom_encode_append (m : Machine) (position : Nat) (c : Command) (s : List Int) :
    m.interpretFrom position (c.encode ++ s) =
      match m.apply c with
      | .ok m' => m'.interpretFrom (position + c.encode.length) s
      | .error e => ⟨m, .error e⟩ := by
  cases c with
  | moveCursor p =>
    cases happly : m.apply (.moveCursor p) <;> simp [Command.encode, interpretFrom, happly]
  | setColor code => exact interpretFrom_paint m position code s

/-- At a broken front execution stops with the reason. -/
theorem interpretFrom_of_broken (hm : m.InBounds) (h : Broken true position s f) :
    m.interpretFrom position s = ⟨m, .error f.raise⟩ := by
  cases h with
  | opcode o rest hmove hpaint =>
    match rest with
    | [] => simp [interpretFrom, hmove, hpaint]
    | [x] => simp [interpretFrom, hmove, hpaint]
    | x :: y :: rest => simp [interpretFrom, hmove, hpaint]
  | shortMove operands h =>
    match operands, h with
    | [], _ => simp [interpretFrom]
    | [x], _ => simp [interpretFrom]
  | shortPaint => simp [interpretFrom, Command.moveOpcode, Command.paintOpcode]
  | color code rest hcheck hcode =>
    have happly : m.apply (.setColor code) = .error (Fault.invalidColor code).raise :=
      apply_of_refused hm (if_neg hcode)
    rw [interpretFrom_paint, happly]

/-! ## A queue and what follows it -/

theorem runQueue_cons (m : Machine) (c : Command) (cs : List Command) :
    m.runQueue (c :: cs) =
      match m.apply c with
      | .ok m' => m'.runQueue cs
      | .error e => ⟨m, .error e⟩ := by
  rw [runQueue, List.map_cons, run, step]
  cases m.apply c <;> rfl

/-- The wire form of a queue is executed as the queue, and what follows it only if that ends well.
-/
theorem interpretFrom_encodeAll_append (m : Machine) (position : Nat) (cs : List Command)
    (s : List Int) :
    m.interpretFrom position (encodeAll cs ++ s) =
      match (m.runQueue cs).outcome with
      | .ok () => (m.runQueue cs).machine.interpretFrom (position + (encodeAll cs).length) s
      | .error _ => m.runQueue cs := by
  -- The induction is on the queue. The position moves on by the record that was executed.
  induction cs generalizing m position with
  | nil => rfl
  | cons c cs ih =>
    rw [Command.encodeAll_cons, List.append_assoc, interpretFrom_encode_append, runQueue_cons]
    cases m.apply c with
    | ok m' => simpa [Nat.add_assoc] using ih m' (position + c.encode.length)
    | error f => rfl

/-- The wire form of a queue is executed as the queue. -/
theorem interpret_encodeAll (m : Machine) (cs : List Command) :
    m.interpret (encodeAll cs) = m.runQueue cs := by
  have h := interpretFrom_encodeAll_append m 0 cs []
  rw [List.append_nil] at h
  rw [interpret, h]
  cases houtcome : (m.runQueue cs).outcome with
  | ok => exact congrArg (Run.mk (m.runQueue cs).machine) houtcome.symm
  | error e => rfl

/-- In front of a broken front the queue is executed; if that ends well, the reason is the outcome.
-/
theorem interpret_of_broken (hm : m.InBounds) (h : Broken true (encodeAll cs).length rest f) :
    m.interpret (encodeAll cs ++ rest) =
      ⟨(m.runQueue cs).machine, (m.runQueue cs).outcome.bind fun () => .error f.raise⟩ := by
  have hafter : (m.runQueue cs).machine.InBounds := hm.perform (.run (cs.map .command))
  rw [interpret, interpretFrom_encodeAll_append, Nat.zero_add, interpretFrom_of_broken hafter h]
  cases houtcome : (m.runQueue cs).outcome with
  | ok => rfl
  | error e => exact congrArg (Run.mk (m.runQueue cs).machine) houtcome

/-! ## Reading first and executing while reading -/

/-- **Reading first refines executing while reading.** On a stream that is read to its end both
leave the same grid and end the same way, well or with a move off the display, which is told if its
target is not too long to be written. On any other stream the grid is left as it was and the read
error is the outcome, though executing while reading ran the queue in front of the error and ended
with what came first, a failure of that run or the error. -/
theorem process_refines_interpret (g : Grid) (stream : List Int) :
    let r := (new g).interpret stream
    match Command.parse true stream with
    | .ok cs =>
      g.process stream = ⟨r.machine.grid, r.outcome⟩ ∧
        (r.outcome = .ok () ∨ ∃ p, .moveCursor p ∈ cs ∧ ¬ g.Contains p ∧
          r.outcome = .error (Fault.cursorOutOfBounds p g.width g.height).raise)
    | .error e =>
      g.process stream = ⟨g, .error e⟩ ∧
        ∃ cs rest f, stream = encodeAll cs ++ rest ∧ (∀ c ∈ cs, c.HasLegalColor) ∧
          Broken true (encodeAll cs).length rest f ∧ f.raise = e ∧
          r.machine = ((new g).runQueue cs).machine ∧
          r.outcome = ((new g).runQueue cs).outcome.bind fun () => .error e := by
  intro r
  have hm : (new g).InBounds := inBounds_new g
  cases hparse : Command.parse true stream with
  | ok cs =>
    obtain ⟨hstream, hcs⟩ := Command.parse_eq_ok_iff.mp hparse
    -- Nothing is left behind the queue, so the pass is the run of the queue.
    have hr : r = (new g).runQueue cs := by rw [← interpret_encodeAll, hstream]
    have houtcome : r.outcome = ending g.width g.height (cs.map .command) := by
      rw [hr, runQueue, run_eq hm]
      rfl
    refine ⟨?_, ?_⟩
    · rw [hr, Grid.process_of_parse_ok hparse]
    · rw [houtcome]
      exact ending_cases_of_legal fun c hc => hcs c hc rfl
  | error e =>
    obtain ⟨cs, rest, f, hstream, hcs, hbroken, rfl⟩ := Command.parse_eq_error_iff.mp hparse
    have hr : r = ⟨((new g).runQueue cs).machine,
        ((new g).runQueue cs).outcome.bind fun () => .error f.raise⟩ := by
      rw [← interpret_of_broken hm hbroken, ← hstream]
    exact ⟨Grid.process_of_parse_error hparse, cs, rest, f, hstream, fun c hc => hcs c hc rfl,
      hbroken, rfl, by rw [hr], by rw [hr]⟩

/-- A move far off the grid stops a stream that is read to its end, and is not told. -/
theorem process_unwritable_move :
    let g := Grid.fill 2 1 (by decide) (by decide) .red
    let stream := [Command.moveOpcode, leastUnwritable, 0]
    Command.parse true stream = .ok [.moveCursor ⟨leastUnwritable, 0⟩] ∧
      g.process stream = ⟨g, .error .overlongNumber⟩ := by
  intro g stream
  have hparse : Command.parse true stream = .ok [.moveCursor ⟨leastUnwritable, 0⟩] := rfl
  have hmove : (new g).apply (.moveCursor ⟨leastUnwritable, 0⟩) = .error .overlongNumber :=
    apply_of_refused (inBounds_new g) (Item.refusal?_unwritable_moveCursor (by decide) (by decide)
      fun h => not_isWritable_leastUnwritable h.1)
  refine ⟨hparse, ?_⟩
  rw [Grid.process_of_parse_ok hparse, runQueue_cons, hmove]
  rfl

/-- A stream that breaks off after a paint has painted only where it is executed while it is read.
-/
example :
    let g := Grid.fill 2 1 (by decide) (by decide) .red
    ((new g).interpret [1, 1, 0, 2, 3, 1]).machine.grid.cells = [[1, 3]] ∧
      g.process [1, 1, 0, 2, 3, 1] = ⟨g, .error (.fault (.truncatedInput 1 2 0))⟩ := by
  decide

/-! ## Twins -/

/-- Machines at the same place of the same display; their counts may differ. -/
structure Twins (m m' : Machine) : Prop where
  grid : m.grid = m'.grid
  cursor : m.cursor = m'.cursor

/-- Two steps end alike: with one failure, or with machines that are twins. -/
inductive StepsAlike : Except Failure Machine → Except Failure Machine → Prop
  | stopped (e : Failure) : StepsAlike (.error e) (.error e)
  | moved {n n' : Machine} : Twins n n' → StepsAlike (.ok n) (.ok n')

/-- Two runs end alike and leave the same grid. -/
structure RunsAlike (r r' : Run) : Prop where
  grid : r.machine.grid = r'.machine.grid
  outcome : r.outcome = r'.outcome

/-! ## Steps of twins -/

/-- A move needs the display only: wherever the two cursors were, it brings them to one place. -/
theorem stepsAlike_move (hgrid : m.grid = m'.grid) (p : Position) :
    StepsAlike (m.step (.command (.moveCursor p))) (m'.step (.command (.moveCursor p))) := by
  by_cases hp : p.Inside m'.grid.width m'.grid.height
  · simp only [step, apply, hgrid, if_pos hp]
    exact .moved ⟨rfl, rfl⟩
  · simp only [step, apply, hgrid, if_neg hp]
    exact .stopped _

/-- The count has no part in a step. -/
theorem Twins.step (h : Twins m m') (i : Item) : StepsAlike (m.step i) (m'.step i) := by
  match i with
  | .other text => exact .stopped _
  | .command (.moveCursor p) => exact stepsAlike_move h.grid p
  | .command (.setColor code) =>
    -- A paint reads the cursor and the grid, and these are the same for twins.
    simp only [Machine.step, apply, h.grid, h.cursor]
    cases Color.ofCode code with
    | error f => exact .stopped _
    | ok color =>
      dsimp only [bind, Except.bind]
      cases m'.grid.set m'.cursor color.code with
      | error f => exact .stopped _
      | ok g => exact .moved ⟨rfl, rfl⟩

/-! ## Runs of twins -/

/-- Runs over one grid end alike if their first steps do, and all that twins do afterwards. -/
theorem runsAlike_cons (hgrid : m.grid = m'.grid) (hstep : StepsAlike (m.step i) (m'.step i))
    (hrest : ∀ n n', Twins n n' → RunsAlike (n.run is) (n'.run is)) :
    RunsAlike (m.run (i :: is)) (m'.run (i :: is)) := by
  rw [run, run]
  generalize m.step i = r, m'.step i = r' at hstep
  cases hstep with
  | stopped e => exact ⟨hgrid, rfl⟩
  | moved htwins => exact hrest _ _ htwins

/-- Twins end a run alike. -/
theorem Twins.run (h : Twins m m') (items : List Item) :
    RunsAlike (m.run items) (m'.run items) := by
  induction items generalizing m m' with
  | nil => exact ⟨h.grid, rfl⟩
  | cons i is ih => exact runsAlike_cons h.grid (h.step i) fun n n' htwins => ih htwins

/-- A queue that is empty or starts with a move ends as it does on a new machine over the grid. -/
theorem runsAlike_new (m : Machine) (hcs : cs = [] ∨ ∃ p cs', cs = .moveCursor p :: cs') :
    RunsAlike (m.runQueue cs) ((new m.grid).runQueue cs) := by
  have hgrid : m.grid = (new m.grid).grid := rfl
  rcases hcs with rfl | ⟨p, cs', rfl⟩
  · exact ⟨hgrid, rfl⟩
  · exact runsAlike_cons hgrid (stepsAlike_move hgrid p) fun n n' htwins => htwins.run _

/-- Behind items that end well a run goes on, and otherwise it has ended. -/
theorem run_append (m : Machine) (is js : List Item) :
    m.run (is ++ js) =
      match (m.run is).outcome with
      | .ok () => (m.run is).machine.run js
      | .error _ => m.run is := by
  -- The induction is on the first list, with the machine that its first step leaves.
  induction is generalizing m with
  | nil => rfl
  | cons i is ih =>
    rw [List.cons_append, run, run]
    cases m.step i with
    | ok m' => exact ih m'
    | error e => rfl

/-- Behind a queue that ends well the next one is run. -/
theorem runQueue_append_of_ok (h : (m.runQueue cs).outcome = .ok ()) (ds : List Command) :
    m.runQueue (cs ++ ds) = (m.runQueue cs).machine.runQueue ds := by
  rw [runQueue] at h
  rw [runQueue, List.map_append, run_append, h]
  rfl

/-- Behind a queue that fails nothing is run any more. -/
theorem runQueue_append_of_error {e : Failure} (h : (m.runQueue cs).outcome = .error e)
    (ds : List Command) : m.runQueue (cs ++ ds) = m.runQueue cs := by
  rw [runQueue] at h
  rw [runQueue, List.map_append, run_append, h]
  rfl

end Machine

namespace Command

variable {t : List Int} {ds : List Command}

/-- A queue whose wire form is empty or starts with the opcode of a move is empty or starts with a
move. -/
theorem eq_nil_or_move_of_head? (hmove : ∀ opcode ∈ (encodeAll ds).head?, opcode = moveOpcode) :
    ds = [] ∨ ∃ p ds', ds = .moveCursor p :: ds' := by
  match ds with
  | [] => exact .inl rfl
  | .moveCursor p :: ds' => exact .inr ⟨p, ds', rfl⟩
  | .setColor code :: ds' =>
    have hpaint : paintOpcode = moveOpcode := hmove paintOpcode rfl
    exact absurd hpaint (by decide)

end Command

namespace Grid

variable {s t : List Int}

/-! ## Two instalments -/

/-- **A stream may come in two instalments.** Take two streams that are read, the second empty or
beginning with a move. If processing the first fails, processing both fails the same way and leaves
the same grid. Otherwise processing both ends as processing the second on the grid that the first
has left, and leaves the same grid, though the second time a new machine starts in the corner. -/
theorem process_append (hs : Command.Accepted s) (ht : Command.Accepted t)
    (hmove : ∀ opcode ∈ t.head?, opcode = Command.moveOpcode) (g : Grid) :
    (∀ e, (g.process s).outcome = .error e → g.process (s ++ t) = g.process s) ∧
    ((g.process s).outcome = .ok () → g.process (s ++ t) = (g.process s).grid.process t) := by
  obtain ⟨cs, hcs⟩ := hs
  obtain ⟨ds, hds⟩ := ht
  have hboth := Command.parse_append_ok hcs hds
  rw [process_of_parse_ok hcs, process_of_parse_ok hboth]
  constructor
  · intro e he
    rw [Machine.runQueue_append_of_error he]
  · intro hok
    obtain ⟨rfl, -⟩ := Command.parse_eq_ok_iff.mp hds
    rw [Machine.runQueue_append_of_ok hok, process_of_parse_ok hds]
    -- The machine that goes on and the new one share the grid, and the move brings them together.
    have halike := Machine.runsAlike_new ((Machine.new g).runQueue cs).machine
      (Command.eq_nil_or_move_of_head? hmove)
    rw [halike.grid, halike.outcome]

/-- The second instalment paints two cells and then leaves the display. -/
theorem process_append_failing :
    let g := Grid.fill 3 2 (by decide) (by decide) .red
    let s := [1, 2, 1, 2, 3]
    let t := [1, 0, 1, 2, 2, 1, 1, 0, 2, 2, 1, 3, 0, 2, 1]
    Command.Accepted s ∧ Command.Accepted t ∧ (∀ opcode ∈ t.head?, opcode = Command.moveOpcode) ∧
      (g.process s).outcome = .ok () ∧
      (g.process (s ++ t)).grid.cells = [[1, 2, 1], [2, 1, 3]] ∧
      (g.process (s ++ t)).outcome = .error (.fault (.cursorOutOfBounds ⟨3, 0⟩ 3 2)) ∧
      g.process (s ++ t ++ s) = g.process (s ++ t) := by
  intro g s t
  have hs : Command.Accepted s := ⟨_, rfl⟩
  have ht : Command.Accepted t := ⟨_, rfl⟩
  have hboth : Command.Accepted (s ++ t) := ⟨_, rfl⟩
  have hfirst : (g.process s).outcome = .ok () := by decide
  have hwhole := (process_append hs ht (by decide) g).2 hfirst
  have hfails : (g.process (s ++ t)).outcome = .error (.fault (.cursorOutOfBounds ⟨3, 0⟩ 3 2)) := by
    rw [hwhole]
    decide
  refine ⟨hs, ht, by decide, hfirst, ?_, hfails, ?_⟩
  · rw [hwhole]
    decide
  · exact (process_append hboth hs (by decide) g).1 _ hfails

/-- Without the move the second instalment would paint where the first one left the cursor. -/
example :
    let g := Grid.fill 2 1 (by decide) (by decide) .red
    (g.process ([1, 1, 0] ++ [2, 3])).grid.cells = [[1, 3]] ∧
      ((g.process [1, 1, 0]).grid.process [2, 3]).grid.cells = [[3, 1]] := by
  decide

end Grid

end Mosaic
