import Mosaic.Proofs.Command.ReadError
import Mosaic.Proofs.Grid.Store
import Mosaic.Proofs.Machine.History

/-!
# Checking colours early and late

The colours of a stream are checked while it is read, or left to the machine that runs the queue. A
stream with several defects may then fail for different reasons: the early check stops at an illegal
colour, where the late one reads on and can find another defect. Any other defect that comes first
is the failure of both. Which streams succeed, and what they draw, is the same either way, since a
machine refuses the colours that the reader would have refused.
-/

namespace Mosaic

namespace Command

/-- The colour code of a paint. -/
def code? : Command → Option Int
  | moveCursor _ => none
  | setColor code => some code

/-- The first illegal colour code of a queue. -/
def firstIllegal? (cs : List Command) : Option Int :=
  (cs.filterMap code?).find? fun code => ¬ Color.IsLegal code

/-- Reading fails with `f` at the record that starts at index `position` of the stream: a queue that
passes stands in front of it. -/
def FailsAt (checkColors : Bool) (s : List Int) (position : Nat) (f : Fault) : Prop :=
  ∃ cs rest, s = encodeAll cs ++ rest ∧ (∀ c ∈ cs, Passes checkColors c) ∧
    (encodeAll cs).length = position ∧ Broken checkColors position rest f

/-- Left unchecked, a stream is read to its end in spite of a colour at index `position`, or reading
fails further on, at the end or at an unknown opcode. -/
def ReadsOn (s : List Int) (position : Nat) : Prop :=
  (∃ cs, parse false s = .ok cs) ∨
    ∃ later f, position < later ∧ FailsAt false s later f ∧ parse false s = .error f.raise ∧
      (f.EndsEarly ∨ ∃ opcode, f = .invalidCommand opcode later)

variable {checkColors : Bool} {position : Nat} {s rest : List Int} {cs : List Command} {code : Int}
  {f : Fault} {e : Failure}

/-! ## Where reading fails -/

theorem FailsAt.parse_eq (h : FailsAt checkColors s position f) :
    parse checkColors s = .error f.raise := by
  obtain ⟨cs, rest, hs, hcs, rfl, hbroken⟩ := h
  exact parse_eq_error_iff.mpr ⟨cs, rest, f, hs, hcs, hbroken, rfl⟩

theorem exists_failsAt_of_error (h : parse checkColors s = .error e) :
    ∃ position f, FailsAt checkColors s position f ∧ f.raise = e := by
  obtain ⟨cs, rest, f, hs, hcs, hbroken, hraise⟩ := parse_eq_error_iff.mp h
  exact ⟨_, f, ⟨cs, rest, hs, hcs, rfl, hbroken⟩, hraise⟩

/-- Behind a queue that passes reading ends well, or it fails behind the queue. -/
theorem parse_behind (hcs : ∀ c ∈ cs, Passes checkColors c) (tail : List Int) :
    (∃ ds, parse checkColors (encodeAll cs ++ tail) = .ok ds) ∨
      ∃ later f, (encodeAll cs).length ≤ later ∧
        FailsAt checkColors (encodeAll cs ++ tail) later f := by
  -- The rest of the stream begins with a queue of its own, as long as it can be.
  obtain ⟨ds, rest, rfl, hds, hrest⟩ := exists_cut checkColors (encodeAll cs).length tail
  have hall : ∀ c ∈ cs ++ ds, Passes checkColors c := List.forall_mem_append.mpr ⟨hcs, hds⟩
  have hlength : (encodeAll (cs ++ ds)).length = (encodeAll cs).length + (encodeAll ds).length := by
    rw [encodeAll_append, List.length_append]
  rw [← List.append_assoc, ← encodeAll_append]
  rcases hrest with rfl | ⟨f, hf⟩
  · left
    exact ⟨cs ++ ds, by rw [List.append_nil, parse_encodeAll hall]⟩
  · right
    exact ⟨_, f, Nat.le_add_right _ _, cs ++ ds, rest, rfl, hall, hlength, hf⟩

/-! ## Leaving the colours unchecked -/

/-- A queue is read with colours checked exactly if it is read without and its colours are legal. -/
theorem parse_true_eq_ok_iff :
    parse true s = .ok cs ↔ parse false s = .ok cs ∧ ∀ c ∈ cs, c.HasLegalColor := by
  have hfalse : ∀ c ∈ cs, Passes false c := fun c _ => passes_false c
  simp only [parse_eq_ok_iff, passes_true_iff]
  constructor
  · rintro ⟨hs, hcs⟩
    exact ⟨⟨hs, hfalse⟩, hcs⟩
  · rintro ⟨⟨hs, -⟩, hcs⟩
    exact ⟨hs, hcs⟩

/-- A front that is broken for another reason than its colour is broken without a check, too. -/
theorem Broken.unchecked (h : Broken checkColors position rest f)
    (hf : ∀ code, f ≠ .invalidColor code) : Broken false position rest f := by
  cases h with
  | opcode o rest hmove hpaint => exact .opcode o rest hmove hpaint
  | shortMove operands h => exact .shortMove operands h
  | shortPaint => exact .shortPaint
  | color code => exact absurd rfl (hf code)

/-- Reading fails in one of three ways: at the end, at an opcode or at a colour. -/
theorem FailsAt.fault_cases (h : FailsAt checkColors s position f) :
    f.EndsEarly ∨ (∃ opcode, f = .invalidCommand opcode position) ∨
      ∃ code, f = .invalidColor code := by
  obtain ⟨_, _, -, -, -, hbroken⟩ := h
  exact hbroken.fault_cases

/-- Without a check reading fails at the end or at an opcode. -/
theorem FailsAt.fault_cases_unchecked (h : FailsAt false s position f) :
    f.EndsEarly ∨ ∃ opcode, f = .invalidCommand opcode position := by
  rcases h.fault_cases with hearly | hopcode | ⟨code, rfl⟩
  · exact .inl hearly
  · exact .inr hopcode
  · obtain ⟨_, _, -, -, -, hbroken⟩ := h
    cases hbroken with
    | color code rest hcheck => exact absurd hcheck Bool.false_ne_true

/-- A failure that is not about a colour happens without a check, too. -/
theorem FailsAt.unchecked (h : FailsAt true s position f) (hf : ∀ code, f ≠ .invalidColor code) :
    FailsAt false s position f := by
  obtain ⟨cs, rest, hs, -, hposition, hbroken⟩ := h
  exact ⟨cs, rest, hs, fun c _ => passes_false c, hposition, hbroken.unchecked hf⟩

/-! ## An illegal colour -/

/-- A front that is broken by its colour is a paint of an illegal code. -/
theorem Broken.illegal_paint (h : Broken checkColors position rest (.invalidColor code)) :
    ¬ Color.IsLegal code ∧ ∃ tail, rest = (setColor code).encode ++ tail := by
  cases h with
  | color code tail hcheck hcode => exact ⟨hcode, tail, rfl⟩

/-- Behind commands with legal colours, an illegal code is the first one. -/
theorem firstIllegal?_append (hcs : ∀ c ∈ cs, c.HasLegalColor) (hcode : ¬ Color.IsLegal code)
    (ds : List Command) : firstIllegal? (cs ++ setColor code :: ds) = some code := by
  have hlegal : (cs.filterMap code?).find? (fun code => ¬ Color.IsLegal code) = none := by
    rw [List.find?_eq_none]
    intro n hn
    obtain ⟨c, hc, hcn⟩ := List.mem_filterMap.mp hn
    have hn' : Color.IsLegal n := by
      rcases c with p | n'
      · cases hcn
      · obtain rfl : n' = n := Option.some.inj hcn
        exact hcs _ hc
    simpa using hn'
  rw [firstIllegal?, List.filterMap_append, List.find?_append, hlegal, Option.none_or]
  simp [code?, hcode]

/-- Without a check the commands of a queue are read, and those behind it. -/
theorem commands_decode_false (cs : List Command) (tail : List Int) :
    ∃ ds, (decode false (encodeAll cs ++ tail)).commands = cs ++ ds := by
  rw [decode, decodeFrom_encodeAll_append fun c _ => passes_false c, Decoding.foldr_cons]
  exact ⟨_, rfl⟩

/-- What the check of colours finds is the first illegal code of the stream. Without the check
reading goes on behind it. -/
theorem FailsAt.illegal_color (h : FailsAt true s position (.invalidColor code)) :
    firstIllegal? (decode false s).commands = some code ∧ ReadsOn s position := by
  obtain ⟨cs, rest, rfl, hcs, rfl, hbroken⟩ := h
  obtain ⟨hcode, tail, rfl⟩ := hbroken.illegal_paint
  -- The queue in front and the paint of the illegal code are one queue for the late check.
  have hqueue : encodeAll cs ++ ((setColor code).encode ++ tail) =
      encodeAll (cs ++ [setColor code]) ++ tail := by simp
  have hlength : (encodeAll cs).length < (encodeAll (cs ++ [setColor code])).length := by
    simp [encode]
  rw [hqueue]
  constructor
  · obtain ⟨ds, hds⟩ := commands_decode_false (cs ++ [setColor code]) tail
    rw [hds, List.append_assoc]
    exact firstIllegal?_append (fun c hc => passes_true_iff.mp (hcs c hc)) hcode ds
  · rcases parse_behind (fun c (_ : c ∈ cs ++ [setColor code]) => passes_false c) tail with
      hok | ⟨later, f, hlater, hf⟩
    · exact .inl hok
    · exact .inr ⟨later, f, Nat.lt_of_lt_of_le hlength hlater, hf, hf.parse_eq,
        hf.fault_cases_unchecked⟩

/-- The early check fails without telling why for a long opcode, which the late one fails for in the
same way, or for a long colour. -/
theorem parse_true_overlongNumber (h : parse true s = .error .overlongNumber) :
    parse false s = .error .overlongNumber ∨
      ∃ position code, ¬ IsWritable code ∧ FailsAt true s position (.invalidColor code) := by
  obtain ⟨position, f, hfails, hraise⟩ := exists_failsAt_of_error h
  -- Only the failure at a colour is one that the late check does not share.
  rcases hfails.fault_cases with ⟨opcode, expected, received, rfl⟩ | ⟨opcode, rfl⟩ | ⟨code, rfl⟩
  · exact .inl (((hfails.unchecked nofun).parse_eq).trans (congrArg _ hraise))
  · exact .inl (((hfails.unchecked nofun).parse_eq).trans (congrArg _ hraise))
  · have hcode := mt Fault.isTellable_invalidColor.mpr (Fault.raise_eq_overlongNumber_iff.mp hraise)
    exact .inr ⟨position, code, hcode, hfails⟩

end Command

/-! ## Running a stream -/

namespace Machine

variable {m : Machine} {s : List Int}

/-- A stream ends well exactly if it is read and the display refuses nothing of it. -/
theorem outcome_runStream_eq_ok_iff (hm : m.InBounds) {checkColors : Bool} :
    (m.runStream checkColors s).outcome = .ok () ↔ ∃ cs, Command.parse checkColors s = .ok cs ∧
      ∀ c ∈ cs, (Item.command c).refusal? m.grid.width m.grid.height = none := by
  rw [runStream]
  cases hparse : Command.parse checkColors s with
  | ok cs => simp [outcome_runQueue_eq_ok_iff hm]
  | error f => simp

/-- A stream that ends well with colours checked ends well without, and does the same. -/
theorem runStream_false_of_true (h : (m.runStream true s).outcome = .ok ()) :
    m.runStream false s = m.runStream true s := by
  cases hparse : Command.parse true s with
  | ok cs =>
    obtain ⟨hfalse, -⟩ := Command.parse_true_eq_ok_iff.mp hparse
    rw [runStream, runStream, hparse, hfalse]
  | error f =>
    rw [runStream, hparse] at h
    cases h

/-- A stream that ends well without a check of colours ends well with it: the display has refused no
colour. -/
theorem outcome_runStream_true (hm : m.InBounds) (h : (m.runStream false s).outcome = .ok ()) :
    (m.runStream true s).outcome = .ok () := by
  obtain ⟨cs, hparse, hcs⟩ := (outcome_runStream_eq_ok_iff hm).mp h
  have hlegal : ∀ c ∈ cs, c.HasLegalColor :=
    fun c hc => Item.hasLegalColor_of_not_refused (hcs c hc)
  exact (outcome_runStream_eq_ok_iff hm).mpr
    ⟨cs, Command.parse_true_eq_ok_iff.mpr ⟨hparse, hlegal⟩, hcs⟩

/-- Whatever queue a new machine runs, its display keeps its size and legal codes. -/
theorem legalMatrix_runQueue_new (g : Grid) (cs : List Command) :
    Grid.LegalMatrix g.width g.height ((new g).runQueue cs).machine.grid.cells := by
  have hm := inBounds_new g
  have hwidth : ((new g).runQueue cs).machine.grid.width = g.width := width_run hm _
  have hheight : ((new g).runQueue cs).machine.grid.height = g.height := height_run hm _
  rw [← hwidth, ← hheight]
  exact Grid.legalMatrix_cells _

/-- What is executed of an action are commands with legal colours. -/
theorem hasLegalColor_of_mem_acceptedBy (hm : m.InBounds) {a : Action} {c : Command}
    (hc : c ∈ m.acceptedBy a) : c.HasLegalColor :=
  Item.hasLegalColor_of_not_refused (refusal?_of_mem_acceptedBy hm hc)

/-- A queue of what is executed of an action ends well and leaves what the action leaves. -/
theorem runQueue_acceptedBy (hm : m.InBounds) (a : Action) :
    m.runQueue (m.acceptedBy a) = ⟨(m.perform a).machine, .ok ()⟩ := by
  rw [runQueue_eq hm fun c hc => refusal?_of_mem_acceptedBy hm hc, machine_perform hm]

/-- **Checking colours early and checking them late agree, as far as failures are told.** The early
check reads the queues that the late one reads and whose colours are legal. Where it reports an
unknown opcode or an early end, the late one reports the same. Where it reports a colour, or does
not tell it because it is too long, this is the first illegal one, and the late check reads on, to
the end or to an unknown opcode or an early end further on; that opcode, too, is told only if it is
not too long. Executed on a grid, both succeed on the same streams and leave the same grid. Whatever
becomes of the stream, either way only commands with legal colours are executed, so the cells are
legal codes at every moment. -/
theorem deferred_colors_agree (s : List Int) :
    (∀ cs, Command.parse true s = .ok cs ↔
      Command.parse false s = .ok cs ∧ ∀ c ∈ cs, c.HasLegalColor) ∧
    (∀ f, Command.parse true s = .error (.fault f) →
      (f.EndsEarly ∨ ∃ opcode position, f = .invalidCommand opcode position) →
      Command.parse false s = .error (.fault f)) ∧
    (∀ code, Command.parse true s = .error (.fault (.invalidColor code)) →
      ∃ position, Command.FailsAt true s position (.invalidColor code) ∧
        Command.firstIllegal? (Command.decode false s).commands = some code ∧
        Command.ReadsOn s position) ∧
    (Command.parse true s = .error .overlongNumber →
      Command.parse false s = .error .overlongNumber ∨
        ∃ position code, ¬ IsWritable code ∧
          Command.FailsAt true s position (.invalidColor code) ∧
          Command.firstIllegal? (Command.decode false s).commands = some code ∧
          Command.ReadsOn s position) ∧
    ∀ g : Grid,
      let late := (new g).runStream false s
      ((g.process s).outcome = .ok () ↔ late.outcome = .ok ()) ∧
      ((g.process s).outcome = .ok () → (g.process s).grid = late.machine.grid) ∧
      ∀ checkColors,
        let executed := (new g).acceptedBy (.stream checkColors s)
        (∀ c ∈ executed, c.HasLegalColor) ∧
        (new g).runQueue executed = ⟨((new g).runStream checkColors s).machine, .ok ()⟩ ∧
        ∀ k, Grid.LegalMatrix g.width g.height
          ((new g).runQueue (executed.take k)).machine.grid.cells := by
  refine ⟨fun cs => Command.parse_true_eq_ok_iff, fun f h hf => ?_, fun code h => ?_, fun h => ?_,
    fun g => ?_⟩
  · obtain ⟨position, f', hfails, hraise⟩ := Command.exists_failsAt_of_error h
    obtain ⟨rfl, -⟩ := Fault.raise_eq_fault_iff.mp hraise
    have hcolor : ∀ code, f' ≠ .invalidColor code := by
      rcases hf with ⟨opcode, expected, received, rfl⟩ | ⟨opcode, position, rfl⟩
      · exact nofun
      · exact nofun
    rw [(hfails.unchecked hcolor).parse_eq, hraise]
  · obtain ⟨position, f', hfails, hraise⟩ := Command.exists_failsAt_of_error h
    obtain ⟨rfl, -⟩ := Fault.raise_eq_fault_iff.mp hraise
    exact ⟨position, hfails, hfails.illegal_color⟩
  · rcases Command.parse_true_overlongNumber h with hfalse | ⟨position, code, hcode, hfails⟩
    · exact .inl hfalse
    · exact .inr ⟨position, code, hcode, hfails, hfails.illegal_color⟩
  · have hm : (new g).InBounds := inBounds_new g
    -- A stream that succeeds with the early check runs the same without it, and one that succeeds
    -- without has no illegal colour.
    have hlate : ∀ (h : (g.process s).outcome = .ok ()),
        (new g).runStream false s = (new g).runStream true s := runStream_false_of_true
    refine ⟨⟨fun h => ?_, outcome_runStream_true hm⟩, fun h => ?_, fun checkColors => ?_⟩
    · rw [hlate h]
      exact h
    · rw [hlate h]
      rfl
    · exact ⟨fun c hc => hasLegalColor_of_mem_acceptedBy hm hc,
        runQueue_acceptedBy hm (.stream checkColors s),
        fun k => legalMatrix_runQueue_new g _⟩

/-- Behind an illegal colour, which the early check reports, stands an opcode that is too long for
the late one to report. -/
theorem deferred_unwritable_opcode :
    let s := [Command.paintOpcode, 5, leastUnwritable]
    Command.parse true s = .error (.fault (.invalidColor 5)) ∧
      Command.parse false s = .error .overlongNumber := by
  intro s
  have hcolor : Command.FailsAt true s 0 (.invalidColor 5) :=
    ⟨[], s, rfl, nofun, rfl, .color 5 [leastUnwritable] rfl (by decide)⟩
  obtain ⟨hmove, hpaint⟩ := Command.ne_opcode_of_not_isWritable not_isWritable_leastUnwritable
  have hopcode : Command.FailsAt false s 2 (.invalidCommand leastUnwritable 2) :=
    ⟨[.setColor 5], [leastUnwritable], rfl, fun c _ => Command.passes_false c, rfl,
      .opcode leastUnwritable [] hmove hpaint⟩
  have htold : (Fault.invalidColor 5).IsTellable := by decide
  have huntold : ¬ (Fault.invalidCommand leastUnwritable 2).IsTellable :=
    mt Fault.isTellable_invalidCommand.mp not_isWritable_leastUnwritable
  rw [hcolor.parse_eq, hopcode.parse_eq, Fault.raise_of_isTellable htold,
    Fault.raise_of_not_isTellable huntold]
  exact ⟨rfl, rfl⟩

/-- An illegal colour hides a later unknown opcode from the early check only. The late one executes
nothing then; where the colour is the only defect it has painted before it stops. -/
example :
    let g := Grid.fill 2 1 (by decide) (by decide) .red
    Command.parse true [2, 9, 7] = .error (.fault (.invalidColor 9)) ∧
      Command.parse false [2, 9, 7] = .error (.fault (.invalidCommand 7 2)) ∧
      (g.process [2, 3, 2, 9]).grid = g ∧
      ((new g).runStream false [2, 3, 2, 9]).machine.grid.cells = [[3, 1]] := by
  decide

end Machine

end Mosaic
