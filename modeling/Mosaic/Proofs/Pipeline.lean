import Mathlib.Data.List.Find
import Mosaic.Picture
import Mosaic.Proofs.Command.WireFormat
import Mosaic.Proofs.Machine.Effect
import Mosaic.Proofs.Picture
import Mosaic.Proofs.Session

/-!
# Which failure a picture ends with

Every stage of the way from lines to a picture checks what it is given, and most of these checks
cannot fail any more: a session that was read has a display, and a stream that was read as a queue
can only be stopped by a move off the display. The numbers of a session were read from numerals, so
none is too long for the message of a fault. `picture_outcome` puts the stages in order.
-/

namespace Mosaic

/-! ## What reading a session promises -/

namespace Session

variable {limit : Int} {supply : Supply} {s : Session}

/-- A session that was read has a display. -/
theorem pos_of_outcome (h : (converse limit supply).outcome = .ok s) :
    0 < s.width ∧ 0 < s.height := by
  obtain ⟨hsize, -⟩ := asks_of_outcome h
  obtain ⟨line, -, hread⟩ := bind_eq_ok_iff.mp hsize
  cases line with
  | none => cases hread
  | some line =>
    obtain ⟨-, hwidth, hheight, -⟩ := readSize_eq_ok_iff.mp hread
    exact ⟨hwidth, hheight⟩

/-- The display of a session that was read can be made, in its size and with the cursor on it. -/
theorem create_of_outcome (h : (converse limit supply).outcome = .ok s) :
    ∃ m, Machine.create s.width s.height s.color.code = .ok m ∧ m.InBounds ∧
      m.grid.width = s.width ∧ m.grid.height = s.height := by
  obtain ⟨hw, hh⟩ := pos_of_outcome h
  have hw' : (0 : Int) < s.width := Int.natCast_pos.mpr hw
  have hh' : (0 : Int) < s.height := Int.natCast_pos.mpr hh
  obtain ⟨g, hg, hwidth, hheight⟩ := Machine.exists_create_eq_ok hw' hh' s.color.isLegal_code
  exact ⟨Machine.new g, hg, Machine.inBounds_new g, hwidth, hheight⟩

/-- A session holds naturals only, so no coordinate of its stream is negative. -/
theorem wire_nonneg {n : Int} (hn : n ∈ s.wire) : 0 ≤ n := by
  obtain ⟨k, -, rfl⟩ := List.mem_map.mp hn
  exact Int.natCast_nonneg k

/-- A session that was read holds no number that is too long to be written. -/
theorem wire_isWritable (h : (converse limit supply).outcome = .ok s) {n : Int}
    (hn : n ∈ s.wire) : IsWritable n := by
  obtain ⟨k, hk, rfl⟩ := List.mem_map.mp hn
  obtain ⟨-, -, hstream⟩ := asks_of_outcome h
  obtain ⟨line, -, hread⟩ := bind_eq_ok_iff.mp hstream
  exact (Numeral.parseAll_eq_ok_iff.mp hread).isWritable hk

end Session

/-! ## What reading a queue promises -/

namespace Command

/-- The first move of a queue that goes past the right or the lower edge of a display. -/
def firstPast? (width height : Nat) (cs : List Command) : Option Position :=
  (cs.filterMap target?).find? fun p => (width : Int) ≤ p.x ∨ (height : Int) ≤ p.y

variable {cs : List Command} {p : Position}

/-- The coordinates of a move stand in the wire form of its queue. -/
theorem mem_encodeAll_of_target (hp : p ∈ cs.filterMap target?) :
    p.x ∈ encodeAll cs ∧ p.y ∈ encodeAll cs := by
  obtain ⟨c, hc, htarget⟩ := List.mem_filterMap.mp hp
  cases c with
  | moveCursor q =>
    obtain rfl : q = p := Option.some.inj htarget
    exact ⟨List.mem_flatMap.mpr ⟨_, hc, by simp [encode]⟩,
      List.mem_flatMap.mpr ⟨_, hc, by simp [encode]⟩⟩
  | setColor code => cases htarget

/-- A queue of naturals that can be written, with legal colours, is stopped only by a move past an
edge. -/
theorem outcome_runQueue_of_wire {m : Machine} (hm : m.InBounds)
    (hnat : ∀ n ∈ encodeAll cs, 0 ≤ n ∧ IsWritable n) (hcs : ∀ c ∈ cs, c.HasLegalColor) :
    (m.runQueue cs).outcome =
      match firstPast? m.grid.width m.grid.height cs with
      | some p => .error (.fault (.cursorOutOfBounds p m.grid.width m.grid.height))
      | none => .ok () := by
  -- A natural coordinate cannot be off the display on the left or at the top.
  have hedge : firstPast? m.grid.width m.grid.height cs =
      (cs.filterMap target?).find? fun p => ¬ p.Inside m.grid.width m.grid.height := by
    refine List.find?_congr fun p hp => decide_eq_decide.mpr ?_
    obtain ⟨hx, hy⟩ := mem_encodeAll_of_target hp
    have hx := (hnat _ hx).1
    have hy := (hnat _ hy).1
    unfold Position.Inside
    omega
  rw [Machine.runQueue, Machine.run_eq hm, Machine.ending_of_legal hcs, ← hedge]
  cases hpast : firstPast? m.grid.width m.grid.height cs with
  | none => rfl
  | some p =>
    obtain ⟨hx, hy⟩ := mem_encodeAll_of_target (List.mem_of_find?_eq_some hpast)
    have htold : (Fault.cursorOutOfBounds p m.grid.width m.grid.height).raise = .fault _ :=
      Fault.raise_of_isTellable
        (Fault.isTellable_cursorOutOfBounds.mpr ⟨(hnat _ hx).2, (hnat _ hy).2⟩)
    exact congrArg Except.error htold

end Command

/-! ## The stages in order -/

namespace Session

variable {s : Session} {m : Machine} {cs : List Command} {e : Failure}

/-- A stream that is no queue decides how painting ends. -/
theorem paint_of_parse_error (hm : Machine.create s.width s.height s.color.code = .ok m)
    (hparse : Command.parse true s.wire = .error e) : s.paint = .error e := by
  simp only [paint, hm, Machine.runStream, hparse]
  rfl

/-- A stream that is a queue is painted as the queue says. -/
theorem paint_of_parse_ok (hm : Machine.create s.width s.height s.color.code = .ok m)
    (hparse : Command.parse true s.wire = .ok cs) :
    s.paint = (m.runQueue cs).outcome.map fun () => (m.runQueue cs).machine.grid := by
  simp only [paint, hm, Machine.runStream, hparse]
  rfl

/-- A queue that was read from a session is stopped only by a move past an edge of its display. -/
theorem outcome_runQueue_of_parse {limit : Int} {supply : Supply}
    (hread : (converse limit supply).outcome = .ok s)
    (hm : Machine.create s.width s.height s.color.code = .ok m)
    (hparse : Command.parse true s.wire = .ok cs) :
    (m.runQueue cs).outcome =
      match Command.firstPast? s.width s.height cs with
      | some p => .error (.fault (.cursorOutOfBounds p s.width s.height))
      | none => .ok () := by
  obtain ⟨m', hm', hinside, hwidth, hheight⟩ := create_of_outcome hread
  obtain rfl : m' = m := Except.ok.inj (hm'.symm.trans hm)
  obtain ⟨hwire, hcs⟩ := Command.parse_eq_ok_iff.mp hparse
  have hnat : ∀ n ∈ Command.encodeAll cs, 0 ≤ n ∧ IsWritable n := by
    rw [hwire]
    exact fun n hn => ⟨wire_nonneg hn, wire_isWritable hread hn⟩
  have hrun := Command.outcome_runQueue_of_wire hinside hnat fun c hc => hcs c hc rfl
  rwa [hwidth, hheight] at hrun

/-- Painting a session that was read is stopped by faults only. -/
theorem exists_fault_of_paint {limit : Int} {supply : Supply}
    (hread : (converse limit supply).outcome = .ok s) (h : s.paint = .error e) :
    ∃ f, e = .fault f := by
  obtain ⟨m, hm, -⟩ := create_of_outcome hread
  cases hparse : Command.parse true s.wire with
  | error e' =>
    rw [paint_of_parse_error hm hparse] at h
    obtain rfl := Except.error.inj h
    exact Command.exists_fault_of_error hparse fun n hn => wire_isWritable hread hn
  | ok cs =>
    rw [paint_of_parse_ok hm hparse, map_eq_error_iff,
      outcome_runQueue_of_parse hread hm hparse] at h
    split at h
    · exact ⟨_, (Except.error.inj h).symm⟩
    · cases h

end Session

/-- **The first stage that fails decides, and only three can fail.** A session that is not read is
the failure. Otherwise there is a display, and a stream that is no queue is the failure, for the
defect behind the queue it begins with. Otherwise a move past an edge is the failure, the first one.
Otherwise there is a picture with a line for every row of the display and a code for every cell. -/
theorem picture_outcome (limit : Int) (lines : List String) :
    match Session.read limit lines with
    | .error e => picture limit lines = .error e
    | .ok s => ∃ m, Machine.create s.width s.height s.color.code = .ok m ∧
      match Command.parse true s.wire with
      | .error e =>
        picture limit lines = .error e ∧
          ∃ cs rest f, s.wire = Command.encodeAll cs ++ rest ∧ (∀ c ∈ cs, c.HasLegalColor) ∧
            Command.Broken true (Command.encodeAll cs).length rest f ∧ e = .fault f
      | .ok cs =>
        match Command.firstPast? s.width s.height cs with
        | some p =>
          (m.runQueue cs).outcome = .error (.fault (.cursorOutOfBounds p s.width s.height)) ∧
            picture limit lines = .error (.fault (.cursorOutOfBounds p s.width s.height))
        | none =>
          (m.runQueue cs).outcome = .ok () ∧
            picture limit lines = .ok (m.runQueue cs).machine.grid.render ∧
            Grid.IsPicture s.width s.height (m.runQueue cs).machine.grid.render := by
  cases hread : Session.read limit lines with
  | error e =>
    rw [picture, hread]
    rfl
  | ok s =>
    obtain ⟨m, hm, hinside, hwidth, hheight⟩ := Session.create_of_outcome hread
    refine ⟨m, hm, ?_⟩
    have hpicture : picture limit lines = s.paint >>= fun g => pure g.render := by
      rw [picture, hread]
      rfl
    cases hparse : Command.parse true s.wire with
    | error e =>
      obtain ⟨cs, rest, f, hwire, hcs, hbroken, rfl⟩ := Command.parse_eq_error_iff.mp hparse
      -- The defect is told since its numbers were read from the stream.
      have htellable : f.IsTellable := hbroken.isTellable fun n hn =>
        Session.wire_isWritable hread (hwire ▸ List.mem_append_right _ hn)
      refine ⟨?_, cs, rest, f, hwire, fun c hc => hcs c hc rfl, hbroken,
        Fault.raise_of_isTellable htellable⟩
      rw [hpicture, Session.paint_of_parse_error hm hparse]
      rfl
    | ok cs =>
      -- All that is left of the checks of the machine is the one for the two far edges.
      have hrun := Session.outcome_runQueue_of_parse hread hm hparse
      have hpaint := Session.paint_of_parse_ok hm hparse
      dsimp only
      split
      · rename_i p hpast
        simp only [hpast] at hrun
        refine ⟨hrun, ?_⟩
        rw [hpicture, hpaint, hrun]
        rfl
      · rename_i hpast
        simp only [hpast] at hrun
        refine ⟨hrun, ?_, ?_⟩
        · rw [hpicture, hpaint, hrun]
          rfl
        · rw [← hwidth, ← hheight, ← Machine.width_run hinside (cs.map .command),
            ← Machine.height_run hinside (cs.map .command)]
          exact Grid.isPicture_render _

end Mosaic
