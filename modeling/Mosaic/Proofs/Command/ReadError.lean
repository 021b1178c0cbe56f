import Mosaic.Proofs.Command.WireFormat

/-!
# What a read error tells

A stream that ends too early can still become readable, and a stream with any other defect cannot:
no continuation mends it, and each leads to the same error. So `truncatedInput` marks exactly the
unreadable streams that are the beginning of a readable one (`parse_error_viability`).

The error of a stream that is not read names a place in it. What stands in front of the place is
read, and at the place stands an unknown opcode (`UnknownAt`), an opcode that the stream does not
leave enough operands (`EndsInside`), or a paint of an illegal colour (`PaintsIllegal`). A stream
can be taken apart in one such way at most, and each way raises its own error (`parse_error_place`).
The place is unique because decoding finds it: whatever queue is read in front of a broken front is
the queue that the decoder has gathered when it stops (`decode_of_broken`).

Neither kind nor place is told where the unknown opcode or the illegal colour has too many digits
for a message. Opcodes that are known are short, so an early end is always told.
-/

namespace Mosaic

/-- The fault is that a stream ends too early. -/
def Fault.EndsEarly (f : Fault) : Prop :=
  ∃ opcode expected received, f = .truncatedInput opcode expected received

namespace Command

/-- The stream can be read with colours checked. -/
def Accepted (s : List Int) : Prop := ∃ cs, parse true s = .ok cs

variable {checkColors : Bool} {s front front' rest rest' operands operands' : List Int}
  {opcode opcode' code code' n : Int} {position position' expected expected' received : Nat}
  {f f' : Fault} {e : Failure}

/-! ## What follows a broken front -/

/-- The reasons for a broken front. -/
theorem Broken.fault_cases (h : Broken checkColors position rest f) :
    f.EndsEarly ∨ (∃ opcode, f = .invalidCommand opcode position) ∨
      ∃ code, f = .invalidColor code := by
  cases h with
  | opcode o => exact .inr (.inl ⟨o, rfl⟩)
  | shortMove operands => exact .inl ⟨_, _, _, rfl⟩
  | shortPaint => exact .inl ⟨_, _, _, rfl⟩
  | color code => exact .inr (.inr ⟨code, rfl⟩)

/-- An early end can be told, because the opcode is a known one. -/
theorem Broken.isTellable_of_endsEarly (h : Broken checkColors position rest f)
    (hf : f.EndsEarly) : f.IsTellable := by
  obtain ⟨opcode, expected, received, rfl⟩ := hf
  cases h with
  | shortMove operands => exact Fault.isTellable_truncatedInput.mpr (by decide)
  | shortPaint => exact Fault.isTellable_truncatedInput.mpr (by decide)

/-- A front that is broken for another reason than its end stays broken, whatever follows. -/
theorem Broken.append (h : Broken checkColors position rest f) (hf : ¬ f.EndsEarly)
    (t : List Int) : Broken checkColors position (rest ++ t) f := by
  cases h with
  | opcode o rest hmove hpaint => exact .opcode o (rest ++ t) hmove hpaint
  | shortMove operands => exact absurd ⟨_, _, _, rfl⟩ hf
  | shortPaint => exact absurd ⟨_, _, _, rfl⟩ hf
  | color code rest hcheck hcode => exact .color code (rest ++ t) hcheck hcode

/-- A front that ends too early can be completed to a command that passes. -/
theorem Broken.exists_completion
    (h : Broken checkColors position rest (.truncatedInput opcode expected received)) :
    ∃ c t, Passes checkColors c ∧ rest ++ t = c.encode := by
  cases h with
  | shortMove operands h =>
    -- The missing operands can be any numbers for a move, and a legal colour for a paint.
    match operands, h with
    | [], _ => exact ⟨.moveCursor ⟨0, 0⟩, [0, 0], fun _ => trivial, rfl⟩
    | [x], _ => exact ⟨.moveCursor ⟨x, 0⟩, [0], fun _ => trivial, rfl⟩
  | shortPaint =>
    have hlegal : Color.IsLegal 1 := Color.isLegal_iff.mpr (.inl rfl)
    exact ⟨.setColor 1, [1], fun _ => hlegal, rfl⟩

/-- The known opcodes are short. -/
theorem ne_opcode_of_not_isWritable (h : ¬ IsWritable n) : n ≠ moveOpcode ∧ n ≠ paintOpcode :=
  ⟨fun hmove => h (hmove ▸ by decide), fun hpaint => h (hpaint ▸ by decide)⟩

/-- What cannot be told of a broken front has its number there, as an opcode or as a colour. -/
theorem Broken.exists_not_isWritable (h : Broken checkColors position rest f)
    (hf : ¬ f.IsTellable) : ∃ n tail, ¬ IsWritable n ∧
      (rest = n :: tail ∨ rest = paintOpcode :: n :: tail) := by
  cases h with
  | opcode o tail => exact ⟨o, tail, mt Fault.isTellable_invalidCommand.mpr hf, .inl rfl⟩
  | shortMove operands => exact absurd (Fault.isTellable_truncatedInput.mpr (by decide)) hf
  | shortPaint => exact absurd (Fault.isTellable_truncatedInput.mpr (by decide)) hf
  | color code tail => exact ⟨code, tail, mt Fault.isTellable_invalidColor.mpr hf, .inr rfl⟩

/-! ## A stream that is read, and a broken front -/

theorem parse_accepted_append (hfront : Accepted front) (h : Broken true front.length rest f) :
    parse true (front ++ rest) = .error f.raise := by
  obtain ⟨cs, hcs⟩ := hfront
  obtain ⟨rfl, hpass⟩ := parse_eq_ok_iff.mp hcs
  exact parse_of_broken hpass h

theorem exists_accepted_of_error (h : parse true s = .error e) :
    ∃ front rest f, s = front ++ rest ∧ Accepted front ∧ Broken true front.length rest f ∧
      f.raise = e := by
  obtain ⟨cs, rest, f, hs, hcs, hbroken, hraise⟩ := parse_eq_error_iff.mp h
  exact ⟨encodeAll cs, rest, f, hs, ⟨cs, parse_encodeAll hcs⟩, hbroken, hraise⟩

/-- The fault that is raised is the reason for the broken front. -/
theorem exists_accepted_of_fault (h : parse true s = .error (.fault f)) :
    f.IsTellable ∧
      ∃ front rest, s = front ++ rest ∧ Accepted front ∧ Broken true front.length rest f := by
  obtain ⟨front, rest, f', hs, hfront, hbroken, hraise⟩ := exists_accepted_of_error h
  obtain ⟨rfl, htellable⟩ := Fault.raise_eq_fault_iff.mp hraise
  exact ⟨htellable, front, rest, hs, hfront, hbroken⟩

/-- There is one place only where what is read ends and a broken front begins. -/
theorem accepted_unique (hfront : Accepted front) (h : Broken true front.length rest f)
    (hfront' : Accepted front') (h' : Broken true front'.length rest' f')
    (heq : front ++ rest = front' ++ rest') : front = front' ∧ rest = rest' := by
  obtain ⟨cs, hcs⟩ := hfront
  obtain ⟨cs', hcs'⟩ := hfront'
  obtain ⟨rfl, hpass⟩ := parse_eq_ok_iff.mp hcs
  obtain ⟨rfl, hpass'⟩ := parse_eq_ok_iff.mp hcs'
  -- Both cuts are what the decoder finds in one stream.
  have hdecode := decode_of_broken hpass h
  rw [heq, decode_of_broken hpass' h'] at hdecode
  obtain rfl : cs' = cs := congrArg Decoding.commands hdecode
  exact ⟨rfl, List.append_cancel_left heq⟩

/-! ## What follows a stream that is not read -/

theorem not_accepted_of_error (h : parse true s = .error e) : ¬ Accepted s := by
  rintro ⟨cs, hcs⟩
  rw [h] at hcs
  cases hcs

/-- An error that is not about the end of the stream stays, whatever follows. -/
theorem parse_append_of_error (h : parse true s = .error e)
    (he : ∀ f : Fault, f.EndsEarly → e ≠ .fault f) (t : List Int) :
    parse true (s ++ t) = .error e := by
  obtain ⟨front, rest, f, rfl, hfront, hbroken, rfl⟩ := exists_accepted_of_error h
  have hf : ¬ f.EndsEarly := fun hearly =>
    he f hearly (Fault.raise_of_isTellable (hbroken.isTellable_of_endsEarly hearly))
  rw [List.append_assoc]
  exact parse_accepted_append hfront (hbroken.append hf t)

/-- A stream that ends too early is the beginning of one that is read. -/
theorem exists_accepted_append
    (h : parse true s = .error (.fault (.truncatedInput opcode expected received))) :
    ∃ t, Accepted (s ++ t) := by
  obtain ⟨-, front, rest, rfl, ⟨cs, hcs⟩, hbroken⟩ := exists_accepted_of_fault h
  obtain ⟨rfl, hpass⟩ := parse_eq_ok_iff.mp hcs
  obtain ⟨c, t, hc, ht⟩ := hbroken.exists_completion
  refine ⟨t, cs ++ [c], parse_eq_ok_iff.mpr ⟨?_, ?_⟩⟩
  · rw [encodeAll_append, encodeAll_cons, encodeAll_nil, List.append_nil, List.append_assoc, ht]
  · exact List.forall_mem_append.mpr ⟨hpass, List.forall_mem_singleton.mpr hc⟩

/-- A stream that no continuation makes readable fails for another reason than its end. -/
theorem exists_error_of_not_viable (h : ∀ t, ¬ Accepted (s ++ t)) :
    ∃ e, parse true s = .error e ∧ ∀ f : Fault, f.EndsEarly → e ≠ .fault f := by
  match hparse : parse true s with
  | .ok cs =>
    refine absurd ⟨cs, ?_⟩ (h [])
    rwa [List.append_nil]
  | .error e =>
    refine ⟨e, rfl, ?_⟩
    rintro f ⟨opcode, expected, received, rfl⟩ rfl
    obtain ⟨t, ht⟩ := exists_accepted_append hparse
    exact h t ht

/-- Reading a stream fails for one of three reasons, or without one that can be told. -/
theorem parse_error_cases (h : parse true s = .error e) :
    (∃ opcode expected received, e = .fault (.truncatedInput opcode expected received)) ∨
      (∃ opcode position, e = .fault (.invalidCommand opcode position)) ∨
      (∃ code, e = .fault (.invalidColor code)) ∨ e = .overlongNumber := by
  obtain ⟨front, rest, f, -, -, hbroken, rfl⟩ := exists_accepted_of_error h
  by_cases hf : f.IsTellable
  · rw [Fault.raise_of_isTellable hf]
    rcases hbroken.fault_cases with ⟨opcode, expected, received, rfl⟩ | ⟨opcode, rfl⟩ | ⟨code, rfl⟩
    · exact .inl ⟨_, _, _, rfl⟩
    · exact .inr (.inl ⟨_, _, rfl⟩)
    · exact .inr (.inr (.inl ⟨_, rfl⟩))
  · exact .inr (.inr (.inr (Fault.raise_of_not_isTellable hf)))

/-- Reading fails without a reason exactly at an opcode or a painted colour that is too long. -/
theorem parse_eq_overlongNumber_iff : parse true s = .error .overlongNumber ↔
    ∃ front n rest, Accepted front ∧ ¬ IsWritable n ∧
      (s = front ++ n :: rest ∨ s = front ++ paintOpcode :: n :: rest) := by
  constructor
  · intro h
    obtain ⟨front, rest, f, rfl, hfront, hbroken, hraise⟩ := exists_accepted_of_error h
    obtain ⟨n, tail, hn, rfl | rfl⟩ :=
      hbroken.exists_not_isWritable (Fault.raise_eq_overlongNumber_iff.mp hraise)
    · exact ⟨front, n, tail, hfront, hn, .inl rfl⟩
    · exact ⟨front, n, tail, hfront, hn, .inr rfl⟩
  · rintro ⟨front, n, rest, hfront, hn, rfl | rfl⟩
    · -- The number stands for an opcode, which is unknown because the known ones are short.
      obtain ⟨hmove, hpaint⟩ := ne_opcode_of_not_isWritable hn
      rw [parse_accepted_append hfront (.opcode n rest hmove hpaint)]
      exact congrArg _ (Fault.raise_eq_overlongNumber_iff.mpr
        (mt Fault.isTellable_invalidCommand.mp hn))
    · -- The number stands for a colour, which is illegal because the legal codes are short.
      have hillegal : ¬ Color.IsLegal n := mt Color.isWritable_of_isLegal hn
      rw [parse_accepted_append hfront (.color n rest rfl hillegal)]
      exact congrArg _ (Fault.raise_eq_overlongNumber_iff.mpr
        (mt Fault.isTellable_invalidColor.mp hn))

/-- **The kind of a read error classifies the continuations of a stream, as far as it is told.** It
is about the end of the stream exactly if the stream is unreadable but begins a readable one. No
continuation is readable exactly if it is about an opcode or a colour, or if there is no kind at all
because the opcode or the colour is too long to be written. Then every continuation fails with this
error. -/
theorem parse_error_viability (s : List Int) :
    ((∃ opcode expected received,
        parse true s = .error (.fault (.truncatedInput opcode expected received))) ↔
      ¬ Accepted s ∧ ∃ t, Accepted (s ++ t)) ∧
    (((∃ opcode position, parse true s = .error (.fault (.invalidCommand opcode position))) ∨
        (∃ code, parse true s = .error (.fault (.invalidColor code))) ∨
        parse true s = .error .overlongNumber) ↔
      ∀ t, ¬ Accepted (s ++ t)) ∧
    (parse true s = .error .overlongNumber ↔
      ∃ front n rest, Accepted front ∧ ¬ IsWritable n ∧
        (s = front ++ n :: rest ∨ s = front ++ paintOpcode :: n :: rest)) ∧
    ((∀ t, ¬ Accepted (s ++ t)) →
      ∃ e, parse true s = .error e ∧ ∀ t, parse true (s ++ t) = .error e) := by
  -- An error of another kind stays in every continuation, so none of them is read.
  have hstays : ∀ e, parse true s = .error e → (∀ f : Fault, f.EndsEarly → e ≠ .fault f) →
      ∀ t, ¬ Accepted (s ++ t) := fun e h he t =>
    not_accepted_of_error (parse_append_of_error h he t)
  refine ⟨⟨?_, ?_⟩, ⟨?_, ?_⟩, parse_eq_overlongNumber_iff, ?_⟩
  · rintro ⟨opcode, expected, received, h⟩
    exact ⟨not_accepted_of_error h, exists_accepted_append h⟩
  · rintro ⟨hs, t, ht⟩
    match hparse : parse true s with
    | .ok cs => exact absurd ⟨cs, hparse⟩ hs
    | .error e =>
      by_contra hnone
      refine hstays e hparse ?_ t ht
      rintro f ⟨opcode, expected, received, rfl⟩ rfl
      exact hnone ⟨opcode, expected, received, rfl⟩
  · rintro (⟨opcode, position, h⟩ | ⟨code, h⟩ | h)
    · refine hstays _ h ?_
      rintro f ⟨_, _, _, rfl⟩ ⟨⟩
    · refine hstays _ h ?_
      rintro f ⟨_, _, _, rfl⟩ ⟨⟩
    · exact hstays _ h fun f _ => nofun
  · intro h
    obtain ⟨e, hparse, he⟩ := exists_error_of_not_viable h
    rcases parse_error_cases hparse with
      ⟨_, _, _, rfl⟩ | ⟨opcode, position, rfl⟩ | ⟨code, rfl⟩ | rfl
    · exact absurd rfl (he _ ⟨_, _, _, rfl⟩)
    · exact .inl ⟨opcode, position, hparse⟩
    · exact .inr (.inl ⟨code, hparse⟩)
    · exact .inr (.inr hparse)
  · intro h
    obtain ⟨e, hparse, he⟩ := exists_error_of_not_viable h
    exact ⟨e, hparse, parse_append_of_error hparse he⟩

/-- An unknown opcode that is too long to be written spoils every continuation, and is no kind of
error. -/
theorem parse_unwritable_opcode :
    (∀ t, ¬ Accepted ([leastUnwritable] ++ t)) ∧
      parse true [leastUnwritable] = .error .overlongNumber := by
  have h : parse true [leastUnwritable] = .error .overlongNumber :=
    parse_eq_overlongNumber_iff.mpr
      ⟨[], _, [], ⟨[], rfl⟩, not_isWritable_leastUnwritable, .inl rfl⟩
  exact ⟨fun t => not_accepted_of_error (parse_append_of_error h (fun f _ => nofun) t), h⟩

/-! ## The three kinds of places -/

/-- Behind integers that are read, an unknown opcode stands at this index. -/
structure UnknownAt (s : List Int) (position : Nat) (opcode : Int) : Prop where
  lt_length : position < s.length
  getElem?_eq : s[position]? = some opcode
  ne_move : opcode ≠ moveOpcode
  ne_paint : opcode ≠ paintOpcode
  accepted : Accepted (s.take position)

/-- The stream ends inside a command: behind `front`, which is read, stands an opcode that expects
so many operands, and behind that all there is are `operands`, fewer than expected. -/
structure EndsInside (s front : List Int) (opcode : Int) (expected : Nat) (operands : List Int) :
    Prop where
  eq_append : s = front ++ opcode :: operands
  accepted : Accepted front
  expects : opcode = moveOpcode ∧ expected = 2 ∨ opcode = paintOpcode ∧ expected = 1
  length_lt : operands.length < expected

/-- Behind `front`, which is read, the stream paints in an illegal colour. -/
structure PaintsIllegal (s front : List Int) (code : Int) (rest : List Int) : Prop where
  eq_append : s = front ++ paintOpcode :: code :: rest
  accepted : Accepted front
  not_legal : ¬ Color.IsLegal code

theorem UnknownAt.split (h : UnknownAt s position opcode) :
    s = s.take position ++ opcode :: s.drop (position + 1) := by
  obtain ⟨hlt, hget⟩ := List.getElem?_eq_some_iff.mp h.getElem?_eq
  rw [← hget, ← List.drop_eq_getElem_cons hlt, List.take_append_drop]

theorem UnknownAt.broken (h : UnknownAt s position opcode) :
    Broken true (s.take position).length (opcode :: s.drop (position + 1))
      (.invalidCommand opcode position) := by
  rw [List.length_take_of_le h.lt_length.le]
  exact .opcode opcode _ h.ne_move h.ne_paint

theorem UnknownAt.parse_eq (h : UnknownAt s position opcode) :
    parse true s = .error (Fault.invalidCommand opcode position).raise := by
  rw [h.split]
  exact parse_accepted_append h.accepted h.broken

/-- A stream has one unknown opcode only behind integers that are read. -/
theorem UnknownAt.unique (h : UnknownAt s position opcode) (h' : UnknownAt s position' opcode') :
    position = position' ∧ opcode = opcode' := by
  have heq := h.split.symm.trans h'.split
  obtain ⟨hfront, hrest⟩ := accepted_unique h.accepted h.broken h'.accepted h'.broken heq
  have hlength := congrArg List.length hfront
  rw [List.length_take_of_le h.lt_length.le, List.length_take_of_le h'.lt_length.le] at hlength
  exact ⟨hlength, (List.cons.inj hrest).1⟩

theorem EndsInside.broken (h : EndsInside s front opcode expected operands) :
    Broken true front.length (opcode :: operands)
      (.truncatedInput opcode expected operands.length) := by
  have hlength := h.length_lt
  rcases h.expects with ⟨rfl, rfl⟩ | ⟨rfl, rfl⟩
  · exact .shortMove operands hlength
  · obtain rfl : operands = [] := List.eq_nil_of_length_eq_zero (by omega)
    exact .shortPaint

theorem EndsInside.parse_eq (h : EndsInside s front opcode expected operands) :
    parse true s = .error (.fault (.truncatedInput opcode expected operands.length)) := by
  have htellable := h.broken.isTellable_of_endsEarly ⟨_, _, _, rfl⟩
  rw [h.eq_append, parse_accepted_append h.accepted h.broken, Fault.raise_of_isTellable htellable]

/-- A stream ends inside one command only. -/
theorem EndsInside.unique (h : EndsInside s front opcode expected operands)
    (h' : EndsInside s front' opcode' expected' operands') :
    front = front' ∧ operands = operands' := by
  have heq := h.eq_append.symm.trans h'.eq_append
  obtain ⟨hfront, hrest⟩ := accepted_unique h.accepted h.broken h'.accepted h'.broken heq
  exact ⟨hfront, (List.cons.inj hrest).2⟩

theorem PaintsIllegal.broken (h : PaintsIllegal s front code rest) :
    Broken true front.length (paintOpcode :: code :: rest) (.invalidColor code) :=
  .color code rest rfl h.not_legal

theorem PaintsIllegal.parse_eq (h : PaintsIllegal s front code rest) :
    parse true s = .error (Fault.invalidColor code).raise := by
  rw [h.eq_append]
  exact parse_accepted_append h.accepted h.broken

/-- A stream is not read because of one illegal paint only. -/
theorem PaintsIllegal.unique (h : PaintsIllegal s front code rest)
    (h' : PaintsIllegal s front' code' rest') : front = front' ∧ code = code' ∧ rest = rest' := by
  have heq := h.eq_append.symm.trans h'.eq_append
  obtain ⟨hfront, hrest⟩ := accepted_unique h.accepted h.broken h'.accepted h'.broken heq
  exact ⟨hfront, List.cons.inj (List.cons.inj hrest).2⟩

/-! ## The place of an error -/

/-- An unknown opcode is what a broken front of its kind begins with. -/
theorem unknownAt_of_broken (hfront : Accepted front)
    (h : Broken true front.length rest (.invalidCommand opcode position)) :
    UnknownAt (front ++ rest) position opcode := by
  cases h with
  | opcode o rest hmove hpaint =>
    refine ⟨?_, ?_, hmove, hpaint, ?_⟩
    · simp
    · simp
    · rwa [List.take_left]

/-- An illegal colour is what a broken front of its kind paints in. -/
theorem exists_paintsIllegal_of_broken (hfront : Accepted front)
    (h : Broken true front.length rest (.invalidColor code)) :
    ∃ tail, PaintsIllegal (front ++ rest) front code tail := by
  cases h with
  | color code rest _ hcode => exact ⟨rest, rfl, hfront, hcode⟩

/-- An unknown opcode is reported where it stands, if it can be written. -/
theorem parse_eq_invalidCommand_iff :
    parse true s = .error (.fault (.invalidCommand opcode position)) ↔
      UnknownAt s position opcode ∧ IsWritable opcode := by
  constructor
  · intro h
    obtain ⟨htellable, front, rest, rfl, hfront, hbroken⟩ := exists_accepted_of_fault h
    exact ⟨unknownAt_of_broken hfront hbroken, Fault.isTellable_invalidCommand.mp htellable⟩
  · rintro ⟨h, hwritable⟩
    rw [h.parse_eq, Fault.raise_of_isTellable (Fault.isTellable_invalidCommand.mpr hwritable)]

/-- A stream that is reported to end too early ends inside a command. -/
theorem endsInside_of_error
    (h : parse true s = .error (.fault (.truncatedInput opcode expected received))) :
    ∃ front operands, EndsInside s front opcode expected operands ∧ operands.length = received := by
  obtain ⟨-, front, rest, rfl, hfront, hbroken⟩ := exists_accepted_of_fault h
  cases hbroken with
  | shortMove operands hlength =>
    exact ⟨front, operands, ⟨rfl, hfront, .inl ⟨rfl, rfl⟩, hlength⟩, rfl⟩
  | shortPaint => exact ⟨front, [], ⟨rfl, hfront, .inr ⟨rfl, rfl⟩, Nat.zero_lt_one⟩, rfl⟩

/-- An illegal colour is reported where it is painted, if it can be written. -/
theorem parse_eq_invalidColor_iff : parse true s = .error (.fault (.invalidColor code)) ↔
    (∃ front rest, PaintsIllegal s front code rest) ∧ IsWritable code := by
  constructor
  · intro h
    obtain ⟨htellable, front, rest, rfl, hfront, hbroken⟩ := exists_accepted_of_fault h
    exact ⟨⟨front, exists_paintsIllegal_of_broken hfront hbroken⟩,
      Fault.isTellable_invalidColor.mp htellable⟩
  · rintro ⟨⟨front, rest, h⟩, hwritable⟩
    rw [h.parse_eq, Fault.raise_of_isTellable (Fault.isTellable_invalidColor.mpr hwritable)]

/-- Where no kind is told, an opcode or a colour that is too long stands at one of the places. -/
theorem parse_eq_overlongNumber_iff_place : parse true s = .error .overlongNumber ↔
    (∃ opcode position, UnknownAt s position opcode ∧ ¬ IsWritable opcode) ∨
      ∃ front code rest, PaintsIllegal s front code rest ∧ ¬ IsWritable code := by
  constructor
  · intro h
    obtain ⟨front, rest, f, rfl, hfront, hbroken, hraise⟩ := exists_accepted_of_error h
    have hf : ¬ f.IsTellable := Fault.raise_eq_overlongNumber_iff.mp hraise
    rcases hbroken.fault_cases with hearly | ⟨opcode, rfl⟩ | ⟨code, rfl⟩
    · exact absurd (hbroken.isTellable_of_endsEarly hearly) hf
    · exact .inl ⟨opcode, _, unknownAt_of_broken hfront hbroken,
        mt Fault.isTellable_invalidCommand.mpr hf⟩
    · obtain ⟨tail, hpaints⟩ := exists_paintsIllegal_of_broken hfront hbroken
      exact .inr ⟨front, code, tail, hpaints, mt Fault.isTellable_invalidColor.mpr hf⟩
  · rintro (⟨opcode, position, h, hopcode⟩ | ⟨front, code, rest, h, hcode⟩)
    · rw [h.parse_eq, Fault.raise_of_not_isTellable (mt Fault.isTellable_invalidCommand.mp hopcode)]
    · rw [h.parse_eq, Fault.raise_of_not_isTellable (mt Fault.isTellable_invalidColor.mp hcode)]

/-- **Every read error that is told points at its place.** An unknown opcode is reported exactly
with the index at which it stands behind integers that are read, and it stands at one such index
only. An early end is reported exactly where the stream ends inside a command, with the operands
that there are counted, and an illegal colour exactly where it is painted behind integers that are
read. Either way the stream can be taken apart so in one way only. What is not told is exactly an
opcode or a colour, at such a place, that is too long to be written. -/
theorem parse_error_place (s : List Int) :
    (∀ opcode position, parse true s = .error (.fault (.invalidCommand opcode position)) ↔
      UnknownAt s position opcode ∧ IsWritable opcode) ∧
    (∀ opcode position opcode' position', UnknownAt s position opcode →
      UnknownAt s position' opcode' → position = position' ∧ opcode = opcode') ∧
    (∀ opcode expected received,
      parse true s = .error (.fault (.truncatedInput opcode expected received)) →
        ∃! cut : List Int × List Int,
          EndsInside s cut.1 opcode expected cut.2 ∧ cut.2.length = received) ∧
    (∀ front opcode expected operands, EndsInside s front opcode expected operands →
      parse true s = .error (.fault (.truncatedInput opcode expected operands.length))) ∧
    (∀ code, parse true s = .error (.fault (.invalidColor code)) ↔
      (∃ front rest, PaintsIllegal s front code rest) ∧ IsWritable code) ∧
    (∀ front code rest front' code' rest', PaintsIllegal s front code rest →
      PaintsIllegal s front' code' rest' → front = front' ∧ code = code' ∧ rest = rest') ∧
    (parse true s = .error .overlongNumber ↔
      (∃ opcode position, UnknownAt s position opcode ∧ ¬ IsWritable opcode) ∨
        ∃ front code rest, PaintsIllegal s front code rest ∧ ¬ IsWritable code) := by
  refine ⟨fun opcode position => parse_eq_invalidCommand_iff,
    fun opcode position opcode' position' h h' => h.unique h', ?_,
    fun front opcode expected operands => EndsInside.parse_eq,
    fun code => parse_eq_invalidColor_iff,
    fun front code rest front' code' rest' h h' => h.unique h',
    parse_eq_overlongNumber_iff_place⟩
  intro opcode expected received h
  obtain ⟨front, operands, hends, hlength⟩ := endsInside_of_error h
  refine ⟨(front, operands), ⟨hends, hlength⟩, ?_⟩
  -- The cut is unique because what is read in front of it is.
  intro cut hcut
  exact Prod.ext_iff.mpr (hcut.1.unique hends)

/-- An illegal colour is painted that is too long to be written, and no error points at it. -/
theorem parse_unwritable_color :
    PaintsIllegal [paintOpcode, leastUnwritable] [] leastUnwritable [] ∧
      parse true [paintOpcode, leastUnwritable] = .error .overlongNumber := by
  have hpaints : PaintsIllegal [paintOpcode, leastUnwritable] [] leastUnwritable [] :=
    ⟨rfl, ⟨[], rfl⟩, mt Color.isWritable_of_isLegal not_isWritable_leastUnwritable⟩
  exact ⟨hpaints, parse_eq_overlongNumber_iff_place.mpr
    (.inr ⟨_, _, _, hpaints, not_isWritable_leastUnwritable⟩)⟩

/-- The operand of the first paint looks like an opcode, and the index counts it all the same. -/
example : parse true [2, 2, 5, 1] = .error (.fault (.invalidCommand 5 2)) := rfl

end Command

end Mosaic
