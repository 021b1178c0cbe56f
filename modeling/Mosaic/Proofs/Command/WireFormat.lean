import Mathlib.Data.Set.Image
import Mosaic.Command
import Mosaic.Proofs.Failure

/-!
# The wire format

Every stream is the wire form of a queue followed by a rest that is empty or `Broken`: its front is
no command, for one of four reasons. `parse_eq_ok_iff` and `parse_eq_error_iff` say that reading a
stream finds exactly this cut, with the queue on an empty rest and the reason otherwise.

So a queue and its wire form determine each other. Reading undoes writing, also where an operand
looks like an opcode, and whatever is read was written: the streams that can be read are the wire
forms of all queues, or, with colours checked, those of the queues with legal colours
(`parse_inverts_encodeAll`).

A stream that is read ends where a command ends, so whatever stands behind it is read as if it stood
alone (`parse_append`). Two queues in turn are read as one, and a defect of the second stream is the
defect of both. Only the index of an unknown opcode counts from the start, and moves on by what now
stands in front (`Fault.behind`).
-/

namespace Mosaic

/-- The fault of a stream with `n` integers put in front of it: an unknown opcode is that much
further on, and nothing else changes. -/
def Fault.behind (n : Nat) : Fault → Fault
  | invalidCommand opcode position => .invalidCommand opcode (position + n)
  | f => f

/-- The failure of a stream with `n` integers put in front of it. -/
def Failure.behind (n : Nat) : Failure → Failure
  | fault f => .fault (f.behind n)
  | e => e

/-- The index of an opcode does not matter for whether its fault can be told. -/
theorem Fault.raise_behind (f : Fault) (n : Nat) : (f.behind n).raise = f.raise.behind n := by
  have htellable : (f.behind n).IsTellable ↔ f.IsTellable := by cases f <;> exact Iff.rfl
  by_cases hf : f.IsTellable
  · rw [raise_of_isTellable hf, raise_of_isTellable (htellable.mpr hf)]
    rfl
  · rw [raise_of_not_isTellable hf, raise_of_not_isTellable (mt htellable.mp hf)]
    rfl

namespace Command

/-- The reader lets the command through: its colour counts only if colours are checked. -/
def Passes (checkColors : Bool) (c : Command) : Prop := checkColors = true → c.HasLegalColor

/-- Why the front of a stream, whose first integer has index `position`, is no command. -/
inductive Broken (checkColors : Bool) (position : Nat) : List Int → Fault → Prop
  /-- The first integer is no opcode. -/
  | opcode (o : Int) (rest : List Int) (hmove : o ≠ moveOpcode) (hpaint : o ≠ paintOpcode) :
      Broken checkColors position (o :: rest) (.invalidCommand o position)
  /-- The stream ends inside a move. -/
  | shortMove (operands : List Int) (h : operands.length < 2) :
      Broken checkColors position (moveOpcode :: operands)
        (.truncatedInput moveOpcode 2 operands.length)
  /-- The stream ends inside a paint. -/
  | shortPaint : Broken checkColors position [paintOpcode] (.truncatedInput paintOpcode 1 0)
  /-- A checked colour is illegal. -/
  | color (code : Int) (rest : List Int) (hcheck : checkColors = true)
      (hcode : ¬ Color.IsLegal code) :
      Broken checkColors position (paintOpcode :: code :: rest) (.invalidColor code)

variable {checkColors : Bool} {position : Nat} {s rest : List Int} {c : Command}
  {cs : List Command} {f : Fault} {e : Failure}

/-! ## Wire forms -/

@[simp] theorem encodeAll_nil : encodeAll [] = [] := rfl

@[simp] theorem encodeAll_cons (c : Command) (cs : List Command) :
    encodeAll (c :: cs) = c.encode ++ encodeAll cs := rfl

@[simp] theorem encodeAll_append (cs ds : List Command) :
    encodeAll (cs ++ ds) = encodeAll cs ++ encodeAll ds := List.flatMap_append

theorem length_encode_pos (c : Command) : 0 < c.encode.length := by
  cases c <;> simp [encode]

/-! ## Reading one record -/

/-- What an opcode of a paint and a colour code are read as, whatever follows them. -/
theorem decodeFrom_paint (code : Int) (s : List Int) :
    decodeFrom checkColors position (paintOpcode :: code :: s) =
      if checkColors && !(Color.ofCode? code).isSome then .stop (.invalidColor code)
      else (decodeFrom checkColors (position + 2) s).cons (.setColor code) := by
  -- The definition looks for the operands of a move first, so it is split at the third integer.
  cases s <;> simp [decodeFrom, moveOpcode, paintOpcode]

/-- A command that passes is read, and reading goes on behind it. -/
theorem decodeFrom_encode_append (hc : c.Passes checkColors) :
    decodeFrom checkColors position (c.encode ++ s) =
      (decodeFrom checkColors (position + c.encode.length) s).cons c := by
  cases c with
  | moveCursor p => simp [encode, decodeFrom]
  | setColor code =>
    have hlegal : checkColors = true → (Color.ofCode? code).isSome = true := hc
    have hpass : ¬ (checkColors && !(Color.ofCode? code).isSome) = true := by
      cases checkColors <;> simp_all
    exact (decodeFrom_paint code s).trans (if_neg hpass)

/-- At a broken front reading stops with the reason. -/
theorem decodeFrom_of_broken (h : Broken checkColors position s f) :
    decodeFrom checkColors position s = .stop f := by
  cases h with
  | opcode o rest hmove hpaint =>
    match rest with
    | [] => simp [decodeFrom, hmove, hpaint]
    | [x] => simp [decodeFrom, hmove, hpaint]
    | x :: y :: rest => simp [decodeFrom, hmove, hpaint]
  | shortMove operands h =>
    match operands, h with
    | [], _ => simp [decodeFrom]
    | [x], _ => simp [decodeFrom]
  | shortPaint => simp [decodeFrom, moveOpcode, paintOpcode]
  | color code rest hcheck hcode =>
    have hnone : (Color.ofCode? code).isSome = false := by simpa [Color.IsLegal] using hcode
    rw [decodeFrom_paint, if_pos (by rw [hcheck, hnone]; rfl)]

/-- A stream is empty, starts with a command that passes, or has a broken front. -/
theorem front_cases (checkColors : Bool) (position : Nat) (s : List Int) :
    s = [] ∨ (∃ c rest, Passes checkColors c ∧ s = c.encode ++ rest) ∨
      ∃ f, Broken checkColors position s f := by
  match s with
  | [] => exact .inl rfl
  | o :: rest =>
    right
    by_cases hmove : o = moveOpcode
    · subst hmove
      match rest with
      | x :: y :: rest => exact .inl ⟨.moveCursor ⟨x, y⟩, rest, fun _ => trivial, rfl⟩
      | [] => exact .inr ⟨_, .shortMove [] (by simp)⟩
      | [x] => exact .inr ⟨_, .shortMove [x] (by simp)⟩
    · by_cases hpaint : o = paintOpcode
      · subst hpaint
        match rest with
        | [] => exact .inr ⟨_, .shortPaint⟩
        | code :: rest =>
          by_cases hpass : Passes checkColors (.setColor code)
          · exact .inl ⟨.setColor code, rest, hpass, rfl⟩
          · obtain ⟨hcheck, hcode⟩ := Classical.not_imp.mp hpass
            exact .inr ⟨_, .color code rest hcheck hcode⟩
      · exact .inr ⟨_, .opcode o rest hmove hpaint⟩

/-- A broken front of numbers that can be written can be told. -/
theorem Broken.isTellable (h : Broken checkColors position rest f)
    (hrest : ∀ n ∈ rest, IsWritable n) : f.IsTellable := by
  cases h with
  | opcode o rest => exact Fault.isTellable_invalidCommand.mpr (hrest o List.mem_cons_self)
  | shortMove operands => exact Fault.isTellable_truncatedInput.mpr (by decide)
  | shortPaint => exact Fault.isTellable_truncatedInput.mpr (by decide)
  | color code rest => exact Fault.isTellable_invalidColor.mpr (hrest code (by simp))

/-! ## Reading a stream -/

/-- Commands put in front of a decoding one by one stand in front of its commands. -/
theorem Decoding.foldr_cons (cs : List Command) (d : Decoding) :
    cs.foldr Decoding.cons d = ⟨cs ++ d.commands, d.fault⟩ := by
  induction cs with
  | nil => rfl
  | cons c cs ih => rw [List.foldr_cons, ih]; rfl

/-- A queue that passes is read as it stands, and reading goes on behind it. -/
theorem decodeFrom_encodeAll_append (hcs : ∀ c ∈ cs, Passes checkColors c) :
    decodeFrom checkColors position (encodeAll cs ++ s) =
      cs.foldr Decoding.cons (decodeFrom checkColors (position + (encodeAll cs).length) s) := by
  induction cs generalizing position with
  | nil => rfl
  | cons c cs ih =>
    rw [encodeAll_cons, List.append_assoc, decodeFrom_encode_append (hcs c List.mem_cons_self),
      ih fun d hd => hcs d (List.mem_cons_of_mem c hd), List.length_append, Nat.add_assoc,
      List.foldr_cons]

/-- Every stream is a queue that passes, followed by nothing or by a broken front. -/
theorem exists_cut (checkColors : Bool) (position : Nat) (s : List Int) :
    ∃ cs rest, s = encodeAll cs ++ rest ∧ (∀ c ∈ cs, Passes checkColors c) ∧
      (rest = [] ∨ ∃ f, Broken checkColors (position + (encodeAll cs).length) rest f) := by
  -- Each record that is taken off the front makes the stream shorter.
  rcases front_cases checkColors position s with hnil | ⟨c, tail, hc, hs⟩ | ⟨f, hf⟩
  · exact ⟨[], s, rfl, by simp, .inl hnil⟩
  · have hlt : tail.length < s.length := by
      have := length_encode_pos c
      rw [hs, List.length_append]
      omega
    obtain ⟨cs, rest, htail, hcs, hrest⟩ := exists_cut checkColors (position + c.encode.length) tail
    refine ⟨c :: cs, rest, by rw [hs, htail, encodeAll_cons, List.append_assoc],
      List.forall_mem_cons.mpr ⟨hc, hcs⟩, ?_⟩
    rwa [encodeAll_cons, List.length_append, ← Nat.add_assoc]
  · exact ⟨[], s, rfl, by simp, .inr ⟨f, hf⟩⟩
termination_by s.length

theorem parse_encodeAll (hcs : ∀ c ∈ cs, Passes checkColors c) :
    parse checkColors (encodeAll cs) = .ok cs := by
  have h : decodeFrom checkColors 0 (encodeAll cs ++ []) = _ := decodeFrom_encodeAll_append hcs
  rw [List.append_nil] at h
  simp [parse, decode, h, Decoding.foldr_cons, decodeFrom, Decoding.done, Decoding.toExcept]

/-- In front of a broken front the queue is decoded, and the reason behind it. -/
theorem decode_of_broken (hcs : ∀ c ∈ cs, Passes checkColors c)
    (h : Broken checkColors (encodeAll cs).length rest f) :
    decode checkColors (encodeAll cs ++ rest) = ⟨cs, some f⟩ := by
  rw [decode, decodeFrom_encodeAll_append hcs, Nat.zero_add, decodeFrom_of_broken h,
    Decoding.foldr_cons]
  exact congrArg (Decoding.mk · (some f)) (List.append_nil cs)

theorem parse_of_broken (hcs : ∀ c ∈ cs, Passes checkColors c)
    (h : Broken checkColors (encodeAll cs).length rest f) :
    parse checkColors (encodeAll cs ++ rest) = .error f.raise := by
  rw [parse, decode_of_broken hcs h]
  rfl

/-- Reading a stream gives a queue exactly if the stream is its wire form and the queue passes. -/
theorem parse_eq_ok_iff :
    parse checkColors s = .ok cs ↔ encodeAll cs = s ∧ ∀ c ∈ cs, Passes checkColors c := by
  constructor
  · intro h
    obtain ⟨ds, rest, rfl, hds, rfl | ⟨f, hf⟩⟩ := exists_cut checkColors 0 s
    · rw [List.append_nil, parse_encodeAll hds] at h
      obtain rfl := Except.ok.inj h
      exact ⟨(List.append_nil _).symm, hds⟩
    · rw [Nat.zero_add] at hf
      rw [parse_of_broken hds hf] at h
      cases h
  · rintro ⟨rfl, hcs⟩
    exact parse_encodeAll hcs

/-- Reading a stream fails exactly if a queue that passes is followed by a broken front, whose fault
is raised. -/
theorem parse_eq_error_iff :
    parse checkColors s = .error e ↔ ∃ cs rest f, s = encodeAll cs ++ rest ∧
      (∀ c ∈ cs, Passes checkColors c) ∧ Broken checkColors (encodeAll cs).length rest f ∧
      f.raise = e := by
  constructor
  · intro h
    obtain ⟨cs, rest, rfl, hcs, rfl | ⟨f, hf⟩⟩ := exists_cut checkColors 0 s
    · rw [List.append_nil, parse_encodeAll hcs] at h
      cases h
    · rw [Nat.zero_add] at hf
      rw [parse_of_broken hcs hf] at h
      exact ⟨cs, rest, f, rfl, hcs, hf, Except.error.inj h⟩
  · rintro ⟨cs, rest, f, rfl, hcs, hf, rfl⟩
    exact parse_of_broken hcs hf

/-- A stream of numbers that can be written is refused for a fault that is told. -/
theorem exists_fault_of_error (h : parse checkColors s = .error e) (hs : ∀ n ∈ s, IsWritable n) :
    ∃ f, e = .fault f := by
  obtain ⟨cs, rest, f, rfl, -, hbroken, rfl⟩ := parse_eq_error_iff.mp h
  have htellable := hbroken.isTellable fun n hn => hs n (List.mem_append_right _ hn)
  exact ⟨f, Fault.raise_of_isTellable htellable⟩

/-! ## Reading inverts writing -/

/-- With colours unchecked every command passes. -/
theorem passes_false (c : Command) : Passes false c := nofun

/-- With colours checked the legal ones pass. -/
theorem passes_true_iff {c : Command} : Passes true c ↔ c.HasLegalColor :=
  ⟨fun h => h rfl, fun h _ => h⟩

/-- Two queues of one wire form are one queue. -/
theorem encodeAll_injective : Function.Injective encodeAll := by
  intro cs ds h
  have hcs : parse false (encodeAll cs) = .ok cs := parse_encodeAll fun c _ => passes_false c
  have hds : parse false (encodeAll ds) = .ok ds := parse_encodeAll fun d _ => passes_false d
  rw [h, hds] at hcs
  exact (Except.ok.inj hcs).symm

/-- The streams that are read are the wire forms of the queues that pass. -/
theorem setOf_parse_eq_ok (checkColors : Bool) :
    {s | ∃ cs, parse checkColors s = .ok cs} =
      encodeAll '' {cs | ∀ c ∈ cs, Passes checkColors c} := by
  ext s
  constructor
  · rintro ⟨cs, h⟩
    obtain ⟨hs, hcs⟩ := parse_eq_ok_iff.mp h
    exact ⟨cs, hcs, hs⟩
  · rintro ⟨cs, hcs, rfl⟩
    exact ⟨cs, parse_encodeAll hcs⟩

/-- **Reading inverts writing, and only that is read which was written.** Without a check of colours
the readable streams are all wire forms; with it they are those of the queues whose colours are
legal. -/
theorem parse_inverts_encodeAll :
    (∀ cs, parse false (encodeAll cs) = .ok cs) ∧
    (∀ cs, (∀ c ∈ cs, HasLegalColor c) → parse true (encodeAll cs) = .ok cs) ∧
    (∀ checkColors s cs, parse checkColors s = .ok cs →
      encodeAll cs = s ∧ (checkColors = true → ∀ c ∈ cs, HasLegalColor c)) ∧
    {s | ∃ cs, parse false s = .ok cs} = Set.range encodeAll ∧
    {s | ∃ cs, parse true s = .ok cs} = encodeAll '' {cs | ∀ c ∈ cs, HasLegalColor c} ∧
    Function.Injective encodeAll := by
  refine ⟨fun cs => parse_encodeAll fun c _ => passes_false c, fun cs hcs => ?_,
    fun checkColors s cs h => ?_, ?_, ?_, encodeAll_injective⟩
  · exact parse_encodeAll fun c hc => passes_true_iff.mpr (hcs c hc)
  · obtain ⟨hs, hcs⟩ := parse_eq_ok_iff.mp h
    exact ⟨hs, fun hcheck c hc => hcs c hc hcheck⟩
  · have hall : {cs : List Command | ∀ c ∈ cs, Passes false c} = Set.univ :=
      Set.eq_univ_of_forall fun cs c _ => passes_false c
    rw [setOf_parse_eq_ok, hall, Set.image_univ]
  · simp only [setOf_parse_eq_ok, passes_true_iff]

/-- Operands that look like opcodes do not shift the frame. -/
example : parse true [1, 2, 2, 2, 2, 1, 1, 2] = .ok [.moveCursor ⟨2, 2⟩, .setColor 2,
    .moveCursor ⟨1, 2⟩] := by decide

/-! ## A stream behind a stream -/

variable {s t : List Int} {ds : List Command}

/-- A broken front stays broken when more stands in front of it, with its opcode further on. -/
theorem Broken.behind (h : Broken checkColors position rest f) (n : Nat) :
    Broken checkColors (n + position) rest (f.behind n) := by
  cases h with
  | opcode o rest hmove hpaint =>
    rw [Fault.behind, Nat.add_comm position n]
    exact .opcode o rest hmove hpaint
  | shortMove operands h => exact .shortMove operands h
  | shortPaint => exact .shortPaint
  | color code rest hcheck hcode => exact .color code rest hcheck hcode

/-- Two streams that are read are read together, as their queues in turn. -/
theorem parse_append_ok (hs : parse checkColors s = .ok cs) (ht : parse checkColors t = .ok ds) :
    parse checkColors (s ++ t) = .ok (cs ++ ds) := by
  obtain ⟨rfl, hcs⟩ := parse_eq_ok_iff.mp hs
  obtain ⟨rfl, hds⟩ := parse_eq_ok_iff.mp ht
  have hall : ∀ c ∈ cs ++ ds, Passes checkColors c := List.forall_mem_append.mpr ⟨hcs, hds⟩
  exact parse_eq_ok_iff.mpr ⟨encodeAll_append cs ds, hall⟩

/-- Behind a stream that is read, a stream fails as it does alone. -/
theorem parse_append_error (hs : parse checkColors s = .ok cs)
    (ht : parse checkColors t = .error e) :
    parse checkColors (s ++ t) = .error (e.behind s.length) := by
  obtain ⟨rfl, hcs⟩ := parse_eq_ok_iff.mp hs
  obtain ⟨ds, rest, f, rfl, hds, hbroken, rfl⟩ := parse_eq_error_iff.mp ht
  have hall : ∀ c ∈ cs ++ ds, Passes checkColors c := List.forall_mem_append.mpr ⟨hcs, hds⟩
  -- The cut of the second stream is that of both, with the first queue in front.
  refine parse_eq_error_iff.mpr ⟨cs ++ ds, rest, f.behind (encodeAll cs).length, ?_, hall, ?_,
    f.raise_behind _⟩
  · rw [encodeAll_append, List.append_assoc]
  · rw [encodeAll_append, List.length_append]
    exact hbroken.behind (encodeAll cs).length

/-- **Reading is a homomorphism.** Behind a stream that is read as a queue, any stream is read as it
is alone: its queue follows the first one, or its error is the error of both. Of the attributes of
an error only the index of an unknown opcode changes, and it grows by the length of the first
stream. -/
theorem parse_append (hs : parse checkColors s = .ok cs) (t : List Int) :
    match parse checkColors t with
    | .ok ds => parse checkColors (s ++ t) = .ok (cs ++ ds)
    | .error (.fault (.invalidCommand opcode index)) =>
      parse checkColors (s ++ t) = .error (.fault (.invalidCommand opcode (index + s.length)))
    | .error e => parse checkColors (s ++ t) = .error e := by
  cases ht : parse checkColors t with
  | ok ds => exact parse_append_ok hs ht
  | error e =>
    have herror := parse_append_error hs ht
    cases e with
    | fault f =>
      -- Only the fault of an unknown opcode has an index that moves on.
      cases f with
      | invalidCommand opcode index => exact herror
      | _ => exact herror
    | _ => exact herror

/-- A queue, an unknown opcode and an unfinished move, each behind a stream of five integers. -/
theorem parse_append_after_five :
    let s := [1, 2, 2, 2, 3]
    parse true s = .ok [.moveCursor ⟨2, 2⟩, .setColor 3] ∧
      parse true (s ++ [2, 1]) = .ok [.moveCursor ⟨2, 2⟩, .setColor 3, .setColor 1] ∧
      parse true [2, 1, 7, 5] = .error (.fault (.invalidCommand 7 2)) ∧
      parse true (s ++ [2, 1, 7, 5]) = .error (.fault (.invalidCommand 7 7)) ∧
      parse true (s ++ [1, 0]) = .error (.fault (.truncatedInput 1 2 1)) := by
  intro s
  have hs : parse true s = .ok [.moveCursor ⟨2, 2⟩, .setColor 3] := rfl
  have hopcode : parse true [2, 1, 7, 5] = .error (.fault (.invalidCommand 7 2)) := rfl
  exact ⟨hs, parse_append hs [2, 1], hopcode, parse_append hs [2, 1, 7, 5], parse_append hs [1, 0]⟩

end Command

end Mosaic
