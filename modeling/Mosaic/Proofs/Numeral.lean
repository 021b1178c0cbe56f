import Mathlib.Data.Nat.Digits.Lemmas
import Mosaic.Proofs.Failure
import Mosaic.Proofs.Text.Words

/-!
# Reading numerals

A word denotes a number or is refused, never both, and reading the word finds out which. So a line
of numbers is read exactly if it is written as them (`parseAll_eq_ok_iff`), and what is wrong with
any other line is wrong with its leftmost refused word (`parseAll_eq_error_iff`). What a word
denotes is the sum of its digits, each by its place, so no number is read that could not be written
(`Denotes.isWritable`).

Reading a line of numbers undoes writing one: a line is read as numbers exactly if it is numerals of
them with blanks around, and any spacing of the shortest numerals will do. A line is read part by
part wherever a blank cuts it (`parseAll_append_blank`). `parseAll_exact` puts this together for
lines, and `parse_exact` for single tokens, which may have blanks around them.
-/

namespace Mosaic.Numeral

variable {w : List Char} {ws : List (List Char)} {n : Nat} {ns : List Nat} {e : Failure}
  {c : Char} {line token : String}

/-! ## Words -/

theorem denotes_or_refused (w : List Char) : (∃ n, Denotes w n) ∨ ∃ e, Refused w e := by
  by_cases hnumeral : IsNumeral w
  · by_cases hlength : w.length ≤ maxDigits
    · exact .inl ⟨value w, hnumeral, hlength, rfl⟩
    · exact .inr ⟨_, .overlong hnumeral (Nat.lt_of_not_le hlength)⟩
  · exact .inr ⟨_, .notNumeral hnumeral⟩

/-- A word that denotes a number is read as this number. -/
theorem parse_of_denotes (hw : ∀ c ∈ w, ¬ Text.isBlank c) (h : Denotes w n) :
    parse (String.ofList w) = .ok n := by
  simp only [parse, String.toList_ofList, Text.trim_of_no_blank hw, if_pos h.isNumeral,
    if_pos h.length_le, h.value_eq]

/-- A refused word is not read, and its failure is the one that it is refused with. -/
theorem parse_of_refused (hw : ∀ c ∈ w, ¬ Text.isBlank c) (h : Refused w e) :
    parse (String.ofList w) = .error e := by
  simp only [parse, String.toList_ofList, Text.trim_of_no_blank hw]
  cases h with
  | notNumeral hnumeral => rw [if_neg hnumeral]
  | overlong hnumeral hlength => rw [if_pos hnumeral, if_neg (Nat.not_le_of_lt hlength)]

/-! ## The number that digits denote -/

/-- The number that digits denote: the sum of the digits, each times the power of ten of its place.
-/
def placeValue (w : List Char) : Nat :=
  Nat.ofDigits 10 (w.map fun c => c.toNat - '0'.toNat).reverse

/-- The value of a numeral is the number that its digits denote. -/
theorem value_eq_placeValue (w : List Char) : value w = placeValue w := by
  induction w with
  | nil => rfl
  | cons c w ih =>
    -- On either side the first digit counts by how many digits are behind it.
    have hvalue : value (c :: w) = 10 ^ w.length * (c.toNat - '0'.toNat) + value w := by
      rw [value, Nat.ofDigitChars_cons, Nat.ofDigitChars_eq_ofDigitChars_zero, Nat.mul_zero,
        Nat.zero_add]
      rfl
    have hplace : placeValue (c :: w) = placeValue w + 10 ^ w.length * (c.toNat - '0'.toNat) := by
      rw [placeValue, List.map_cons, Nat.ofDigits_reverse_cons, List.length_map]
      rfl
    rw [hvalue, hplace, ih, Nat.add_comm]

/-- What a word denotes is short enough to be written. -/
theorem Denotes.isWritable (h : Denotes w n) : IsWritable n := by
  have hdigit : ∀ d ∈ (w.map fun c => c.toNat - '0'.toNat).reverse, d < 10 := by
    intro d hd
    obtain ⟨c, hc, rfl⟩ := List.mem_map.mp (List.mem_reverse.mp hd)
    have hnine : c.toNat ≤ 57 := (Char.isDigit_iff_toNat.mp (h.isNumeral.2 c hc)).2
    show c.toNat - 48 < 10
    omega
  -- Digits by their places stay below the power of ten of the next place.
  have hlt : value w < 10 ^ w.length := by
    have hplaces := Nat.ofDigits_lt_base_pow_length (by decide) hdigit
    rw [value_eq_placeValue, placeValue]
    rwa [List.length_reverse, List.length_map] at hplaces
  rw [isWritable_iff, Int.natAbs_natCast, ← h.value_eq]
  exact Nat.lt_of_lt_of_le hlt (Nat.pow_le_pow_right (by decide) h.length_le)

/-! ## Lines -/

/-- Words that denote numbers are read as these, in order. -/
theorem mapM_parse_of_denotes (hws : ∀ w ∈ ws, ∀ c ∈ w, ¬ Text.isBlank c)
    (h : List.Forall₂ Denotes ws ns) : (ws.map String.ofList).mapM parse = .ok ns := by
  induction h with
  | nil => rfl
  | cons hw _ ih =>
    obtain ⟨hblank, hrest⟩ := List.forall_mem_cons.mp hws
    rw [List.map_cons, List.mapM_cons, parse_of_denotes hblank hw, ih hrest]
    rfl

/-- Behind words that denote numbers, a refused word decides the failure. -/
theorem mapM_parse_of_refused {before after : List (List Char)}
    (hws : ∀ v ∈ before ++ w :: after, ∀ c ∈ v, ¬ Text.isBlank c)
    (hbefore : ∀ b ∈ before, ∃ n, Denotes b n) (hw : Refused w e) :
    ((before ++ w :: after).map String.ofList).mapM parse = .error e := by
  induction before with
  | nil =>
    have hblank := hws w List.mem_cons_self
    rw [List.nil_append, List.map_cons, List.mapM_cons, parse_of_refused hblank hw]
    rfl
  | cons b before ih =>
    obtain ⟨hblank, hrest⟩ := List.forall_mem_cons.mp hws
    obtain ⟨⟨n, hn⟩, hdenote⟩ := List.forall_mem_cons.mp hbefore
    rw [List.cons_append, List.map_cons, List.mapM_cons, parse_of_denotes hblank hn,
      ih hrest hdenote]
    rfl

theorem parseAll_of_writes (h : Writes line ns) : parseAll line = .ok ns := by
  obtain ⟨ws, hspaced, hall⟩ := h
  rw [parseAll, Text.tokens_eq hspaced]
  exact mapM_parse_of_denotes (fun w hw => (hspaced.word_of_mem hw).2) hall

theorem parseAll_of_spoiled (h : Spoiled line e) : parseAll line = .error e := by
  obtain ⟨before, w, after, hspaced, hbefore, hw⟩ := h
  rw [parseAll, Text.tokens_eq hspaced]
  exact mapM_parse_of_refused (fun w hw => (hspaced.word_of_mem hw).2) hbefore hw

/-- Words all denote numbers, or there is a leftmost one that does not. -/
theorem forall₂_denotes_or_refused (ws : List (List Char)) :
    (∃ ns, List.Forall₂ Denotes ws ns) ∨ ∃ before w after e,
      ws = before ++ w :: after ∧ (∀ b ∈ before, ∃ n, Denotes b n) ∧ Refused w e := by
  induction ws with
  | nil => exact .inl ⟨[], .nil⟩
  | cons w ws ih =>
    -- If the first word denotes a number, the leftmost refused one is behind it.
    rcases denotes_or_refused w with ⟨n, hn⟩ | ⟨e, he⟩
    · rcases ih with ⟨ns, hns⟩ | ⟨before, v, after, e, rfl, hbefore, hv⟩
      · exact .inl ⟨n :: ns, .cons hn hns⟩
      · exact .inr ⟨w :: before, v, after, e, rfl,
          List.forall_mem_cons.mpr ⟨⟨n, hn⟩, hbefore⟩, hv⟩
    · exact .inr ⟨[], w, ws, e, rfl, by simp, he⟩

/-- Every line is a line of numbers or spoiled. -/
theorem writes_or_spoiled (line : String) : (∃ ns, Writes line ns) ∨ ∃ e, Spoiled line e := by
  have hspaced := Text.spaced_words line.toList
  rcases forall₂_denotes_or_refused (Text.words line.toList) with
    ⟨ns, hns⟩ | ⟨before, w, after, e, hws, hbefore, hw⟩
  · exact .inl ⟨ns, _, hspaced, hns⟩
  · exact .inr ⟨e, before, w, after, hws ▸ hspaced, hbefore, hw⟩

/-- **A line is read as numbers exactly if it is written as them.** -/
theorem parseAll_eq_ok_iff : parseAll line = .ok ns ↔ Writes line ns := by
  refine ⟨fun h => ?_, parseAll_of_writes⟩
  rcases writes_or_spoiled line with ⟨ms, hms⟩ | ⟨e, he⟩
  · rw [parseAll_of_writes hms] at h
    exact Except.ok.inj h ▸ hms
  · rw [parseAll_of_spoiled he] at h
    cases h

/-- **A line is not read exactly if it is spoiled, by its leftmost refused word.** -/
theorem parseAll_eq_error_iff : parseAll line = .error e ↔ Spoiled line e := by
  refine ⟨fun h => ?_, parseAll_of_spoiled⟩
  rcases writes_or_spoiled line with ⟨ns, hns⟩ | ⟨e', he'⟩
  · rw [parseAll_of_writes hns] at h
    cases h
  · rw [parseAll_of_spoiled he'] at h
    exact Except.error.inj h ▸ he'

/-- A line has as many words as the numbers that it is written as. -/
theorem Writes.counts (h : Writes line ns) : Counts line ns.length := by
  obtain ⟨ws, hspaced, hall⟩ := h
  exact ⟨ws, hspaced, hall.length_eq⟩

/-- The words of a line are as many as its tokens. -/
theorem counts_iff : Counts line n ↔ (Text.tokens line).length = n := by
  constructor
  · rintro ⟨ws, hspaced, rfl⟩
    rw [Text.tokens_eq hspaced, List.length_map]
  · rintro rfl
    refine ⟨_, Text.spaced_words line.toList, ?_⟩
    rw [Text.tokens, List.length_map]

/-- The numbers that a line is written as can be written. -/
theorem Writes.isWritable (h : Writes line ns) (hn : n ∈ ns) : IsWritable n := by
  obtain ⟨ws, -, hall⟩ := h
  induction hall with
  | nil => cases hn
  | cons hw _ ih =>
    rcases List.mem_cons.mp hn with rfl | hlater
    · exact hw.isWritable
    · exact ih hlater

/-! ## Written numbers -/

/-- The characters of a written number: its digits and its sign. -/
def isNumeric (c : Char) : Bool := c = '-' || c.isDigit

/-- A number is written with digits and a sign. -/
theorem isNumeric_of_mem {n : Int} (hc : c ∈ (toString n).toList) : isNumeric c := by
  have hdigit : ∀ k : Nat, c ∈ k.repr.toList → isNumeric c := fun k hk => by
    have hc : c.isDigit := Nat.isDigit_of_mem_toDigits (by decide) (by decide)
      (Nat.toList_repr ▸ hk)
    simp [isNumeric, hc]
  -- A negative number is a sign in front of the digits of its opposite.
  rw [Int.toString_eq_repr, Int.repr_eq_if] at hc
  split at hc
  · exact hdigit _ hc
  · rw [String.toList_append, List.mem_append] at hc
    rcases hc with hsign | hrest
    · obtain rfl : c = '-' := by simpa using hsign
      rfl
    · exact hdigit _ hrest

/-! ## Numerals with blanks around -/

/-- A digit is no blank. -/
theorem not_isBlank_of_isDigit (h : c.isDigit) : ¬ Text.isBlank c := by
  obtain ⟨hlow, hhigh⟩ : 48 ≤ c.toNat ∧ c.toNat ≤ 57 := by
    simpa [Char.isDigit, UInt32.le_iff_toNat_le] using h
  simp only [Text.isBlank, Bool.or_eq_true, Bool.and_eq_true, decide_eq_true_eq, beq_iff_eq]
  omega

/-- Numerals are words. -/
theorem word_of_denotes (h : Denotes w n) : w ≠ [] ∧ ∀ c ∈ w, ¬ Text.isBlank c :=
  ⟨h.isNumeral.1, fun c hc => not_isBlank_of_isDigit (h.isNumeral.2 c hc)⟩

theorem word_of_forall₂_denotes (h : List.Forall₂ Denotes ws ns) :
    ∀ w ∈ ws, w ≠ [] ∧ ∀ c ∈ w, ¬ Text.isBlank c := by
  induction h with
  | nil => nofun
  | cons hw _ ih => exact List.forall_mem_cons.mpr ⟨word_of_denotes hw, ih⟩

/-- A line of numbers is numerals of them with blanks around. -/
theorem writes_iff_exists_spacing : Writes line ns ↔
    ∃ (ws : List (List Char)) (sp : Text.Spacing), List.Forall₂ Denotes ws ns ∧
      sp.gaps.length = ws.length ∧ line.toList = sp.write ws := by
  constructor
  · rintro ⟨ws, hspaced, hall⟩
    obtain ⟨sp, hlength, hwrite⟩ := hspaced.exists_spacing
    exact ⟨ws, sp, hall, hlength, hwrite.symm⟩
  · rintro ⟨ws, sp, hall, hlength, hwrite⟩
    exact ⟨ws, hwrite ▸ sp.spaced_write hlength (word_of_forall₂_denotes hall), hall⟩

/-! ## Reading undoes writing -/

/-- The shortest numeral of a number denotes it, unless it is too long. -/
theorem denotes_toDigits (h : (Nat.toDigits 10 n).length ≤ maxDigits) :
    Denotes (Nat.toDigits 10 n) n where
  isNumeral := ⟨Nat.toDigits_ne_nil, fun _ hc =>
    Nat.isDigit_of_mem_toDigits (by decide) (by decide) hc⟩
  length_le := h
  value_eq := Nat.ofDigitChars_ten_toDigits

/-- Numbers that are written with any spacing are read back. -/
theorem parseAll_write_toDigits (h : ∀ n ∈ ns, (Nat.toDigits 10 n).length ≤ maxDigits)
    (sp : Text.Spacing) (hlength : sp.gaps.length = ns.length) :
    parseAll (String.ofList (sp.write (ns.map (Nat.toDigits 10)))) = .ok ns := by
  refine parseAll_of_writes (writes_iff_exists_spacing.mpr
    ⟨ns.map (Nat.toDigits 10), sp, ?_, by rw [List.length_map, hlength], String.toList_ofList⟩)
  exact List.forall₂_map_left_iff.mpr (List.forall₂_same.mpr fun n hn => denotes_toDigits (h n hn))

/-- **A blank cuts a line**: what is in front of it is read, then what is behind it. -/
theorem parseAll_append_blank (a b : String) (hc : Text.isBlank c) :
    parseAll (a ++ String.singleton c ++ b) = do
      return (← parseAll a) ++ (← parseAll b) := by
  have htokens : Text.tokens (a ++ String.singleton c ++ b) = Text.tokens a ++ Text.tokens b := by
    have htext : (a ++ String.singleton c ++ b).toList = a.toList ++ c :: b.toList := by simp
    rw [Text.tokens, htext, Text.words_append_cons _ hc, List.map_append, Text.tokens, Text.tokens]
  rw [parseAll, htokens, List.mapM_append, parseAll, parseAll]

/-! ## The leftmost refused word -/

/-- A word is refused as no numeral if not all its characters are digits, and else for its length.
-/
theorem refused_iff (hw : w ≠ []) : Refused w e ↔
    ((∃ c ∈ w, ¬ c.isDigit) ∧
      e = .fault (.malformedNumericInput (.token (String.ofList w)))) ∨
    ((∀ c ∈ w, c.isDigit) ∧ maxDigits < w.length ∧ e = .overlongNumeral w.length) := by
  constructor
  · rintro (hnumeral | ⟨hnumeral, hlength⟩)
    · refine .inl ⟨?_, rfl⟩
      by_contra hdigits
      exact hnumeral ⟨hw, by simpa using hdigits⟩
    · exact .inr ⟨hnumeral.2, hlength, rfl⟩
  · rintro (⟨⟨c, hc, hdigit⟩, rfl⟩ | ⟨hdigits, hlength, rfl⟩)
    · exact .notNumeral fun hnumeral => hdigit (hnumeral.2 c hc)
    · exact .overlong ⟨hw, hdigits⟩ hlength

/-- **Reading a line of numbers is exact.** It is read as numbers exactly if it is numerals that
denote them, in order, with blanks around; so numbers written in their shortest form with any
spacing are read back. A line that a blank cuts in two is read as its first part, then as its
second. A line is not read exactly if some word is refused behind words that are none; the leftmost
such word alone tells the failure: the word itself if not all its characters are digits, and its
length if it is a numeral that is too long. -/
theorem parseAll_exact :
    (∀ line ns, parseAll line = .ok ns ↔
      ∃ (ws : List (List Char)) (sp : Text.Spacing), List.Forall₂ Denotes ws ns ∧
        sp.gaps.length = ws.length ∧ line.toList = sp.write ws) ∧
    (∀ ns : List Nat, (∀ n ∈ ns, (Nat.toDigits 10 n).length ≤ maxDigits) →
      ∀ sp : Text.Spacing, sp.gaps.length = ns.length →
        parseAll (String.ofList (sp.write (ns.map (Nat.toDigits 10)))) = .ok ns) ∧
    (∀ (a b : String) (c : Char), Text.isBlank c →
      parseAll (a ++ String.singleton c ++ b) = do
        return (← parseAll a) ++ (← parseAll b)) ∧
    ∀ line e, parseAll line = .error e ↔
      ∃ before w after, Text.Spaced line.toList (before ++ w :: after) ∧
        (∀ b ∈ before, ∃ n, Denotes b n) ∧
        (((∃ c ∈ w, ¬ c.isDigit) ∧
            e = .fault (.malformedNumericInput (.token (String.ofList w)))) ∨
          ((∀ c ∈ w, c.isDigit) ∧ maxDigits < w.length ∧ e = .overlongNumeral w.length)) := by
  refine ⟨fun line ns => parseAll_eq_ok_iff.trans writes_iff_exists_spacing,
    fun ns h sp hlength => parseAll_write_toDigits h sp hlength,
    fun a b c hc => parseAll_append_blank a b hc, fun line e => parseAll_eq_error_iff.trans ?_⟩
  refine exists_congr fun before => exists_congr fun w => exists_congr fun after =>
    and_congr_right fun hspaced => and_congr_right fun _ => refused_iff ?_
  exact (hspaced.word_of_mem (List.mem_append_right _ List.mem_cons_self)).1

/-- Blanks of several scripts, and a zero in front. -/
example : parseAll "\u00A07\u2003\t042\n" = .ok [7, 42] := by decide

/-! ## Single tokens -/

/-- A numeral with blanks around it is read as its number, unless it is too long. -/
theorem parse_of_padded (h : Text.Padded token.toList w) (hw : IsNumeral w) :
    parse token = if w.length ≤ maxDigits then .ok (placeValue w)
      else .error (.overlongNumeral w.length) := by
  have htrim : Text.trim token.toList = w :=
    Text.trim_of_padded h hw.1 fun c hc => not_isBlank_of_isDigit (hw.2 c hc)
  rw [parse, htrim, ← value_eq_placeValue]
  exact if_pos hw

/-- Any other token is no number, and the failure shows it as it was, blanks included. -/
theorem parse_of_not_padded (h : ¬ ∃ w, Text.Padded token.toList w ∧ IsNumeral w) :
    parse token = .error (.fault (.malformedNumericInput (.token token))) :=
  if_neg fun hnumeral => h ⟨_, Text.padded_trim token.toList, hnumeral⟩

/-- A token is a numeral with blanks around it, short enough or too long, or it is none. -/
theorem parse_cases (token : String) :
    (∃ w, Text.Padded token.toList w ∧ IsNumeral w ∧ w.length ≤ maxDigits ∧
      parse token = .ok (placeValue w)) ∨
    (∃ w, Text.Padded token.toList w ∧ IsNumeral w ∧ maxDigits < w.length ∧
      parse token = .error (.overlongNumeral w.length)) ∨
    (¬ ∃ w, Text.Padded token.toList w ∧ IsNumeral w) ∧
      parse token = .error (.fault (.malformedNumericInput (.token token))) := by
  by_cases h : ∃ w, Text.Padded token.toList w ∧ IsNumeral w
  · obtain ⟨w, hpadded, hnumeral⟩ := h
    have hparse := parse_of_padded hpadded hnumeral
    by_cases hlength : w.length ≤ maxDigits
    · rw [if_pos hlength] at hparse
      exact .inl ⟨w, hpadded, hnumeral, hlength, hparse⟩
    · rw [if_neg hlength] at hparse
      exact .inr (.inl ⟨w, hpadded, hnumeral, Nat.lt_of_not_le hlength, hparse⟩)
  · exact .inr (.inr ⟨h, parse_of_not_padded h⟩)

theorem parse_eq_ok_iff : parse token = .ok n ↔
    ∃ w, Text.Padded token.toList w ∧ IsNumeral w ∧ w.length ≤ maxDigits ∧ placeValue w = n := by
  constructor
  · intro h
    rcases parse_cases token with ⟨w, hpadded, hnumeral, hlength, hok⟩ | ⟨_, -, -, -, herror⟩ |
      ⟨-, herror⟩
    · exact ⟨w, hpadded, hnumeral, hlength, Except.ok.inj (hok.symm.trans h)⟩
    · cases herror.symm.trans h
    · cases herror.symm.trans h
  · rintro ⟨w, hpadded, hnumeral, hlength, rfl⟩
    rw [parse_of_padded hpadded hnumeral, if_pos hlength]

/-- A token that is not read is a numeral that is too long, or no numeral at all. -/
theorem parse_eq_error_iff : parse token = .error e ↔
    (∃ w, Text.Padded token.toList w ∧ IsNumeral w ∧ maxDigits < w.length ∧
      e = .overlongNumeral w.length) ∨
    (¬ ∃ w, Text.Padded token.toList w ∧ IsNumeral w) ∧
      e = .fault (.malformedNumericInput (.token token)) := by
  constructor
  · intro h
    rcases parse_cases token with ⟨_, -, -, -, hok⟩ | ⟨w, hpadded, hnumeral, hlength, herror⟩ |
      ⟨hnone, herror⟩
    · cases hok.symm.trans h
    · exact .inl ⟨w, hpadded, hnumeral, hlength, Except.error.inj (h.symm.trans herror)⟩
    · exact .inr ⟨hnone, Except.error.inj (h.symm.trans herror)⟩
  · rintro (⟨w, hpadded, hnumeral, hlength, rfl⟩ | ⟨hnone, rfl⟩)
    · rw [parse_of_padded hpadded hnumeral, if_neg (Nat.not_le_of_lt hlength)]
    · exact parse_of_not_padded hnone

/-- The shortest numeral of a number is read back from between any blanks. -/
theorem parse_pad_toString {front back : String} (hfront : ∀ c ∈ front.toList, Text.isBlank c)
    (hback : ∀ c ∈ back.toList, Text.isBlank c) (hlength : (toString n).length ≤ maxDigits) :
    parse (front ++ toString n ++ back) = .ok n := by
  have hdigits : (toString n).toList = Nat.toDigits 10 n := by
    rw [Nat.toString_eq_repr, Nat.toList_repr]
  rw [← String.length_toList, hdigits] at hlength
  obtain ⟨hnumeral, -, hvalue⟩ := denotes_toDigits hlength
  refine parse_eq_ok_iff.mpr ⟨Nat.toDigits 10 n, ?_, hnumeral, hlength, ?_⟩
  · exact ⟨front.toList, back.toList, hfront, hback, by simp⟩
  · rw [← value_eq_placeValue, hvalue]

/-- **A token is read exactly if it is a padded numeral.** It is read as a number exactly if it is
blanks, a row of ASCII digits that is not too long and denotes this number by its places, and blanks
again. What refuses it is no fault exactly if the row of digits is too long, and a fault exactly if
there is no such row; the fault then shows the token as it was given, with its blanks. So the text
of every number that is not too long is read back, whatever blanks are around it. -/
theorem parse_exact :
    (∀ token n, parse token = .ok n ↔ ∃ w, Text.Padded token.toList w ∧
      (w ≠ [] ∧ ∀ c ∈ w, c.isDigit) ∧ w.length ≤ maxDigits ∧ placeValue w = n) ∧
    (∀ token e, (parse token = .error e ∧ e.fault? = none) ↔ ∃ w, Text.Padded token.toList w ∧
      (w ≠ [] ∧ ∀ c ∈ w, c.isDigit) ∧ maxDigits < w.length ∧ e = .overlongNumeral w.length) ∧
    (∀ token f, parse token = .error (.fault f) ↔
      (¬ ∃ w, Text.Padded token.toList w ∧ w ≠ [] ∧ ∀ c ∈ w, c.isDigit) ∧
        f = .malformedNumericInput (.token token)) ∧
    ∀ (n : Nat) (front back : String), (toString n).length ≤ maxDigits →
      (∀ c ∈ front.toList, Text.isBlank c) → (∀ c ∈ back.toList, Text.isBlank c) →
      parse (front ++ toString n ++ back) = .ok n := by
  refine ⟨fun token n => parse_eq_ok_iff, fun token e => ?_, fun token f => ?_,
    fun n front back hlength hfront hback => parse_pad_toString hfront hback hlength⟩
  · rw [parse_eq_error_iff]
    constructor
    · rintro ⟨hlong | ⟨-, rfl⟩, hfault⟩
      · exact hlong
      · cases hfault
    · intro hlong
      refine ⟨.inl hlong, ?_⟩
      obtain ⟨w, -, -, -, rfl⟩ := hlong
      rfl
  · rw [parse_eq_error_iff]
    constructor
    · rintro (⟨w, -, -, -, hfault⟩ | ⟨hnone, hfault⟩)
      · cases hfault
      · exact ⟨hnone, Failure.fault.inj hfault⟩
    · rintro ⟨hnone, rfl⟩
      exact .inr ⟨hnone, rfl⟩

/-- A number between an em space and a unit separator. -/
theorem parse_exact_unusual_blanks :
    (toString 42).length ≤ maxDigits ∧ (∀ c ∈ "\u2003".toList, Text.isBlank c) ∧
      (∀ c ∈ "\u001F".toList, Text.isBlank c) ∧
      parse ("\u2003" ++ toString 42 ++ "\u001F") = .ok 42 := by
  have hlength : (toString 42).length ≤ maxDigits := by decide
  have hfront : ∀ c ∈ "\u2003".toList, Text.isBlank c := List.forall_mem_singleton.mpr rfl
  have hback : ∀ c ∈ "\u001F".toList, Text.isBlank c := List.forall_mem_singleton.mpr rfl
  exact ⟨hlength, hfront, hback, parse_exact.2.2.2 42 "\u2003" "\u001F" hlength hfront hback⟩

/-- Blanks between digits are not trimmed, and digits of another script are none. -/
example : parse " 0 7 " = .error (.fault (.malformedNumericInput (.token " 0 7 "))) ∧
    parse "\u0667" = .error (.fault (.malformedNumericInput (.token "\u0667"))) := by decide

end Mosaic.Numeral
