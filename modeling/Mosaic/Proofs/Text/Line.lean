import Mosaic.Session

/-!
# The lines of a text

`Cut` says what the lines of a text are: each ends with the first line feed that follows its start,
and the last one may end with the text. `cut_iff` finds exactly these lines. `FirstLines` tells the
first three without what ends them. A text that is written as a file is supplied line by line as it
is itself (`Supply.ofBytes_toUTF8`).
-/

namespace Mosaic

namespace Text

variable {l s : List Char} {ls : List (List Char)}

/-- A text cut after each line feed. A last line without a line feed counts, an empty one does not.
-/
inductive Cut : List Char → List (List Char) → Prop
  | nil : Cut [] []
  | last {l : List Char} : l ≠ [] → '\n' ∉ l → Cut l [l]
  | line {l s : List Char} {ls : List (List Char)} :
    '\n' ∉ l → Cut s ls → Cut (l ++ '\n' :: s) ((l ++ ['\n']) :: ls)

/-- A character that is no line feed stays with what follows it on its line. -/
theorem cutLines_cons {c : Char} (hc : c ≠ '\n') (s : List Char) :
    cutLines (c :: s) =
      match cutLines s with
      | [] => [[c]]
      | l :: ls => (c :: l) :: ls := by
  cases hcut : cutLines s with
  | nil =>
    rw [cutLines, hcut]
    exact hc
  | cons l ls =>
    rw [cutLines, hcut]
    exact hc

/-- A non-empty stretch without line feeds is a line. -/
theorem cutLines_of_no_break (hl : l ≠ []) (hbreak : '\n' ∉ l) : cutLines l = [l] := by
  induction l with
  | nil => exact absurd rfl hl
  | cons c l ih =>
    have hrest : '\n' ∉ l := List.not_mem_of_not_mem_cons hbreak
    rw [cutLines_cons (List.ne_of_not_mem_cons hbreak).symm]
    cases l with
    | nil => rfl
    | cons d l => rw [ih (List.cons_ne_nil d l) hrest]

/-- A line ends with its first line feed. -/
theorem cutLines_append (hbreak : '\n' ∉ l) (s : List Char) :
    cutLines (l ++ '\n' :: s) = (l ++ ['\n']) :: cutLines s := by
  induction l with
  | nil => rfl
  | cons c l ih =>
    have hrest : '\n' ∉ l := List.not_mem_of_not_mem_cons hbreak
    rw [List.cons_append, cutLines_cons (List.ne_of_not_mem_cons hbreak).symm, ih hrest]
    rfl

/-- Every text is cut into its lines. -/
theorem cut_cutLines (s : List Char) : Cut s (cutLines s) := by
  by_cases hbreak : '\n' ∈ s
  · obtain ⟨l, rest, hsplit, hl⟩ := List.eq_append_cons_of_mem hbreak
    have hshorter : rest.length < s.length := by
      rw [hsplit, List.length_append, List.length_cons]
      omega
    rw [hsplit, cutLines_append hl]
    exact .line hl (cut_cutLines rest)
  · cases s with
    | nil => exact .nil
    | cons c s =>
      rw [cutLines_of_no_break (List.cons_ne_nil c s) hbreak]
      exact .last (List.cons_ne_nil c s) hbreak
termination_by s.length

/-- **A text is cut into its lines, and into no others.** -/
theorem cut_iff : Cut s ls ↔ cutLines s = ls := by
  constructor
  · intro h
    induction h with
    | nil => rfl
    | last hl hbreak => exact cutLines_of_no_break hl hbreak
    | line hbreak _ ih => rw [cutLines_append hbreak, ih]
  · rintro rfl
    exact cut_cutLines s

/-- The lines of a text are what it is cut into once every line break is a line feed. -/
theorem lines_eq_iff {text : String} {lines : List String} :
    Text.lines text = lines ↔ Cut (unifyBreaks text.toList) (lines.map String.toList) := by
  rw [cut_iff, Text.lines]
  constructor
  · rintro rfl
    simp
  · intro h
    simp [h]

/-! ## Lines put together -/

/-- Lines as a text has them, a line feed behind each. -/
def unlines (lines : List String) : String := String.join (lines.map (· ++ "\n"))

theorem unlines_append (lines lines' : List String) :
    unlines (lines ++ lines') = unlines lines ++ unlines lines' := by
  rw [unlines, List.map_append, String.join_append, unlines, unlines]

/-- Lines put together are cut into the same lines again. -/
theorem cut_unlines {lines : List String} (h : ∀ l ∈ lines, '\n' ∉ l.toList) :
    Cut (unlines lines).toList (lines.map fun l => l.toList ++ ['\n']) := by
  induction lines with
  | nil => exact .nil
  | cons l lines ih =>
    obtain ⟨hl, hrest⟩ := List.forall_mem_cons.mp h
    have hbreak : ("\n" : String).toList = ['\n'] := rfl
    have htext : (unlines (l :: lines)).toList = l.toList ++ '\n' :: (unlines lines).toList := by
      simp [unlines, hbreak]
    rw [htext]
    exact .line hl (ih hrest)

/-- Lines without line feeds are told by the text that they make up. -/
theorem unlines_injective {lines lines' : List String} (h : ∀ l ∈ lines, '\n' ∉ l.toList)
    (h' : ∀ l ∈ lines', '\n' ∉ l.toList) (heq : unlines lines = unlines lines') :
    lines = lines' := by
  have hcut := cut_iff.mp (cut_unlines h)
  have hcut' := cut_iff.mp (cut_unlines h')
  rw [heq, hcut'] at hcut
  exact (List.map_inj_right fun l l' hll =>
    String.toList_injective (List.append_cancel_right hll)).mp hcut.symm

/-! ## The first three lines -/

/-- The first three lines of a text, each without the line break that ends it. The first two end
with one and the third ends with one or with the text; what comes behind it does not matter. -/
structure FirstLines (text first second third : String) : Prop where
  first_unbroken : '\n' ∉ first.toList
  second_unbroken : '\n' ∉ second.toList
  third_unbroken : '\n' ∉ third.toList
  exists_rest : ∃ rest : List Char, unifyBreaks text.toList =
    first.toList ++ '\n' :: (second.toList ++ '\n' :: (third.toList ++ rest)) ∧
    ∀ c ∈ rest.head?, c = '\n'

/-- Where nothing is a carriage return, the line breaks stay as they are. -/
theorem unifyBreaks_of_no_return (h : '\r' ∉ s) : unifyBreaks s = s := by
  induction s with
  | nil => rfl
  | cons c s ih =>
    have hc : c ≠ '\r' := (List.ne_of_not_mem_cons h).symm
    rw [unifyBreaks, ih (List.not_mem_of_not_mem_cons h)]
    · exact fun _ hreturn => absurd hreturn hc
    · exact hc

/-- Any three texts without line breaks are the first lines of some text. -/
theorem firstLines_of_unbroken {first second third : String}
    (hfirst : '\n' ∉ first.toList ∧ '\r' ∉ first.toList)
    (hsecond : '\n' ∉ second.toList ∧ '\r' ∉ second.toList)
    (hthird : '\n' ∉ third.toList ∧ '\r' ∉ third.toList) :
    FirstLines (first ++ "\n" ++ second ++ "\n" ++ third) first second third where
  first_unbroken := hfirst.1
  second_unbroken := hsecond.1
  third_unbroken := hthird.1
  exists_rest := by
    refine ⟨[], ?_, by simp⟩
    have hbreak : ("\n" : String).toList = ['\n'] := rfl
    rw [unifyBreaks_of_no_return]
    · simp [hbreak]
    · simp [hbreak, hfirst.2, hsecond.2, hthird.2]

/-- The first three lines are the first that are read. The third is read with its line break if it
has one; if it is empty and has none, there is nothing to be read. -/
theorem FirstLines.exists_lines {text first second third : String}
    (h : FirstLines text first second third) :
    ∃ rest, Text.lines text = (first ++ "\n") :: (second ++ "\n") :: rest ∧
      (rest.head?.getD "" = third ∨ rest.head?.getD "" = third ++ "\n") := by
  obtain ⟨rest, hunified, hrest⟩ := h.exists_rest
  have hlines : Text.lines text = (first ++ "\n") :: (second ++ "\n") ::
      (cutLines (third.toList ++ rest)).map String.ofList := by
    rw [Text.lines, hunified, cutLines_append h.first_unbroken, cutLines_append h.second_unbroken]
    simp
  refine ⟨_, hlines, ?_⟩
  -- The text ends with the third line, or a line feed ends that line.
  cases rest with
  | nil =>
    left
    rw [List.append_nil]
    by_cases hempty : third.toList = []
    · obtain rfl : third = "" := String.toList_eq_nil_iff.mp hempty
      rfl
    · rw [cutLines_of_no_break hempty h.third_unbroken]
      simp
  | cons c rest =>
    obtain rfl : c = '\n' := hrest c rfl
    right
    rw [cutLines_append h.third_unbroken]
    simp

/-- A text that is written as UTF-8 is decoded as itself. -/
theorem decodeUtf8_toUTF8 (text : String) : decodeUtf8 text.toUTF8 = .ok text := by
  have hvalid : String.fromUTF8? text.toUTF8 = some text := by
    rw [String.fromUTF8?, String.toUTF8_eq_toByteArray, dif_pos text.isValidUTF8]
    rfl
  rw [decodeUtf8, hvalid]

end Text

/-- A file that a text was written to supplies the lines of the text. -/
theorem Supply.ofBytes_toUTF8 (text : String) : ofBytes text.toUTF8 = ofText text := by
  rw [ofBytes, Text.decodeUtf8_toUTF8]

end Mosaic
