import Mathlib.Data.List.DropRight
import Mathlib.Data.List.TakeWhile
import Mosaic.Grammar

/-!
# The words of a text

`words` cuts a text at blanks and drops the empty pieces. A blank between two texts neither joins
words nor cuts them (`words_append_cons`), so texts put together with blanks hold the words of each
in turn (`tokens_intercalate`). What `words` finds is told by one equation, `spaced_iff`: the words
of a text are those that the text is spaced into, so a text is spaced into words in one way only.

A `Spacing` is the blanks around the words of a text. Words are spaced by every spacing with a gap
for each of them (`spaced_write`), and a text is its words with the blanks that it has around them
(`Spaced.exists_spacing`). So it does not matter which blanks keep words apart.

Trimming a text takes off the blanks around it (`padded_trim`), and what is left is what stood
between blanks, if it begins and ends with none (`trim_of_padded`).
-/

namespace Mosaic.Text

variable {c : Char} {s w front back : List Char} {ws gaps : List (List Char)}

/-! ## Cutting at blanks -/

/-- A blank ends a word, and the words on its two sides are those of the text. -/
theorem words_append_cons (s : List Char) (hc : isBlank c) (t : List Char) :
    words (s ++ c :: t) = words s ++ words t := by
  rw [words, List.splitOnP_append_cons s t hc, List.filter_append]
  rfl

/-- A blank at the front belongs to no word. -/
theorem words_cons_of_isBlank (hc : isBlank c) (s : List Char) : words (c :: s) = words s :=
  words_append_cons [] hc s

/-- A stretch without blanks at the front is a word if the text ends behind it or goes on with a
blank. -/
theorem words_append (hw : w ≠ []) (hnone : ∀ c ∈ w, ¬ isBlank c) (hs : ∀ c ∈ s.head?, isBlank c) :
    words (w ++ s) = w :: words s := by
  have hsplit : w.splitOnP isBlank = [w] :=
    List.splitOnP_eq_singleton fun c hc => Bool.eq_false_iff.mpr (hnone c hc)
  have hwhole : words w = [w] := by simp [words, hsplit, hw]
  cases s with
  | nil =>
    rw [List.append_nil, hwhole]
    rfl
  | cons b s =>
    have hb : isBlank b := hs b rfl
    rw [words_append_cons w hb, words_cons_of_isBlank hb, hwhole]
    rfl

/-- Every text is spaced into its words. -/
theorem spaced_words : (s : List Char) → Spaced s (words s)
  | [] => .nil
  | c :: s => by
    by_cases hc : isBlank c
    · rw [words_cons_of_isBlank hc]
      exact .blank hc (spaced_words s)
    · -- The text begins with a word, and what is behind the word is shorter.
      let w := (c :: s).takeWhile fun c => !isBlank c
      let rest := (c :: s).dropWhile fun c => !isBlank c
      have hsplit : w ++ rest = c :: s := List.takeWhile_append_dropWhile
      have hw : w ≠ [] := by simp [w, hc]
      have hnone : ∀ c ∈ w, ¬ isBlank c := fun c hmem => by
        simpa using List.mem_takeWhile_imp hmem
      have hrest : ∀ b ∈ rest.head?, isBlank b := fun b hb => by
        have hstop := List.head?_dropWhile_not (fun c => !isBlank c) (c :: s)
        rw [show ((c :: s).dropWhile fun c => !isBlank c).head? = some b from hb] at hstop
        simpa using hstop
      have hshorter : rest.length < (c :: s).length := by
        have hpos := List.length_pos_iff.mpr hw
        have hlen := congrArg List.length hsplit
        rw [List.length_append] at hlen
        omega
      rw [← hsplit, words_append hw hnone hrest]
      exact .word hw hnone hrest (spaced_words rest)
termination_by s => s.length
decreasing_by
  · exact Nat.lt_succ_self _
  · exact hshorter

/-- **A text is spaced into its words, and into no others.** -/
theorem spaced_iff : Spaced s ws ↔ words s = ws := by
  constructor
  · intro h
    induction h with
    | nil => rfl
    | blank hc _ ih => rwa [words_cons_of_isBlank hc]
    | word hw hnone hs _ ih => rw [words_append hw hnone hs, ih]
  · rintro rfl
    exact spaced_words s

/-- Words are not empty and hold no blank. -/
theorem Spaced.word_of_mem (h : Spaced s ws) (hw : w ∈ ws) : w ≠ [] ∧ ∀ c ∈ w, ¬ isBlank c := by
  induction h with
  | nil => cases hw
  | blank _ _ ih => exact ih hw
  | word hne hnone _ _ ih =>
    rcases List.mem_cons.mp hw with rfl | hlater
    · exact ⟨hne, hnone⟩
    · exact ih hlater

/-- A blank at the end belongs to no word. -/
theorem words_concat_of_isBlank (hc : isBlank c) (s : List Char) : words (s ++ [c]) = words s := by
  rw [words_append_cons s hc []]
  exact List.append_nil (words s)

/-- What is in lists put together comes from the divider or from one of them. -/
theorem mem_intercalate {α : Type} {a : α} {divider : List α} {ls : List (List α)}
    (h : a ∈ List.intercalate divider ls) : a ∈ divider ∨ ∃ l ∈ ls, a ∈ l := by
  match ls with
  | [] => cases h
  | [l] =>
    rw [List.intercalate_singleton] at h
    exact .inr ⟨l, List.mem_singleton_self l, h⟩
  | l :: next :: ls =>
    rw [List.intercalate_cons_cons, List.append_assoc, List.mem_append, List.mem_append] at h
    rcases h with hl | hdivider | hrest
    · exact .inr ⟨l, List.mem_cons_self, hl⟩
    · exact .inl hdivider
    · rcases mem_intercalate hrest with hdivider | ⟨later, hlater, ha⟩
      · exact .inl hdivider
      · exact .inr ⟨later, List.mem_cons_of_mem l hlater, ha⟩

/-- Texts put together with a space between them hold the words of each, in order. -/
theorem words_intercalate (ss : List (List Char)) :
    words ([' '].intercalate ss) = ss.flatMap words := by
  match ss with
  | [] => rfl
  | [s] => simp
  | s :: s' :: ss =>
    have hspace : isBlank ' ' := rfl
    rw [List.flatMap_cons, List.intercalate_cons_cons, List.append_assoc, List.singleton_append,
      words_append_cons s hspace, words_intercalate (s' :: ss)]

/-- A line of texts with a space between them holds the tokens of each, in order. -/
theorem tokens_intercalate (texts : List String) :
    tokens (" ".intercalate texts) = texts.flatMap tokens := by
  have hspace : (" " : String).toList = [' '] := rfl
  rw [tokens, String.toList_intercalate, hspace, words_intercalate, List.flatMap_map,
    List.map_flatMap]
  rfl

/-- The tokens of a line are the words that it is spaced into. -/
theorem tokens_eq {line : String} (h : Spaced line.toList ws) :
    tokens line = ws.map String.ofList := by
  rw [tokens, spaced_iff.mp h]

/-! ## The blanks around words -/

/-- The blanks around the words of a text: those in front, and a gap behind each word. Only the last
gap may be empty. -/
structure Spacing where
  front : List Char
  gaps : List (List Char)
  blank_front : ∀ c ∈ front, isBlank c
  blank_gap : ∀ gap ∈ gaps, ∀ c ∈ gap, isBlank c
  apart : ∀ gap ∈ gaps.dropLast, gap ≠ []

/-- Words with the gaps behind them. -/
def withGaps (ws gaps : List (List Char)) : List Char := (List.zipWith (· ++ ·) ws gaps).flatten

/-- Words with the blanks of a spacing around them. -/
def Spacing.write (sp : Spacing) (ws : List (List Char)) : List Char :=
  sp.front ++ withGaps ws sp.gaps

theorem withGaps_cons (w gap : List Char) (ws gaps : List (List Char)) :
    withGaps (w :: ws) (gap :: gaps) = w ++ (gap ++ withGaps ws gaps) := by
  simp [withGaps]

/-- A gap in front leaves the other gaps as they are. -/
theorem forall_mem_dropLast_cons {P : List Char → Prop} {gap : List Char} :
    (∀ g ∈ (gap :: gaps).dropLast, P g) ↔ (gaps ≠ [] → P gap) ∧ ∀ g ∈ gaps.dropLast, P g := by
  cases gaps with
  | nil => simp
  | cons g gaps => simp [List.dropLast_cons_cons]

/-- Blanks in front do not change the words. -/
theorem Spaced.append {b : List Char} (hb : ∀ c ∈ b, isBlank c) (h : Spaced s ws) :
    Spaced (b ++ s) ws := by
  induction b with
  | nil => exact h
  | cons c b ih =>
    obtain ⟨hc, hb⟩ := List.forall_mem_cons.mp hb
    exact .blank hc (ih hb)

/-- Words that are kept apart by gaps are the words of the text that they make up. -/
theorem spaced_withGaps (hlength : gaps.length = ws.length)
    (hblank : ∀ gap ∈ gaps, ∀ c ∈ gap, isBlank c) (hapart : ∀ gap ∈ gaps.dropLast, gap ≠ [])
    (hws : ∀ w ∈ ws, w ≠ [] ∧ ∀ c ∈ w, ¬ isBlank c) : Spaced (withGaps ws gaps) ws := by
  induction ws generalizing gaps with
  | nil => exact .nil
  | cons w ws ih =>
    cases gaps with
    | nil => cases hlength
    | cons gap gaps =>
      obtain ⟨hgap, hgaps⟩ := List.forall_mem_cons.mp hblank
      obtain ⟨⟨hw, hnone⟩, hws⟩ := List.forall_mem_cons.mp hws
      obtain ⟨hne, hapart⟩ := forall_mem_dropLast_cons.mp hapart
      -- A word ends where its gap begins; only the last gap may be empty, and the text ends there.
      have hrest := ih (Nat.succ.inj hlength) hgaps hapart hws
      rw [withGaps_cons]
      refine .word hw hnone (fun c hc => ?_) (hrest.append hgap)
      match gap, gaps with
      | d :: gap, _ =>
        obtain rfl : d = c := by simpa using hc
        exact hgap d List.mem_cons_self
      | [], g :: gaps => exact absurd rfl (hne (List.cons_ne_nil g gaps))
      | [], [] => simp [withGaps] at hc

/-- Words are spaced by every spacing with a gap for each of them. -/
theorem Spacing.spaced_write (sp : Spacing) (hlength : sp.gaps.length = ws.length)
    (hws : ∀ w ∈ ws, w ≠ [] ∧ ∀ c ∈ w, ¬ isBlank c) : Spaced (sp.write ws) ws :=
  (spaced_withGaps hlength sp.blank_gap sp.apart hws).append sp.blank_front

/-- A text has some blanks around its words. -/
theorem Spaced.exists_spacing (h : Spaced s ws) :
    ∃ sp : Spacing, sp.gaps.length = ws.length ∧ sp.write ws = s := by
  induction h with
  | nil => exact ⟨⟨[], [], by simp, by simp, by simp⟩, rfl, rfl⟩
  | @blank c s ws hc _ ih =>
    obtain ⟨sp, hlength, rfl⟩ := ih
    exact ⟨{ sp with
      front := c :: sp.front
      blank_front := List.forall_mem_cons.mpr ⟨hc, sp.blank_front⟩ }, hlength, rfl⟩
  | @word w s ws hw hnone hs hspaced ih =>
    obtain ⟨sp, hlength, rfl⟩ := ih
    -- Where another word follows, it does not begin where this one ends.
    have hfront : sp.gaps ≠ [] → sp.front ≠ [] := by
      intro hgaps hfront
      obtain ⟨gap, gaps, hgaps⟩ := List.exists_cons_of_ne_nil hgaps
      match ws, hlength, hspaced with
      | [], hlength, _ => simp [hgaps] at hlength
      | v :: ws, _, hspaced =>
        obtain ⟨hv, hnone⟩ := hspaced.word_of_mem List.mem_cons_self
        obtain ⟨c, v, rfl⟩ := List.exists_cons_of_ne_nil hv
        exact hnone c List.mem_cons_self
          (hs c (by simp [Spacing.write, hfront, hgaps, withGaps_cons]))
    exact ⟨{
      front := []
      gaps := sp.front :: sp.gaps
      blank_front := by simp
      blank_gap := List.forall_mem_cons.mpr ⟨sp.blank_front, sp.blank_gap⟩
      apart := forall_mem_dropLast_cons.mpr ⟨hfront, sp.apart⟩ },
      congrArg (· + 1) hlength, withGaps_cons w sp.front ws sp.gaps⟩

/-! ## Trimming -/

/-- A text without blanks has none at its front. -/
theorem trimStart_of_no_blank (h : ∀ c ∈ w, ¬ isBlank c) : trimStart w = w := by
  cases w with
  | nil => rfl
  | cons c w => exact List.dropWhile_cons_of_neg (h c List.mem_cons_self)

/-- A text without blanks has none at its end. -/
theorem trimEnd_of_no_blank (h : ∀ c ∈ w, ¬ isBlank c) : trimEnd w = w := by
  have hreverse : w.reverse.dropWhile isBlank = w.reverse :=
    trimStart_of_no_blank (by simpa using h)
  rw [trimEnd, hreverse, List.reverse_reverse]

/-- Nothing is left of blanks. -/
theorem trimEnd_of_blank (h : ∀ c ∈ s, isBlank c) : trimEnd s = [] := by
  simpa [trimEnd] using h

/-- A text without blanks is its own trimmed form. -/
theorem trim_of_no_blank (h : ∀ c ∈ w, ¬ isBlank c) : trim w = w := by
  rw [trim, trimStart_of_no_blank h, trimEnd_of_no_blank h]

/-- The text is `w` with blanks around it. -/
def Padded (s w : List Char) : Prop :=
  ∃ front back : List Char, (∀ c ∈ front, isBlank c) ∧ (∀ c ∈ back, isBlank c) ∧
    s = front ++ w ++ back

/-- A text is what is left of it when its end is trimmed, and blanks behind. -/
theorem exists_trimEnd_append (s : List Char) :
    ∃ back : List Char, (∀ c ∈ back, isBlank c) ∧ trimEnd s ++ back = s :=
  ⟨s.rtakeWhile isBlank, fun _ hc => List.mem_rtakeWhile_imp hc, List.rdropWhile_append_rtakeWhile⟩

theorem trimEnd_isPrefix (s : List Char) : trimEnd s <+: s := List.rdropWhile_prefix isBlank s

/-- A text is its trimmed form with blanks around it. -/
theorem padded_trim (s : List Char) : Padded s (trim s) := by
  obtain ⟨back, hback, hsplit⟩ := exists_trimEnd_append (trimStart s)
  refine ⟨s.takeWhile isBlank, back, fun c hc => List.mem_takeWhile_imp hc, hback, ?_⟩
  rw [List.append_assoc, trim, hsplit]
  exact List.takeWhile_append_dropWhile.symm

/-- Blanks at the front are trimmed. -/
theorem trimStart_append (hfront : ∀ c ∈ front, isBlank c) (s : List Char) :
    trimStart (front ++ s) = trimStart s := List.dropWhile_append_of_pos hfront

/-- Blanks at the end are trimmed. -/
theorem trimEnd_append (s : List Char) (hback : ∀ c ∈ back, isBlank c) :
    trimEnd (s ++ back) = trimEnd s := by
  rw [trimEnd, List.reverse_append, List.dropWhile_append_of_pos (by simpa using hback)]
  rfl

/-- Trimming finds the word that stands between blanks. -/
theorem trim_of_padded (h : Padded s w) (hw : w ≠ []) (hnone : ∀ c ∈ w, ¬ isBlank c) :
    trim s = w := by
  obtain ⟨front, back, hfront, hback, rfl⟩ := h
  have hstart : trimStart (w ++ back) = w ++ back := by
    obtain ⟨c, rest, rfl⟩ := List.exists_cons_of_ne_nil hw
    exact List.dropWhile_cons_of_neg (hnone c List.mem_cons_self)
  rw [trim, List.append_assoc, trimStart_append hfront, hstart, trimEnd_append w hback,
    trimEnd_of_no_blank hnone]

end Mosaic.Text
