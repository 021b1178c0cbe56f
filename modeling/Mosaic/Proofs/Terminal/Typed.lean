import Mosaic.Proofs.Terminal.Wrap

/-!
# Typed texts

Every character of a typed text takes one cell, so lengths are widths and a column holds as many
characters as it has cells. When such a text is wrapped, a line overruns its column by blanks at its
end only (`within_breakText`), and these are dropped. So its lines are not longer than the column,
and put together they are the text but for blanks between them (`laid_setLines`). This is what a
screen is sent for a message (`told_write_wrap`).
-/

namespace Mosaic.Terminal

open Text

variable {columns : Nat} {escapes : Bool} {pen : Pen} {c : Char} {s t w : List Char}
  {ws : List (List Char)}

/-- The text could be typed: it holds spaces and the visible characters of ASCII. -/
def Typed (s : List Char) : Prop := ∀ c ∈ s, ' ' ≤ c ∧ c ≤ '~'

instance (s : List Char) : Decidable (Typed s) := List.decidableBAll (fun c => ' ' ≤ c ∧ c ≤ '~') s

/-- A typed character has one cell and its own place. -/
theorem typed_char (hc : ' ' ≤ c ∧ c ≤ '~') :
    charWidth c = 1 ∧ c ≠ '\n' ∧ c ≠ '\t' ∧ ¬ isDropped c ∧ c ≠ joiner ∧ c ≠ colourSelector := by
  have hall : ∀ k : Fin 95, let c := Char.ofNat (32 + k)
      charWidth c = 1 ∧ c ≠ '\n' ∧ c ≠ '\t' ∧ ¬ isDropped c ∧ c ≠ joiner ∧ c ≠ colourSelector := by
    decide +kernel
  obtain ⟨hlow, hhigh⟩ : 32 ≤ c.toNat ∧ c.toNat ≤ 126 := by
    simpa [Char.le_def, UInt32.le_iff_toNat_le] using hc
  have hplace : 32 + (c.toNat - 32) = c.toNat := by omega
  have hchar := hall ⟨c.toNat - 32, by omega⟩
  rwa [hplace, Char.ofNat_toNat] at hchar

theorem Typed.smooth (h : Typed s) : Smooth s := by
  intro c hc
  obtain ⟨-, hbreak, htab, hdropped, hjoiner, -⟩ := typed_char (h c hc)
  exact ⟨hbreak, htab, hdropped, hjoiner⟩

theorem Typed.of_subset (h : Typed s) (hts : t ⊆ s) : Typed t := fun c hc => h c (hts hc)

/-- A text of characters with one cell takes as many cells as it has characters. -/
theorem width_eq_length (h : ∀ c ∈ s, charWidth c = 1 ∧ c ≠ colourSelector) :
    width s = s.length := by
  have hafter : ∀ s : List Char, (∀ c ∈ s, charWidth c = 1 ∧ c ≠ colourSelector) →
      ∀ last, widthAfter last s = s.length := by
    intro s h
    induction s with
    | nil => exact fun last => rfl
    | cons c s ih =>
      intro last
      obtain ⟨⟨hwidth, hselector⟩, hrest⟩ := List.forall_mem_cons.mp h
      rw [widthAfter_of_leads ⟨hselector, by rw [hwidth]; decide⟩, hwidth, ih hrest,
        List.length_cons, Nat.add_comm]
  exact hafter s h none

theorem Typed.width_eq (h : Typed s) : width s = s.length :=
  width_eq_length fun c hc =>
    have hchar := typed_char (h c hc)
    ⟨hchar.1, hchar.2.2.2.2.2⟩

/-- Each character of a typed text is a cluster. -/
theorem clusters_typed (h : Typed s) : clusters s = s.map fun c => ⟨[c], 1⟩ := by
  have hfound : ∀ s, Typed s → ∀ k : Clustering, k.tied = false →
      (s.foldl Clustering.add k).found = (s.map fun c => ⟨[c], 1⟩).reverse ++ k.found := by
    intro s h
    induction s with
    | nil => exact fun k _ => rfl
    | cons c s ih =>
      intro k hk
      obtain ⟨hc, hrest⟩ := List.forall_mem_cons.mp h
      obtain ⟨hwidth, -, -, -, hjoiner, hselector⟩ := typed_char hc
      have hadd : k.add c = k.start c := by
        unfold Clustering.add
        split
        · rfl
        · simp [hk, hjoiner, hselector, hwidth]
      rw [List.foldl_cons, hadd, ih hrest (k.start c) rfl]
      simp [Clustering.start, hjoiner, hselector, hwidth]
  rw [clusters, hfound s h {} rfl]
  simp

/-! ## Breaking -/

/-- Blanks at the end apart, a text with another behind it is not longer than both. -/
theorem length_trimEnd_append_le (s t : List Char) :
    (trimEnd (s ++ t)).length ≤ s.length + (trimEnd t).length := by
  obtain ⟨back, hback, hsplit⟩ := exists_trimEnd_append t
  have hlength : (trimEnd (s ++ trimEnd t)).length ≤ (s ++ trimEnd t).length :=
    (trimEnd_isPrefix _).length_le
  rw [← List.length_append, ← hsplit, ← List.append_assoc, trimEnd_append _ hback, hsplit]
  exact hlength

/-- Pieces of a typed word are typed and fit the column. -/
theorem typed_of_mem_chop (h : Typed w) (hcolumns : 0 < columns) {p : List Char}
    (hp : p ∈ chop columns 0 (clusters w)) : Typed p ∧ p.length ≤ columns := by
  have hjoined : joined (clusters w) = w := joined_clusters h.smooth.unjoined
  obtain ⟨b, bs, hchop, hflat, hfirst, hrest⟩ := exists_chop_eq columns 0 (clusters w)
  rw [Nat.zero_add] at hfirst
  rw [hchop] at hp
  obtain ⟨b', hb', rfl⟩ := List.mem_map.mp hp
  have hmem : ∀ g ∈ b', g ∈ clusters w := fun g hg =>
    hflat ▸ List.mem_flatten.mpr ⟨b', hb', hg⟩
  have htyped : Typed (joined b') := by
    refine h.of_subset fun c hc => ?_
    obtain ⟨g, hg, hc⟩ := List.mem_flatMap.mp hc
    exact hjoined ▸ List.mem_flatMap.mpr ⟨g, hmem g hg, hc⟩
  -- A cluster is one character in one cell.
  have hone : ∀ g ∈ b', g.text.length = g.width ∧ g.width = 1 := by
    intro g hg
    have hg := hmem g hg
    rw [clusters_typed h] at hg
    obtain ⟨c, -, rfl⟩ := List.mem_map.mp hg
    exact ⟨rfl, rfl⟩
  have hcells : (joined b').length = cells b' := by
    rw [joined, List.length_flatMap, cells]
    exact congrArg List.sum (List.map_congr_left fun g hg => (hone g hg).1)
  refine ⟨htyped, ?_⟩
  rw [hcells]
  rcases List.mem_cons.mp hb' with rfl | hlater
  · by_cases hempty : b' = []
    · rw [hempty]
      exact Nat.zero_le _
    · exact hfirst hempty
  · rcases (hrest b' hlater).2 with hfits | ⟨g, rfl⟩
    · exact hfits
    · rw [cells_cons, cells_nil, (hone g List.mem_cons_self).2]
      exact hcolumns

namespace Broken

/-- Every line is within the column but for blanks at its end, and what is used of the current line
is its length. -/
structure Within (columns : Nat) (b : Broken) : Prop where
  used_eq : b.used = b.current.length
  current : (trimEnd b.current).length ≤ columns
  finished : ∀ t ∈ b.finished, (trimEnd t).length ≤ columns

variable {b : Broken}

theorem within_empty (columns : Nat) : Within columns {} := ⟨rfl, Nat.zero_le _, nofun⟩

theorem Within.endLine (h : Within columns b) : Within columns b.endLine := by
  unfold Broken.endLine
  split
  · exact h
  · exact ⟨rfl, Nat.zero_le _, List.forall_mem_cons.mpr ⟨h.current, h.finished⟩⟩

theorem Within.startLine (h : Within columns b) (hw : Typed w)
    (hfits : (trimEnd w).length ≤ columns) : Within columns (b.startLine w) :=
  ⟨hw.width_eq, hfits, h.finished⟩

/-- Pieces that fit are put on lines of their own. -/
theorem Within.fold (h : Within columns b) {ps : List (List Char)}
    (hps : ∀ p ∈ ps, Typed p ∧ p.length ≤ columns) : Within columns (b.fold ps) := by
  induction ps generalizing b with
  | nil => exact h
  | cons p ps ih =>
    obtain ⟨⟨hp, hfits⟩, hrest⟩ := List.forall_mem_cons.mp hps
    have htrim : (trimEnd p).length ≤ columns := (trimEnd_isPrefix p).length_le.trans hfits
    cases ps with
    | nil => exact h.startLine hp htrim
    | cons q ps =>
      simp only [Broken.fold]
      split
      · exact ih h hrest
      · exact ih ⟨h.used_eq, h.current, List.forall_mem_cons.mpr ⟨htrim, h.finished⟩⟩ hrest

/-- **One step**: a typed word is put where it is within the column, or folded. -/
theorem Within.add (h : Within columns b) (hw : Typed w) (hcolumns : 0 < columns) :
    Within columns (b.add columns .fold w) := by
  have htrim : Typed (trimEnd w) := hw.of_subset (trimEnd_isPrefix w).subset
  -- The word goes on the current line, is folded over several, or begins the next line.
  unfold Broken.add
  rw [htrim.width_eq]
  dsimp only
  split
  · rename_i hroom
    refine ⟨?_, ?_, h.finished⟩
    · rw [List.length_append, hw.width_eq, h.used_eq]
    · rw [h.used_eq] at hroom
      exact (length_trimEnd_append_le _ _).trans hroom
  · split
    · exact h.endLine.fold fun p hp => typed_of_mem_chop hw hcolumns hp
    · rename_i hnarrow
      refine h.endLine.startLine hw ?_
      simpa using hnarrow

/-- **A whole run**: typed words are put on lines within the column. -/
theorem Within.foldl (h : Within columns b) (hws : ∀ w ∈ ws, Typed w) (hcolumns : 0 < columns) :
    Within columns (ws.foldl (Broken.add columns .fold) b) := by
  induction ws generalizing b with
  | nil => exact h
  | cons w ws ih =>
    obtain ⟨hw, hrest⟩ := List.forall_mem_cons.mp hws
    exact ih (h.add hw hcolumns) hrest

end Broken

/-- A text without words is blank. -/
theorem blank_of_spacedWords_nil (h : spacedWords s = []) : ∀ c ∈ s, isBlank c := by
  have hnone : s.dropWhile isBlank = [] := by
    rw [← flatten_go (s.dropWhile isBlank)]
    rw [spacedWords] at h
    cases hgo : spacedWords.go (s.dropWhile isBlank) with
    | nil => rfl
    | cons w ws => simp [hgo] at h
  exact List.dropWhile_eq_nil_iff.mp hnone

/-- **A typed text overruns its column by blanks only.** -/
theorem within_breakText (h : Typed s) (hcolumns : 0 < columns) {t : List Char}
    (ht : t ∈ breakText columns .fold s) : (trimEnd t).length ≤ columns := by
  unfold breakText at ht
  split at ht
  · rename_i hnone
    obtain rfl := List.mem_singleton.mp ht
    rw [trimEnd_of_blank (blank_of_spacedWords_nil hnone)]
    exact Nat.zero_le _
  · rename_i hne
    have hwords := flatten_spacedWords fun hnil => hne hnil
    have htyped : ∀ w ∈ spacedWords s, Typed w := fun w hw =>
      h.of_subset fun c hc => hwords ▸ List.mem_flatten.mpr ⟨w, hw, hc⟩
    have hwithin := (Broken.within_empty columns).foldl htyped hcolumns
    rw [Broken.lines, List.mem_reverse] at ht
    rcases List.mem_cons.mp ht with rfl | hearlier
    · exact hwithin.current
    · exact hwithin.finished t hearlier

/-! ## Lines of a message -/

/-- What is dropped at the end of a line is blank. -/
theorem exists_dropExcessBlanks_append (columns : Nat) (s : List Char) :
    ∃ gap : List Char, (∀ c ∈ gap, isBlank c) ∧ dropExcessBlanks columns s ++ gap = s := by
  obtain ⟨back, hback, hsplit⟩ := exists_trimEnd_append s
  let kept := s.length - min (s.length - (trimEnd s).length) (s.length - columns)
  have htrim : (trimEnd s).length ≤ s.length := (trimEnd_isPrefix s).length_le
  -- What is kept reaches at least to the last character that is no blank.
  have hkept : (trimEnd s).length ≤ kept := by omega
  refine ⟨s.drop kept, fun c hc => hback c ?_, List.take_append_drop kept s⟩
  rw [← hsplit, List.drop_append, List.drop_of_length_le hkept, List.nil_append] at hc
  exact List.mem_of_mem_drop hc

theorem length_dropExcessBlanks_le (h : (trimEnd s).length ≤ columns) :
    (dropExcessBlanks columns s).length ≤ columns := by
  rw [dropExcessBlanks, List.length_take]
  omega

/-- A message on lines of a column: none is longer than the column, put together they are the
message but for blanks at their ends, and one is enough for a message that fits. -/
structure Laid (columns : Nat) (message : List Char) (lines : List (List Char)) : Prop where
  fits : ∀ t ∈ lines, t.length ≤ columns
  kept : ∃ gaps : List (List Char), gaps.length = lines.length ∧
    (∀ gap ∈ gaps, ∀ c ∈ gap, isBlank c) ∧ withGaps lines gaps = message
  single : message.length ≤ columns → lines = [message]

/-- The lines of a message in a column. -/
def setLines (columns : Nat) (s : List Char) : List (List Char) :=
  (breakText columns .fold s).map (dropExcessBlanks columns)

/-- Pieces lose a gap each. -/
theorem exists_gaps (columns : Nat) (ps : List (List Char)) :
    ∃ gaps : List (List Char), gaps.length = ps.length ∧
      (∀ gap ∈ gaps, ∀ c ∈ gap, isBlank c) ∧
      withGaps (ps.map (dropExcessBlanks columns)) gaps = ps.flatten := by
  induction ps with
  | nil => exact ⟨[], rfl, by simp, rfl⟩
  | cons p ps ih =>
    obtain ⟨gaps, hlength, hblank, hkept⟩ := ih
    obtain ⟨gap, hgap, hsplit⟩ := exists_dropExcessBlanks_append columns p
    refine ⟨gap :: gaps, congrArg (· + 1) hlength, List.forall_mem_cons.mpr ⟨hgap, hblank⟩, ?_⟩
    rw [List.map_cons, withGaps_cons, hkept, ← List.append_assoc, hsplit, List.flatten_cons]

/-- **A typed message is laid on its lines.** -/
theorem laid_setLines (h : Typed s) (hcolumns : 0 < columns) :
    Laid columns s (setLines columns s) where
  fits t ht := by
    obtain ⟨p, hp, rfl⟩ := List.mem_map.mp ht
    exact length_dropExcessBlanks_le (within_breakText h hcolumns hp)
  kept := by
    obtain ⟨gaps, hlength, hblank, hkept⟩ := exists_gaps columns (breakText columns .fold s)
    rw [flatten_breakText h.smooth.unjoined] at hkept
    exact ⟨gaps, by rw [hlength, setLines, List.length_map], hblank, hkept⟩
  single hfits := by
    have hwidth : width s ≤ columns := by rwa [h.width_eq]
    have hwhole : Fits columns s := ⟨hwidth, .inl hfits⟩
    rw [setLines, breakText_of_fits h.smooth.unjoined hwidth, List.map_singleton,
      hwhole.dropExcessBlanks_eq]

theorem width_le_of_mem_setLines (h : Typed s) (hcolumns : 0 < columns) {t : List Char}
    (ht : t ∈ setLines columns s) : width t ≤ columns := by
  have htyped : Typed t := by
    obtain ⟨p, hp, rfl⟩ := List.mem_map.mp ht
    refine h.of_subset fun c hc => ?_
    rw [← flatten_breakText h.smooth.unjoined columns .fold]
    exact List.mem_flatten.mpr ⟨p, hp, List.mem_of_mem_take hc⟩
  rw [htyped.width_eq]
  exact (laid_setLines h hcolumns).fits t ht

/-! ## Writing a message -/

/-- A line of one span, if there is anything to write. -/
def Line.single (pen : Pen) (t : List Char) : Line := if t = [] then [] else [⟨pen, t⟩]

@[simp] theorem text_single (pen : Pen) (t : List Char) : (Line.single pen t).text = t := by
  unfold Line.single
  split <;> simp_all

@[simp] theorem width_single (pen : Pen) (t : List Char) : (Line.single pen t).width = width t := by
  unfold Line.single
  split
  · rename_i hempty
    simp [hempty, Line.width, width]
  · simp [Line.width]

theorem write_single (escapes : Bool) (pen : Pen) (t : List Char) :
    (Line.single pen t).write escapes = (⟨pen, t⟩ : Span).write escapes := by
  unfold Line.single
  split
  · rename_i hempty
    simp [hempty, Line.write, Span.write]
  · simp [Line.write]

/-- A line of one span is cut like its text. -/
theorem splitAt_single (pen : Pen) (s t : List Char) :
    (Line.single pen (s ++ t)).splitAt s.length = (.single pen s, .single pen t) := by
  by_cases hs : s = []
  · by_cases ht : t = [] <;> simp [hs, ht, Line.single, Line.splitAt]
  · by_cases ht : t = [] <;> simp [hs, ht, Line.single, Line.splitAt, List.length_pos_iff]

theorem splitLengths_single (pen : Pen) (pieces : List (List Char)) :
    splitLengths (pieces.map List.length) (.single pen pieces.flatten) =
      pieces.map (.single pen) := by
  induction pieces with
  | nil => rfl
  | cons p pieces ih =>
    simp only [List.map_cons, List.flatten_cons, splitLengths, splitAt_single, ih]

/-- A text that is not longer is written with the one pen of a line. -/
theorem filter_respan_single (pen : Pen) (h : t.length ≤ s.length) :
    ((Line.single pen s).respan t).filter (fun x => !x.text.isEmpty) = Line.single pen t := by
  by_cases hs : s = []
  · obtain rfl : t = [] := by simpa [hs] using h
    simp [hs, Line.single, Line.respan]
  · by_cases ht : t = []
    · simp [hs, ht, Line.single, Line.respan]
    · simp [hs, ht, h, Line.single, Line.respan, List.take_of_length_le h]

/-- A typed message is wrapped into its lines, all with its pen. -/
theorem wrap_message (h : Typed s) (hne : s ≠ []) (hcolumns : 0 < columns) (pen : Pen) :
    wrap columns [⟨pen, s⟩] = (setLines columns s).map (Line.single pen) := by
  have htext : Line.text [⟨pen, s⟩] = s := by simp
  have hparts := splitLengths_single pen (breakText columns .fold s)
  rw [flatten_breakText h.smooth.unjoined, Line.single, if_neg hne] at hparts
  rw [wrap_of_smooth (by rw [htext]; exact h.smooth) hcolumns, htext, hparts, List.map_map,
    setLines, List.map_map]
  refine List.map_congr_left fun p hp => ?_
  -- A line fits its column, so nothing of it is cut, and it keeps the one pen.
  have hline : dropExcessBlanks columns p ∈ setLines columns s := List.mem_map.mpr ⟨p, hp, rfl⟩
  have hkept : truncate columns .fold (dropExcessBlanks columns p) = dropExcessBlanks columns p :=
    if_pos (width_le_of_mem_setLines h hcolumns hline)
  have hshort : (dropExcessBlanks columns p).length ≤ p.length := List.length_take_le' _ _
  rw [Function.comp_apply, Function.comp_apply, text_single, hkept,
    filter_respan_single pen hshort]

/-- What a screen is sent for a typed message are its lines, each with the message's pen. -/
theorem write_message (h : Typed s) (hne : s ≠ []) (hcolumns : 0 < columns) (pen : Pen)
    (escapes : Bool) :
    Screen.write ⟨columns, escapes⟩ (wrap columns [⟨pen, s⟩]) =
      unlines ((setLines columns s).map fun t => (⟨pen, t⟩ : Span).write escapes) := by
  have hfits : ∀ l ∈ (setLines columns s).map (Line.single pen), l.width ≤ columns := by
    intro l hl
    obtain ⟨t, ht, rfl⟩ := List.mem_map.mp hl
    rw [width_single]
    exact width_le_of_mem_setLines h hcolumns ht
  rw [wrap_message h hne hcolumns, write_of_fits hfits, List.map_map]
  exact congrArg unlines (List.map_congr_left fun t _ => write_single escapes pen t)

/-- What a screen is sent for a message in one pen: the message and a line feed where it fits, else
the lines that it is laid on, and nothing if there are no columns. -/
inductive Told (screen : Screen) (pen : Pen) (message : String) : String → Prop
  | whole : 0 < screen.columns → message.length ≤ screen.columns →
    Told screen pen message ((⟨pen, message.toList⟩ : Span).write screen.escapes ++ "\n")
  | folded {lines : List (List Char)} : 0 < screen.columns → screen.columns < message.length →
    Laid screen.columns message.toList lines →
    Told screen pen message (unlines (lines.map fun t => (⟨pen, t⟩ : Span).write screen.escapes))
  | nowhere : screen.columns = 0 → Told screen pen message ""

/-- **A typed message is told by wrapping it.** -/
theorem told_write_wrap {message : String} (h : Typed message.toList) (hne : message ≠ "")
    (screen : Screen) (pen : Pen) :
    Told screen pen message (screen.write (wrap screen.columns [⟨pen, message.toList⟩])) := by
  rcases Nat.eq_zero_or_pos screen.columns with hzero | hcolumns
  · have hnothing : screen.write (wrap screen.columns [⟨pen, message.toList⟩]) = "" := by
      rw [hzero]
      rfl
    rw [hnothing]
    exact .nowhere hzero
  · have hlaid := laid_setLines h hcolumns
    have hsent := write_message h (by simpa using hne) hcolumns pen screen.escapes
    rw [show screen = ⟨screen.columns, screen.escapes⟩ from rfl, hsent]
    rcases Nat.lt_or_ge screen.columns message.length with hwide | hfits
    · exact .folded hcolumns hwide hlaid
    · have hline : ∀ line : String, unlines [line] = line ++ "\n" := by simp [unlines]
      rw [hlaid.single (by rwa [String.length_toList]), List.map_singleton, hline]
      exact .whole hcolumns hfits

end Mosaic.Terminal
