import Mosaic.Proofs.Text.Cluster
import Mosaic.Proofs.Text.Line
import Mosaic.Proofs.Text.Words
import Mosaic.Terminal.Wrap

/-!
# Wrapping a text

A text without line feeds and tabs, controls and joiners is *smooth*: wrapping only breaks it. The
pieces put together are the text (`flatten_breakText`), and a text that fits its column stays in one
piece (`breakText_of_fits`). What is sent to a screen without escapes is each piece, without blanks
that reach past the column and cut to it (`map_text_wrap`).

Two kinds of smooth texts are told more about. A *solid* text holds no blanks at all. It is a single
word, so it stays on one line if it fits its column and is folded otherwise
(`exists_cut_breakText`): none of the folded lines is wider than the column
(`width_le_of_mem_foldedLines`), and they are the text itself exactly if it fits
(`foldedLines_eq_singleton_iff`). Of a *typed* text every character takes one cell. All it can lose
to a column is blanks at the ends of lines (`laid_setLines`).
-/

namespace Mosaic.Terminal

open Text

variable {columns n used : Nat} {overflow : Overflow} {escapes : Bool} {pen : Pen}
  {s t w : List Char} {c : Char} {ws : List (List Char)} {g : Cluster} {gs b : List Cluster}
  {l : Line}

/-! ## Kinds of texts -/

/-- Nothing in the text is dropped, replaced or tied together when it is wrapped. -/
def Smooth (s : List Char) : Prop :=
  ∀ c ∈ s, c ≠ '\n' ∧ c ≠ '\t' ∧ ¬ isDropped c ∧ c ≠ joiner

/-- None of the characters is treated apart. Line feeds and tabs are blanks. -/
def Solid (s : List Char) : Prop := ∀ c ∈ s, ¬ isBlank c ∧ ¬ isDropped c ∧ c ≠ joiner

theorem Smooth.unjoined (h : Smooth s) : joiner ∉ s := fun hmem => (h _ hmem).2.2.2 rfl

theorem Smooth.no_break (h : Smooth s) : '\n' ∉ s := fun hmem => (h _ hmem).1 rfl

theorem Smooth.no_tab (h : Smooth s) : '\t' ∉ s := fun hmem => (h _ hmem).2.1 rfl

theorem Solid.no_blank (h : Solid s) : ∀ c ∈ s, ¬ isBlank c := fun c hc => (h c hc).1

theorem Solid.smooth (h : Solid s) : Smooth s := by
  intro c hc
  obtain ⟨hblank, hdropped, hjoiner⟩ := h c hc
  refine ⟨?_, ?_, hdropped, hjoiner⟩
  · rintro rfl
    exact hblank rfl
  · rintro rfl
    exact hblank rfl

theorem Solid.unjoined (h : Solid s) : joiner ∉ s := h.smooth.unjoined

theorem Solid.no_break (h : Solid s) : '\n' ∉ s := h.smooth.no_break

/-! ## Words -/

/-- The words of a text put together are the text. -/
theorem flatten_go (s : List Char) : (spacedWords.go s).flatten = s := by
  induction s with
  | nil => rfl
  | cons c s ih =>
    cases s with
    | nil => rfl
    | cons d s =>
      rw [spacedWords.go]
      cases hgo : spacedWords.go (d :: s) with
      | nil =>
        rw [hgo] at ih
        cases ih
      | cons w ws =>
        rw [hgo] at ih
        dsimp only
        split <;> simp [← ih]

/-- With the blanks in front they are the whole text, if there is a word at all. -/
theorem flatten_spacedWords (h : spacedWords s ≠ []) : (spacedWords s).flatten = s := by
  have hwords := flatten_go (s.dropWhile isBlank)
  cases hgo : spacedWords.go (s.dropWhile isBlank) with
  | nil => simp [spacedWords, hgo] at h
  | cons w ws =>
    rw [hgo, List.flatten_cons] at hwords
    rw [spacedWords, hgo, List.modifyHead_cons, List.flatten_cons, List.append_assoc, hwords]
    exact List.takeWhile_append_dropWhile

/-- A non-empty solid text is one word. -/
theorem spacedWords_of_solid (h : Solid s) (hne : s ≠ []) : spacedWords s = [s] := by
  have hword : ∀ s, Solid s → s ≠ [] → spacedWords.go s = [s] := by
    intro s hs hne
    induction s with
    | nil => exact absurd rfl hne
    | cons c s ih =>
      cases s with
      | nil => rfl
      | cons d s =>
        have hc : isBlank c = false := Bool.eq_false_iff.mpr (hs c List.mem_cons_self).1
        have htail : Solid (d :: s) := fun c hc => hs c (List.mem_cons_of_mem _ hc)
        rw [spacedWords.go, ih htail (List.cons_ne_nil d s)]
        simp [hc]
  have hstart : s.dropWhile isBlank = s := trimStart_of_no_blank h.no_blank
  -- Nothing is kept apart in front, since what is dropped and what is left are the text.
  have hfront : s.takeWhile isBlank = [] := by
    have hall := List.takeWhile_append_dropWhile (p := isBlank) (l := s)
    rwa [hstart, List.append_left_eq_self] at hall
  rw [spacedWords, hstart, hfront, hword s h hne]
  rfl

/-! ## Folding -/

/-- Clusters in pieces cannot be put otherwise: a piece fits, or it is a single cluster. What was
used of the first line before counts there, if anything is put on it at all. -/
theorem exists_chop_eq (n used : Nat) (gs : List Cluster) :
    ∃ b bs, chop n used gs = (b :: bs).map joined ∧ (b :: bs).flatten = gs ∧
      (b ≠ [] → used + cells b ≤ n) ∧ ∀ b' ∈ bs, b' ≠ [] ∧ (cells b' ≤ n ∨ ∃ g, b' = [g]) := by
  -- The induction is on the clusters, for whatever was used of the line before.
  induction gs generalizing used with
  | nil => exact ⟨[], [], rfl, rfl, by simp, by simp⟩
  | cons g gs ih =>
    rw [chop]
    split
    · -- The cluster begins a line, whether or not it fits there.
      obtain ⟨b, bs, hchop, hflat, hfirst, hrest⟩ := ih g.width
      rw [hchop]
      refine ⟨[], (g :: b) :: bs, rfl, by simpa using hflat, by simp, ?_⟩
      refine List.forall_mem_cons.mpr ⟨⟨List.cons_ne_nil g b, ?_⟩, hrest⟩
      cases b with
      | nil => exact .inr ⟨g, rfl⟩
      | cons g' b => exact .inl (hfirst (List.cons_ne_nil g' b))
    · rename_i hfits
      obtain ⟨b, bs, hchop, hflat, hfirst, hrest⟩ := ih (used + g.width)
      rw [hchop]
      refine ⟨g :: b, bs, rfl, by simpa using hflat, fun _ => ?_, hrest⟩
      cases b with
      | nil => simpa using hfits
      | cons g' b =>
        have := hfirst (List.cons_ne_nil g' b)
        rw [cells_cons]
        omega

/-- Pieces that are not empty become lines as they are. -/
theorem lines_fold (b : Broken) {ps : List (List Char)} (hps : ps ≠ [])
    (hne : ∀ p ∈ ps, p ≠ []) : (b.fold ps).lines = b.finished.reverse ++ ps := by
  induction ps generalizing b with
  | nil => exact absurd rfl hps
  | cons p ps ih =>
    obtain ⟨hp, hrest⟩ := List.forall_mem_cons.mp hne
    cases ps with
    | nil => simp [Broken.fold, Broken.startLine, Broken.lines]
    | cons q ps =>
      have hempty : p.isEmpty = false := by simpa using hp
      simp only [Broken.fold, hempty, Bool.false_and, Bool.false_eq_true, if_false]
      rw [ih _ (List.cons_ne_nil q ps) hrest]
      simp

/-! ## Breaking -/

namespace Broken

variable {b : Broken} {ps : List (List Char)}

/-- The text that is broken so far. -/
def text (b : Broken) : List Char := b.lines.flatten

theorem text_eq (b : Broken) : b.text = b.finished.reverse.flatten ++ b.current := by
  simp [text, lines]

theorem current_endLine (b : Broken) : b.endLine.current = [] := by
  unfold endLine
  split
  · exact List.isEmpty_iff.mp ‹_›
  · rfl

theorem text_endLine (b : Broken) : b.endLine.text = b.text := by
  unfold endLine
  split
  · rfl
  · simp [text_eq]

theorem text_startLine (hb : b.current = []) (p : List Char) :
    (b.startLine p).text = b.text ++ p := by
  simp [text_eq, startLine, hb]

/-- Behind finished lines the pieces of a word are added to the text, the empty ones for nothing. -/
theorem text_fold (hb : b.current = []) (ps : List (List Char)) :
    (b.fold ps).text = b.text ++ ps.flatten := by
  induction ps generalizing b with
  | nil => simp [fold]
  | cons p ps ih =>
    cases ps with
    | nil => simpa [fold] using text_startLine hb p
    | cons q ps =>
      simp only [fold]
      split
      · rename_i hskip
        obtain rfl : p = [] := by simpa using (Bool.and_eq_true_iff.mp hskip).1
        rw [ih hb]
        rfl
      · rw [ih (by exact hb)]
        simp [text_eq, hb]

/-- **One step**: a word is added to the text, wherever it is put. -/
theorem text_add (hw : joiner ∉ w) (b : Broken) (columns : Nat) (overflow : Overflow) :
    (b.add columns overflow w).text = b.text ++ w := by
  unfold add
  dsimp only
  split
  · simp [text_eq]
  · split
    · obtain ⟨p, ps, hchop, hflat, -⟩ := exists_chop_eq columns 0 (clusters w)
      rw [text_fold (current_endLine b), text_endLine, hchop, ← List.flatMap_def, ← joined_flatten,
        hflat, joined_clusters hw]
    · rw [text_startLine (current_endLine b), text_endLine]

/-- **A whole run**: words that are added one by one become the text. -/
theorem text_foldl_add (hws : joiner ∉ ws.flatten) (b : Broken) (columns : Nat)
    (overflow : Overflow) : (ws.foldl (add columns overflow) b).text = b.text ++ ws.flatten := by
  induction ws generalizing b with
  | nil => simp
  | cons w ws ih =>
    rw [List.flatten_cons, List.mem_append, not_or] at hws
    rw [List.foldl_cons, ih hws.2, text_add hws.1, List.flatten_cons, List.append_assoc]

/-- Words that have room on the current line are put there. -/
theorem foldl_add_of_fits (hws : joiner ∉ ws.flatten)
    (hfits : b.used + (ws.map width).sum ≤ columns) :
    ws.foldl (add columns overflow) b =
      { b with used := b.used + (ws.map width).sum, current := b.current ++ ws.flatten } := by
  induction ws generalizing b with
  | nil => simp
  | cons w ws ih =>
    rw [List.flatten_cons, List.mem_append, not_or] at hws
    rw [List.map_cons, List.sum_cons] at hfits
    -- Room is asked for the word without its blanks, and there is room for all of it.
    have hneeded := width_le_of_isPrefix hws.1 (trimEnd_isPrefix w)
    have hadd : b.add columns overflow w =
        { b with used := b.used + width w, current := b.current ++ w } :=
      if_pos (by omega)
    rw [List.foldl_cons, hadd, ih hws.2 (by rw [Nat.add_assoc]; exact hfits)]
    simp [Nat.add_assoc]

end Broken

/-- **The pieces of a broken text are the text.** -/
theorem flatten_breakText (hs : joiner ∉ s) (columns : Nat) (overflow : Overflow) :
    (breakText columns overflow s).flatten = s := by
  unfold breakText
  split
  · simp
  · rename_i hne
    have hwords := flatten_spacedWords fun hnil => hne hnil
    rw [← hwords] at hs
    have htext := Broken.text_foldl_add hs {} columns overflow
    rw [hwords] at htext
    exact htext

/-- **A text that fits its column stays in one piece.** -/
theorem breakText_of_fits (hs : joiner ∉ s) (hfits : width s ≤ columns) (overflow : Overflow) :
    breakText columns overflow s = [s] := by
  unfold breakText
  split
  · rfl
  · rename_i hne
    have hwords := flatten_spacedWords fun hnil => hne hnil
    -- Apart, the words take no more cells than the text they make up.
    have hroom : (({} : Broken).used + ((spacedWords s).map width).sum) ≤ columns := by
      have hsum : ((spacedWords s).map width).sum ≤ width (spacedWords s).flatten :=
        sum_width_le (by rwa [hwords])
      rw [hwords] at hsum
      simpa using hsum.trans hfits
    rw [Broken.foldl_add_of_fits (by rwa [hwords]) hroom, hwords]
    rfl

/-! ## Solid texts -/

/-- Clusters of a text in blocks, one for each line: a block fits the column, or it is a single
cluster that does not. -/
structure Cut (columns : Nat) (s : List Char) (blocks : List (List Cluster)) : Prop where
  flatten_eq : blocks.flatten = clusters s
  ne_nil : ∀ b ∈ blocks, b ≠ []
  fits : ∀ b ∈ blocks, cells b ≤ columns ∨ ∃ g, b = [g]

theorem Cut.inRow {blocks : List (List Cluster)} (h : Cut columns s blocks) (hs : joiner ∉ s)
    (hb : b ∈ blocks) : InRow b := by
  have hpart := List.infix_of_mem_flatten hb
  rw [h.flatten_eq] at hpart
  exact (inRow_clusters hs).part hpart

theorem Cut.joined_ne_nil {blocks : List (List Cluster)} (h : Cut columns s blocks)
    (hs : joiner ∉ s) (hb : b ∈ blocks) : joined b ≠ [] := by
  obtain ⟨g, b', rfl⟩ := List.exists_cons_of_ne_nil (h.ne_nil b hb)
  have hg : g ∈ clusters s := h.flatten_eq ▸ List.mem_flatten.mpr ⟨_, hb, List.mem_cons_self⟩
  rw [joined_cons]
  exact List.append_ne_nil_of_left_ne_nil (ne_nil_of_mem_clusters hs hg) _

/-- Blocks of clusters become lines, one each. -/
theorem Cut.lines_fold {blocks : List (List Cluster)} (h : Cut columns s blocks) (hs : joiner ∉ s)
    (hne : blocks ≠ []) : (({} : Broken).fold (blocks.map joined)).lines = blocks.map joined := by
  refine Terminal.lines_fold {} (by simpa using hne) fun p hp => ?_
  obtain ⟨b, hb, rfl⟩ := List.mem_map.mp hp
  exact h.joined_ne_nil hs hb

/-- A solid text that does not fit is folded between clusters. -/
theorem exists_cut_of_wide (h : Solid s) (hne : s ≠ []) (hwide : columns < width s) :
    ∃ blocks, breakText columns .fold s = blocks.map joined ∧ Cut columns s blocks := by
  have hs := h.unjoined
  have htrim : trimEnd s = s := trimEnd_of_no_blank h.no_blank
  have hbreak : breakText columns .fold s =
      (({} : Broken).fold (chop columns 0 (clusters s))).lines := by
    simp [breakText, spacedWords_of_solid h hne, Broken.add, htrim, hwide, Nat.not_le_of_lt hwide,
      Broken.endLine]
  obtain ⟨b, bs, hchop, hflat, hfirst, hrest⟩ := exists_chop_eq columns 0 (clusters s)
  rw [Nat.zero_add] at hfirst
  have hjoined : joined (b :: bs).flatten = s := by rw [hflat, joined_clusters hs]
  by_cases hempty : b = []
  · -- The first cluster did not fit the line that was still empty, so there is no such line.
    subst hempty
    have hcut : Cut columns s bs :=
      ⟨by simpa using hflat, fun b hb => (hrest b hb).1, fun b hb => (hrest b hb).2⟩
    have hbs : bs ≠ [] := by
      rintro rfl
      exact hne (by simpa using hjoined.symm)
    refine ⟨bs, ?_, hcut⟩
    have hskip : ({} : Broken).fold ([] :: bs.map joined) = ({} : Broken).fold (bs.map joined) := by
      obtain ⟨b', bs', rfl⟩ := List.exists_cons_of_ne_nil hbs
      simp [Broken.fold]
    rw [hbreak, hchop, List.map_cons, joined_nil, hskip, hcut.lines_fold hs hbs]
  · have hcut : Cut columns s (b :: bs) :=
      ⟨hflat, List.forall_mem_cons.mpr ⟨hempty, fun b hb => (hrest b hb).1⟩,
        List.forall_mem_cons.mpr ⟨.inl (hfirst hempty), fun b hb => (hrest b hb).2⟩⟩
    refine ⟨b :: bs, ?_, hcut⟩
    rw [hbreak, hchop, hcut.lines_fold hs (List.cons_ne_nil b bs)]

/-- **A solid text is broken between clusters**, and only into lines that cannot be longer. -/
theorem exists_cut_breakText (h : Solid s) (hne : s ≠ []) (columns : Nat) :
    ∃ blocks, breakText columns .fold s = blocks.map joined ∧ Cut columns s blocks := by
  rcases Nat.lt_or_ge columns (width s) with hwide | hfits
  · exact exists_cut_of_wide h hne hwide
  · have hs := h.unjoined
    refine ⟨[clusters s], ?_, List.flatten_singleton, ?_, ?_⟩
    · rw [breakText_of_fits hs hfits, List.map_singleton, joined_clusters hs]
    · refine List.forall_mem_singleton.mpr fun hnil => hne ?_
      rw [← joined_clusters hs, hnil, joined_nil]
    · exact List.forall_mem_singleton.mpr (.inl (by rwa [cells_clusters hs]))

/-- The lines that a text is folded into. -/
def foldedLines (columns : Nat) (s : List Char) : List String :=
  (breakText columns .fold s).map fun p => String.ofList (truncate columns .fold p)

theorem width_truncate_le (hs : joiner ∉ s) : width (truncate columns .fold s) ≤ columns := by
  unfold truncate
  split
  · assumption
  · exact (width_fitWidth hs columns).le

/-- Cutting puts nothing but spaces in place of what is cut. -/
theorem mem_truncate {c : Char} (hs : joiner ∉ s) (h : c ∈ truncate columns .fold s) :
    c ∈ s ∨ c = ' ' := by
  unfold truncate at h
  split at h
  · exact .inl h
  · exact mem_fitWidth hs h

theorem unjoined_truncate (hs : joiner ∉ s) : joiner ∉ truncate columns .fold s := by
  intro hmem
  rcases mem_truncate hs hmem with hmem | hspace
  · exact hs hmem
  · exact absurd hspace (by decide)

/-- A piece of a solid text is solid. -/
theorem Solid.of_mem_breakText {p : List Char} (h : Solid s) (hne : s ≠ [])
    (hp : p ∈ breakText columns .fold s) : Solid p := by
  obtain ⟨blocks, hbreak, hcut⟩ := exists_cut_breakText h hne columns
  rw [hbreak] at hp
  obtain ⟨b, hb, rfl⟩ := List.mem_map.mp hp
  intro c hc
  refine h c ?_
  obtain ⟨g, hg, hc⟩ := List.mem_flatMap.mp hc
  rw [← joined_clusters h.unjoined, ← hcut.flatten_eq]
  exact List.mem_flatMap.mpr ⟨g, List.mem_flatten.mpr ⟨b, hb, hg⟩, hc⟩

/-- **No folded line is wider than its column**, and none holds a line feed. -/
theorem width_le_of_mem_foldedLines (h : Solid s) (hne : s ≠ []) {line : String}
    (hline : line ∈ foldedLines columns s) : '\n' ∉ line.toList ∧ width line.toList ≤ columns := by
  obtain ⟨p, hp, rfl⟩ := List.mem_map.mp hline
  have hsolid := h.of_mem_breakText hne hp
  rw [String.toList_ofList]
  refine ⟨fun hbreak => ?_, width_truncate_le hsolid.unjoined⟩
  rcases mem_truncate hsolid.unjoined hbreak with hmem | hspace
  · exact hsolid.no_break hmem
  · exact absurd hspace (by decide)

/-- **A text stays on a line of its own exactly if it fits.** -/
theorem foldedLines_eq_singleton_iff (h : Solid s) (hne : s ≠ []) :
    foldedLines columns s = [String.ofList s] ↔ width s ≤ columns := by
  constructor
  · intro heq
    have hmem : String.ofList s ∈ foldedLines columns s := by simp [heq]
    simpa using (width_le_of_mem_foldedLines h hne hmem).2
  · intro hfits
    rw [foldedLines, breakText_of_fits h.unjoined hfits, List.map_singleton, truncate, if_pos hfits]

theorem foldedLines_ne_nil (h : Solid s) (hne : s ≠ []) : foldedLines columns s ≠ [] := by
  obtain ⟨blocks, hbreak, hcut⟩ := exists_cut_breakText h hne columns
  rw [foldedLines, hbreak]
  intro hnil
  obtain rfl : blocks = [] := by simpa using hnil
  refine hne ?_
  rw [← joined_clusters h.unjoined, ← hcut.flatten_eq]
  rfl

/-- **Folding loses nothing** where no cluster is wider than the column. -/
theorem join_foldedLines (h : Solid s) (hne : s ≠ [])
    (hclusters : ∀ g ∈ clusters s, g.width ≤ columns) :
    String.join (foldedLines columns s) = String.ofList s := by
  obtain ⟨blocks, hbreak, hcut⟩ := exists_cut_breakText h hne columns
  have hwhole : ∀ b ∈ blocks, truncate columns .fold (joined b) = joined b := by
    intro b hb
    -- A block that does not fit would be a single wide cluster, and there is none.
    have hcells : cells b ≤ columns := by
      rcases hcut.fits b hb with hfits | ⟨g, rfl⟩
      · exact hfits
      · have hg : g ∈ clusters s :=
          hcut.flatten_eq ▸ List.mem_flatten.mpr ⟨_, hb, List.mem_cons_self⟩
        simpa using hclusters g hg
    rw [truncate, if_pos (by rwa [(hcut.inRow h.unjoined hb).width_joined])]
  have hlines : foldedLines columns s = blocks.map fun b => String.ofList (joined b) := by
    rw [foldedLines, hbreak, List.map_map]
    exact List.map_congr_left fun b hb => congrArg String.ofList (hwhole b hb)
  have hjoined : blocks.flatMap joined = s := by
    rw [← joined_flatten, hcut.flatten_eq, joined_clusters h.unjoined]
  apply String.toList_injective
  rw [String.toList_join, hlines, List.flatMap_map]
  simpa using hjoined

/-! ## Lines of spans -/

@[simp] theorem text_nil : Line.text [] = [] := rfl

@[simp] theorem text_cons (x : Span) (l : Line) : Line.text (x :: l) = x.text ++ l.text := rfl

/-- A line counted span by span takes at most the cells of its text. -/
theorem width_le_width_text (h : joiner ∉ l.text) : l.width ≤ width l.text := by
  induction l with
  | nil => exact Nat.le_refl 0
  | cons x l ih =>
    rw [text_cons, List.mem_append, not_or] at h
    exact (Nat.add_le_add_left (ih h.2) _).trans (widthAfter_add_width_le h.1 h.2 none)

/-- Cutting a line cuts its text. -/
theorem text_splitAt (n : Nat) (l : Line) :
    (l.splitAt n).1.text = l.text.take n ∧ (l.splitAt n).2.text = l.text.drop n := by
  induction l generalizing n with
  | nil => simp [Line.splitAt]
  | cons x l ih =>
    obtain ⟨pen, t⟩ := x
    rw [Line.splitAt]
    split
    · rename_i hzero
      simp [hzero]
    · split
      · rename_i hinside
        simp [List.take_append_of_le_length hinside.le, List.drop_append_of_le_length hinside.le]
      · rename_i hpast
        -- The cut is behind this span, so the span goes whole to the front.
        obtain ⟨hfront, hrest⟩ := ih (n - t.length)
        have hlength := Nat.le_of_not_lt hpast
        simp [hfront, hrest, List.take_append, List.drop_append, List.take_of_length_le hlength,
          List.drop_of_length_le hlength]

/-- A line that is cut into the lengths of the pieces of its text is cut into these pieces. -/
theorem map_text_splitLengths {pieces : List (List Char)} (h : l.text = pieces.flatten) :
    (splitLengths (pieces.map List.length) l).map Line.text = pieces := by
  induction pieces generalizing l with
  | nil => rfl
  | cons p pieces ih =>
    obtain ⟨hfront, hrest⟩ := text_splitAt p.length l
    rw [h, List.flatten_cons] at hfront hrest
    rw [List.take_left] at hfront
    rw [List.drop_left] at hrest
    simp only [List.map_cons, splitLengths, hfront, ih hrest]

/-- Writing a text with the pens of a line writes this text. -/
theorem text_respan (t : List Char) (l : Line) : (l.respan t).text = t := by
  induction l generalizing t with
  | nil =>
    unfold Line.respan
    split
    · rename_i hempty
      simp [List.isEmpty_iff.mp hempty]
    · simp [Span.plain]
  | cons x l ih =>
    obtain ⟨pen, u⟩ := x
    rw [Line.respan]
    split
    · rename_i hempty
      simp [List.isEmpty_iff.mp hempty]
    · simp [ih]

/-- Empty spans are no part of the text. -/
theorem text_filter_nonempty (l : Line) :
    Line.text (l.filter fun x => !x.text.isEmpty) = l.text := by
  induction l with
  | nil => rfl
  | cons x l ih => cases hx : x.text <;> simp [hx, ih]

/-! ## Wrapping and writing -/

/-- Without line feeds a line of spans stays whole. -/
theorem splitLines_of_no_break (h : '\n' ∉ l.text) : splitLines l = [l] := by
  induction l with
  | nil => rfl
  | cons x l ih =>
    obtain ⟨pen, t⟩ := x
    rw [text_cons, List.mem_append, not_or] at h
    have hwhole : t.splitOnP (· = '\n') = [t] :=
      List.splitOnP_eq_singleton fun c hc => decide_eq_false fun hbreak => h.1 (hbreak ▸ hc)
    simp [splitLines, hwhole, ih h.2]

/-- A smooth line has nothing dropped. -/
theorem map_filter_of_smooth (h : Smooth l.text) :
    l.map (fun x => { x with text := x.text.filter fun c => !isDropped c }) = l := by
  have hkeep : ∀ x ∈ l,
      ({ x with text := x.text.filter fun c => !isDropped c } : Span) = x := by
    intro x hx
    have htext : x.text.filter (fun c => !isDropped c) = x.text :=
      List.filter_eq_self.mpr fun c hc => by
        simpa using (h c (List.mem_flatMap.mpr ⟨x, hx, hc⟩)).2.2.1
    rw [htext]
  exact (List.map_congr_left hkeep).trans (List.map_id l)

/-- A smooth line is cut where its text is broken. Its parts lose blanks and are cut to the column,
and keep their pens. -/
theorem wrap_of_smooth (h : Smooth l.text) (hcolumns : 0 < columns) :
    wrap columns l =
      (splitLengths ((breakText columns .fold l.text).map List.length) l).map fun p =>
        (p.respan (truncate columns .fold (dropExcessBlanks columns p.text))).filter
          fun x => !x.text.isEmpty := by
  have htab : l.text.contains '\t' = false := by simpa using h.no_tab
  simp only [wrap, map_filter_of_smooth h, if_neg hcolumns.ne', splitLines_of_no_break h.no_break,
    List.flatMap_singleton, htab, Bool.false_eq_true, if_false]

/-- The lines of a wrapped smooth line have the texts of its pieces. -/
theorem map_text_wrap (h : Smooth l.text) (hcolumns : 0 < columns) :
    (wrap columns l).map Line.text =
      (breakText columns .fold l.text).map fun p =>
        truncate columns .fold (dropExcessBlanks columns p) := by
  have hparts := map_text_splitLengths (flatten_breakText h.unjoined columns .fold).symm
  calc (wrap columns l).map Line.text
      = ((splitLengths ((breakText columns .fold l.text).map List.length) l).map Line.text).map
          fun p => truncate columns .fold (dropExcessBlanks columns p) := by
        simp only [wrap_of_smooth h hcolumns, List.map_map, Function.comp_def,
          text_filter_nonempty, text_respan]
    _ = (breakText columns .fold l.text).map fun p =>
          truncate columns .fold (dropExcessBlanks columns p) := by rw [hparts]

/-- A line as it is sent to a terminal that it fits, without its line feed. -/
def Line.write (escapes : Bool) (l : Line) : String := String.join (l.map (·.write escapes))

/-- Without escapes this is the text of the line. -/
theorem write_false (l : Line) : Line.write false l = String.ofList l.text := by
  apply String.toList_injective
  simp [Line.write, Span.write, List.flatMap_map, Line.text]

/-- Nothing is sent for empty spans. -/
theorem write_filter_nonempty (escapes : Bool) (l : Line) :
    Line.write escapes (l.filter fun x => !x.text.isEmpty) = l.write escapes := by
  induction l with
  | nil => rfl
  | cons x l ih =>
    simp only [Line.write] at ih ⊢
    cases hx : x.text with
    | nil => simpa [hx, Span.write] using ih
    | cons c t => simp [hx, ih]

/-- A screen is sent lines that fit one by one. -/
theorem write_of_fits {lines : List Line} (h : ∀ l ∈ lines, l.width ≤ columns) :
    Screen.write ⟨columns, escapes⟩ lines = unlines (lines.map (Line.write escapes)) := by
  rw [Screen.write, unlines, List.map_map]
  refine congrArg String.join (List.map_congr_left fun l hl => ?_)
  simp only [Line.crop, if_neg (Nat.not_lt_of_le (h l hl)), Function.comp_apply, Line.write]

/-- The pieces of a solid line have no blanks to lose at their ends. -/
theorem map_text_wrap_of_solid (h : Solid l.text) (hne : l.text ≠ []) (hcolumns : 0 < columns) :
    (wrap columns l).map Line.text =
      (breakText columns .fold l.text).map (truncate columns .fold) := by
  rw [map_text_wrap h.smooth hcolumns]
  refine List.map_congr_left fun p hp => congrArg (truncate columns .fold) ?_
  simp [dropExcessBlanks, trimEnd_of_no_blank (h.of_mem_breakText hne hp).no_blank]

/-- **A wrapped solid line is sent as its folded lines.** -/
theorem write_wrap (h : Solid l.text) (hne : l.text ≠ []) (hcolumns : 0 < columns) :
    Screen.write ⟨columns, false⟩ (wrap columns l) = unlines (foldedLines columns l.text) := by
  have htexts := map_text_wrap_of_solid h hne hcolumns
  -- A folded line is cut to the column, so nothing of it is cropped when it is sent.
  have hfits : ∀ l' ∈ wrap columns l, l'.width ≤ columns := by
    intro l' hl'
    have hmem : l'.text ∈ (breakText columns .fold l.text).map (truncate columns .fold) :=
      htexts ▸ List.mem_map.mpr ⟨l', hl', rfl⟩
    obtain ⟨p, hp, htext⟩ := List.mem_map.mp hmem
    have hunjoined := (h.of_mem_breakText hne hp).unjoined
    rw [← htext] at hmem
    calc l'.width
        ≤ width l'.text := width_le_width_text (by rw [← htext]; exact unjoined_truncate hunjoined)
      _ ≤ columns := by rw [← htext]; exact width_truncate_le hunjoined
  calc Screen.write ⟨columns, false⟩ (wrap columns l)
      = unlines (((wrap columns l).map Line.text).map String.ofList) := by
        rw [write_of_fits hfits, List.map_map]
        exact congrArg unlines (List.map_congr_left fun l' _ => write_false l')
    _ = unlines (foldedLines columns l.text) := by rw [htexts, List.map_map]; rfl

/-! ## Lines that fit -/

/-- A text fits a number of columns as it is: in cells, and in characters as well if there are
blanks at its end to lose. -/
def Fits (columns : Nat) (s : List Char) : Prop :=
  width s ≤ columns ∧ (s.length ≤ columns ∨ trimEnd s = s)

instance (columns : Nat) (s : List Char) : Decidable (Fits columns s) :=
  inferInstanceAs (Decidable (_ ∧ _))

theorem Fits.mono {m : Nat} (h : Fits n s) (hnm : n ≤ m) : Fits m s :=
  ⟨h.1.trans hnm, h.2.imp_left fun hlength => hlength.trans hnm⟩

/-- A text that fits loses no blanks. -/
theorem Fits.dropExcessBlanks_eq (h : Fits columns s) : dropExcessBlanks columns s = s := by
  refine List.take_of_length_le ?_
  rcases h.2 with hlength | htrim
  · omega
  · rw [htrim]
    omega

/-- Cut behind its last character, a line only loses spans that are empty. -/
theorem filter_splitAt_text (l : Line) :
    (l.splitAt l.text.length).1.filter (fun x => !x.text.isEmpty) =
      l.filter fun x => !x.text.isEmpty := by
  induction l with
  | nil => rfl
  | cons x l ih =>
    obtain ⟨pen, t⟩ := x
    cases t with
    | cons c t =>
      -- The cut is behind the last character, and so behind this span.
      have hbehind : ¬ t.length + (Line.text l).length < t.length := by omega
      simpa [Line.splitAt, hbehind] using ih
    | nil =>
      rw [Line.splitAt]
      split
      · rename_i hzero
        have hempty : Line.text l = [] := by simpa using hzero
        have hnone : ∀ x ∈ l, x.text = [] := List.flatMap_eq_nil_iff.mp hempty
        simpa using hnone
      · simpa using ih

/-- Written with its own pens, a text only loses spans that are empty. -/
theorem filter_respan_text (l : Line) :
    (l.respan l.text).filter (fun x => !x.text.isEmpty) = l.filter fun x => !x.text.isEmpty := by
  induction l with
  | nil => rfl
  | cons x l ih =>
    obtain ⟨pen, t⟩ := x
    rw [Line.respan]
    split
    · rename_i hzero
      have hempty : Line.text (⟨pen, t⟩ :: l) = [] := List.isEmpty_iff.mp hzero
      have hnone : ∀ x ∈ (⟨pen, t⟩ :: l : Line), x.text = [] := List.flatMap_eq_nil_iff.mp hempty
      exact (List.filter_eq_nil_iff.mpr fun x hx => by simp [hnone x hx]).symm
    · simp [List.filter_cons, ih]

/-- **A smooth line that fits is wrapped to itself**, less its empty spans. -/
theorem wrap_of_fits (h : Smooth l.text) (hcolumns : 0 < columns) (hfits : Fits columns l.text) :
    wrap columns l = [l.filter fun x => !x.text.isEmpty] := by
  have hwhole := filter_splitAt_text l
  have htext := (text_splitAt l.text.length l).1
  rw [List.take_length] at htext
  have hkept : truncate columns .fold (dropExcessBlanks columns l.text) = l.text := by
    rw [hfits.dropExcessBlanks_eq, truncate, if_pos hfits.1]
  rw [wrap_of_smooth h hcolumns, breakText_of_fits h.unjoined hfits.1]
  simp only [List.map_singleton, splitLengths]
  -- The only part is all of the line but for empty spans.
  generalize (l.splitAt l.text.length).1 = p at hwhole htext
  rw [htext, hkept, ← htext, filter_respan_text, hwhole]

end Mosaic.Terminal
