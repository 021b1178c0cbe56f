import Mosaic.Proofs.CommandLine.Display
import Mosaic.Proofs.Terminal.Wrap
import Mosaic.Text.Basic

/-!
# A grid in colour style

A row of coloured symbols is a text like any other to the screen: it is folded where it is wider. So
a screen without escapes shows a grid one line per row exactly if its rows fit
(`grid_linePerRow_iff`). Every row of a grid that is too wide is shown on the same lines, more than
one of them if the symbol is not itself too wide for the screen.
-/

namespace Mosaic

open Terminal

/-- Symbols in a row. -/
def Report.symbolRow (symbol : String) (n : Nat) : String := String.join (List.replicate n symbol)

/-- A symbol that can be told from the blanks around it: it is not empty, and its characters are
printable and no blanks. -/
structure Report.Visible (symbol : String) : Prop where
  ne_empty : symbol ≠ ""
  visible : ∀ c ∈ symbol.toList, Text.isPrintable c ∧ ¬ Text.isBlank c

namespace Report

-- The characters of the symbol are tried, and not all that there are.
instance (symbol : String) : Decidable (Visible symbol) :=
  @decidable_of_iff _ (symbol ≠ "" ∧ ∀ c ∈ symbol.toList, Text.isPrintable c ∧ ¬ Text.isBlank c)
    ⟨fun h => ⟨h.1, h.2⟩, fun h => ⟨h.ne_empty, h.visible⟩⟩
    (@instDecidableAnd _ _ _ (List.decidableBAll _ symbol.toList))

variable {symbol : String} {columns n : Nat}

theorem mem_symbolRow {c : Char} (h : c ∈ (symbolRow symbol n).toList) : c ∈ symbol.toList := by
  rw [symbolRow, String.toList_join] at h
  obtain ⟨s, hs, hc⟩ := List.mem_flatMap.mp h
  rwa [List.eq_of_mem_replicate hs] at hc

/-- Line feeds and tabs, controls and joiners cannot be printed. -/
theorem smooth_symbolRow (h : ∀ c ∈ symbol.toList, Text.isPrintable c) (n : Nat) :
    Smooth (symbolRow symbol n).toList := by
  intro c hc
  have hprintable := h c (mem_symbolRow hc)
  refine ⟨?_, ?_, fun hdropped => ?_, ?_⟩
  · rintro rfl
    exact absurd hprintable (by decide +kernel)
  · rintro rfl
    exact absurd hprintable (by decide +kernel)
  · have hcontrol : c = '\x07' ∨ c = '\x08' ∨ c = '\x0b' ∨ c = '\x0c' ∨ c = '\r' := by
      simpa [isDropped] using hdropped
    rcases hcontrol with rfl | rfl | rfl | rfl | rfl <;> exact absurd hprintable (by decide +kernel)
  · rintro rfl
    exact absurd hprintable (by decide +kernel)

theorem Visible.solid (h : Visible symbol) (n : Nat) : Solid (symbolRow symbol n).toList := by
  intro c hc
  obtain ⟨-, -, hdropped, hjoiner⟩ := smooth_symbolRow (fun c hc => (h.visible c hc).1) n c hc
  exact ⟨(h.visible c (mem_symbolRow hc)).2, hdropped, hjoiner⟩

theorem Visible.symbolRow_ne_nil (h : Visible symbol) (hn : 0 < n) :
    (symbolRow symbol n).toList ≠ [] := by
  obtain ⟨n, rfl⟩ := Nat.exists_eq_succ_of_ne_zero hn.ne'
  have hne : symbol.toList ≠ [] := by simpa using h.ne_empty
  simp [symbolRow, List.replicate_succ, hne]

theorem toList_symbolRow_succ (symbol : String) (n : Nat) :
    (symbolRow symbol (n + 1)).toList = symbol.toList ++ (symbolRow symbol n).toList := by
  rw [symbolRow, List.replicate_succ, String.join_cons, String.toList_append, symbolRow]

/-- A symbol that begins with a character of its own width takes the same cells every time. -/
theorem width_symbolRow (h : Visible symbol) (hlead : ∃ c ∈ symbol.toList.head?, Text.Leads c)
    (n : Nat) : Text.width (symbolRow symbol n).toList = n * Text.width symbol.toList := by
  obtain ⟨c, hhead, hlead⟩ := hlead
  obtain ⟨s, hs⟩ := List.head?_eq_some_iff.mp (Option.mem_def.mp hhead)
  have hunjoined : Text.joiner ∉ symbol.toList := fun hmem =>
    absurd (h.visible _ hmem).1 (by decide +kernel)
  induction n with
  | zero => simp [symbolRow, Text.width]
  -- The character that follows a symbol begins the next one, so it joins no cluster of the symbol
  -- in front; behind the last symbol nothing follows.
  | succ n ih =>
    rw [toList_symbolRow_succ]
    cases n with
    | zero => simp [symbolRow]
    | succ n =>
      rw [toList_symbolRow_succ, hs, List.cons_append] at ih ⊢
      calc Text.width (c :: s ++ c :: (s ++ (symbolRow symbol n).toList))
          = Text.width (c :: s) + Text.width (c :: (s ++ (symbolRow symbol n).toList)) :=
            Text.widthAfter_append (hs ▸ hunjoined) hlead none _
        _ = (n + 1 + 1) * Text.width (c :: s) := by
            rw [ih, Nat.succ_mul (n + 1), Nat.add_comm]

/-! ## Grids on a screen -/

theorem write_append (screen : Screen) (lines lines' : List Line) :
    screen.write (lines ++ lines') = screen.write lines ++ screen.write lines' := by
  rw [Screen.write, List.map_append, String.join_append, Screen.write, Screen.write]

/-- A screen without columns shows nothing. -/
theorem write_grid_zero (symbol : String) (g : Grid) :
    Screen.write ⟨0, false⟩ (grid 0 symbol g) = "" := by
  have hnone : grid 0 symbol g = [] := List.flatMap_eq_nil_iff.mpr fun _ _ => rfl
  rw [hnone]
  rfl

/-- The spans of a row, each a symbol with the pen of its colour. -/
theorem text_spans (symbol : String) (row : List Color) :
    Line.text (row.map fun c => ⟨pen c, symbol.toList⟩) =
      (symbolRow symbol row.length).toList := by
  rw [symbolRow, String.toList_join, ← List.map_const, List.flatMap_map, Line.text,
    List.flatMap_map]
  rfl

/-- Rows of one length have the same text, so each is shown on the same lines. -/
theorem write_rows (h : Visible symbol) (hcolumns : 0 < columns) (hn : 0 < n)
    {rows : List (List Color)} (hrows : ∀ row ∈ rows, row.length = n) :
    Screen.write ⟨columns, false⟩
        (rows.flatMap fun row => wrap columns (row.map fun c => ⟨pen c, symbol.toList⟩)) =
      Text.unlines (List.replicate rows.length
        (foldedLines columns (symbolRow symbol n).toList)).flatten := by
  induction rows with
  | nil => rfl
  | cons row rows ih =>
    obtain ⟨hrow, hrest⟩ := List.forall_mem_cons.mp hrows
    have htext := text_spans symbol row
    rw [hrow] at htext
    have hsolid : Solid (Line.text (row.map fun c => ⟨pen c, symbol.toList⟩)) := htext ▸ h.solid n
    have hne : Line.text (row.map fun c => ⟨pen c, symbol.toList⟩) ≠ [] :=
      htext ▸ h.symbolRow_ne_nil hn
    rw [List.flatMap_cons, write_append, ih hrest, write_wrap hsolid hne hcolumns, htext,
      List.length_cons, List.replicate_succ, List.flatten_cons, Text.unlines_append]

/-- **Without colours every row of a grid is shown on the same lines**: those that the symbols of a
row are folded into. -/
theorem write_grid (h : Visible symbol) (hcolumns : 0 < columns) (g : Grid) :
    Screen.write ⟨columns, false⟩ (grid columns symbol g) =
      Text.unlines (List.replicate g.height
        (foldedLines columns (symbolRow symbol g.width).toList)).flatten := by
  rw [grid, write_rows h hcolumns g.width_pos g.length_row, g.length_rows]

/-- **Where its rows fit, a grid is shown the same on screens of any width**: its symbols row by
row, each with the pen of its colour. -/
theorem write_grid_of_fits (h : ∀ c ∈ symbol.toList, Text.isPrintable c) (hcolumns : 0 < columns)
    {g : Grid} (hfits : Fits columns (symbolRow symbol g.width).toList) (escapes : Bool) :
    Screen.write ⟨columns, escapes⟩ (grid columns symbol g) =
      Text.unlines (g.rows.map fun row =>
        Line.write escapes (row.map fun c => ⟨pen c, symbol.toList⟩)) := by
  let line : List Color → Line := fun row => row.map fun c => ⟨pen c, symbol.toList⟩
  have htext : ∀ row ∈ g.rows, (line row).text = (symbolRow symbol g.width).toList := by
    intro row hrow
    rw [text_spans, g.length_row row hrow]
  have hwrap : ∀ row ∈ g.rows,
      wrap columns (line row) = [(line row).filter fun x => !x.text.isEmpty] := by
    intro row hrow
    have hsame := htext row hrow
    exact wrap_of_fits (hsame ▸ smooth_symbolRow h g.width) hcolumns (hsame ▸ hfits)
  have hwidth : ∀ l ∈ g.rows.map (fun row => (line row).filter fun x => !x.text.isEmpty),
      Line.width l ≤ columns := by
    intro l hl
    obtain ⟨row, hrow, rfl⟩ := List.mem_map.mp hl
    have hsame := (text_filter_nonempty (line row)).trans (htext row hrow)
    have hunjoined := (smooth_symbolRow h g.width).unjoined
    exact (width_le_width_text (hsame ▸ hunjoined)).trans (hsame ▸ hfits.1)
  have hgrid : grid columns symbol g =
      g.rows.map fun row => (line row).filter fun x => !x.text.isEmpty := by
    rw [grid, List.flatMap_congr hwrap, ← List.map_eq_flatMap]
  rw [hgrid, write_of_fits hwidth, List.map_map]
  exact congrArg Text.unlines (List.map_congr_left fun row _ => write_filter_nonempty escapes _)

/-- Equal blocks of lines, one for each row, are one line for each row exactly if a block is. -/
theorem unlines_blocks_eq_iff {block : List String} {row : String} (hn : 0 < n)
    (hblock : ∀ line ∈ block, '\n' ∉ line.toList) (hrow : '\n' ∉ row.toList) :
    Text.unlines (List.replicate n block).flatten = Text.unlines (List.replicate n row) ↔
      block = [row] := by
  constructor
  · intro heq
    have hlines : (List.replicate n block).flatten = List.replicate n row := by
      refine Text.unlines_injective (fun line hline => ?_) (fun line hline => ?_) heq
      · obtain ⟨b, hb, hline⟩ := List.mem_flatten.mp hline
        exact hblock line (List.eq_of_mem_replicate hb ▸ hline)
      · rwa [List.eq_of_mem_replicate hline]
    -- As many lines in as many blocks leave one line for each block.
    have hlength := congrArg List.length hlines
    have hone : block.length = 1 := by
      simp only [List.length_flatten, List.map_replicate, List.sum_replicate_nat,
        List.length_replicate] at hlength
      exact Nat.eq_of_mul_eq_mul_left hn (by rw [hlength, Nat.mul_one])
    obtain ⟨line, rfl⟩ := List.length_eq_one_iff.mp hone
    rw [List.flatten_replicate_singleton] at hlines
    rw [List.replicate_right_injective hn.ne' hlines]
  · rintro rfl
    rw [List.flatten_replicate_singleton]

/-- A grid is shown one line per row exactly if its rows fit a screen with columns. -/
theorem write_grid_eq_iff (h : Visible symbol) (columns : Nat) (g : Grid) :
    Screen.write ⟨columns, false⟩ (grid columns symbol g) =
        Text.unlines (List.replicate g.height (symbolRow symbol g.width)) ↔
      0 < columns ∧ Text.width (symbolRow symbol g.width).toList ≤ columns := by
  have hsolid := h.solid g.width
  have hne := h.symbolRow_ne_nil g.width_pos
  -- A screen without columns shows an empty block for each row, which is no line.
  rcases Nat.eq_zero_or_pos columns with rfl | hcolumns
  · have hnothing : "" = Text.unlines (List.replicate g.height ([] : List String)).flatten := by
      simp [Text.unlines]
    rw [write_grid_zero, hnothing,
      unlines_blocks_eq_iff g.height_pos (by simp) hsolid.no_break]
    simp
  · rw [write_grid h hcolumns,
      unlines_blocks_eq_iff g.height_pos
        (fun line hline => (width_le_of_mem_foldedLines hsolid hne hline).1) hsolid.no_break,
      ← foldedLines_eq_singleton_iff hsolid hne, String.ofList_toList]
    exact (and_iff_right hcolumns).symm

/-- Where no cluster is too wide, the lines of a block put together are the row, and there are
several if the row does not fit. -/
theorem block_of_clusters_fit (h : Visible symbol) (hn : 0 < n)
    (hclusters : ∀ k ∈ Text.clusters (symbolRow symbol n).toList, k.width ≤ columns) :
    let block := foldedLines columns (symbolRow symbol n).toList
    String.join block = symbolRow symbol n ∧
      (columns < Text.width (symbolRow symbol n).toList → 2 ≤ block.length) := by
  intro block
  have hsolid := h.solid n
  have hne := h.symbolRow_ne_nil hn
  have hjoin : String.join block = symbolRow symbol n := by
    rw [join_foldedLines hsolid hne hclusters, String.ofList_toList]
  refine ⟨hjoin, fun hwide => ?_⟩
  have hsome : block ≠ [] := foldedLines_ne_nil hsolid hne
  have hsingle : block ≠ [String.ofList (symbolRow symbol n).toList] := fun hblock =>
    Nat.not_le_of_lt hwide ((foldedLines_eq_singleton_iff hsolid hne).mp hblock)
  match block, hjoin, hsome, hsingle with
  | [line], hjoin, _, hsingle =>
    refine absurd ?_ hsingle
    rw [String.ofList_toList, ← hjoin]
    simp
  | _ :: _ :: _, _, _, _ => simp

end Report

namespace CommandLine

open Report Text

variable {o : RunOptions} {s : Settings} {w : World} {supply : Supply} {style : Style} {g : Grid}
  {symbol : String}

/-- A run that tells nothing about itself shows its picture and does nothing else. -/
theorem runDisplay_of_quiet (hinput : inputOf? o w = some supply)
    (hstyle : chosenStyle o s = .ok style) (hpaint : painting s.maxDimension supply = .ok g)
    (hsummary : o.summary = false) (hverbose : o.verbose = false)
    (hprompts : isPrompting o s w = false) :
    runDisplay o s w = ⟨[.out (shown style s.symbol w.out g)], .exit 0⟩ := by
  obtain ⟨session, hread, hpaint⟩ := bind_eq_ok_iff.mp hpaint
  simp only [runDisplay, hinput, hstyle, hread, hprompts, paintSession, hpaint, hverbose, logged,
    drawing, hsummary]
  cases style <;> rfl

/-- **A grid is drawn one line per row exactly if its rows fit the screen.** Without colours all
rows of a grid are shown alike, on a block of lines that are not wider than the screen, and no lines
on a screen without columns. A symbol that begins with a character of its own width takes the same
cells in every place of a row. Where no cluster of the symbols is wider than the screen, the lines
of a block put together are the symbols of a row, and there are several if a row does not fit. A run
in colour style shows just this on the standard output, and on the error output only what it was
asked to tell about itself. -/
theorem grid_linePerRow_iff (hsymbol : Visible symbol) (columns : Nat) (g : Grid) :
    let row := symbolRow symbol g.width
    let screen : Screen := ⟨columns, false⟩
    let drawn := screen.write (Report.grid columns symbol g)
    (drawn = unlines (List.replicate g.height row) ↔ 0 < columns ∧ width row.toList ≤ columns) ∧
    ((∃ c ∈ symbol.toList.head?, Leads c) →
      width row.toList = g.width * width symbol.toList) ∧
    (columns = 0 → drawn = "") ∧
    (0 < columns → ∃ block, drawn = unlines (List.replicate g.height block).flatten ∧ block ≠ [] ∧
      (∀ line ∈ block, '\n' ∉ line.toList ∧ width line.toList ≤ columns) ∧
      ((∀ k ∈ clusters row.toList, k.width ≤ columns) →
        String.join block = row ∧ (columns < width row.toList → 2 ≤ block.length))) ∧
    ∀ arguments o s w supply, Request.ofArguments? arguments = some (.run o) →
      inputOf? o w = some supply → Draws o s .color → s.symbol = symbol → w.out = screen →
      painting s.maxDimension supply = .ok g →
      (start arguments s w).stdout = drawn ∧ (start arguments s w).ending = .exit 0 ∧
      (o.summary = false → o.verbose = false → isPrompting o s w = false →
        start arguments s w = ⟨[.out drawn], .exit 0⟩) := by
  intro row screen drawn
  have hsolid := hsymbol.solid g.width
  have hne := hsymbol.symbolRow_ne_nil g.width_pos
  refine ⟨write_grid_eq_iff hsymbol columns g, fun hlead => width_symbolRow hsymbol hlead g.width,
    ?_, fun hcolumns => ?_, ?_⟩
  · rintro rfl
    exact write_grid_zero symbol g
  · exact ⟨foldedLines columns row.toList, write_grid hsymbol hcolumns g,
      foldedLines_ne_nil hsolid hne, fun line => width_le_of_mem_foldedLines hsolid hne,
      block_of_clusters_fit hsymbol g.width_pos⟩
  · intro arguments o s w supply hrequest hinput hdraws hsame hscreen hpaint
    have hstyle := chosenStyle_of_draws hdraws
    have hshown : shown .color s.symbol w.out g = drawn := by
      rw [hsame, hscreen]
      rfl
    simp only [start, hrequest]
    refine ⟨?_, ?_, fun hsummary hverbose hprompts => ?_⟩
    · rw [stdout_runDisplay hinput hstyle, hpaint]
      exact hshown
    · rw [ending_runDisplay hinput hstyle, hpaint]
      rfl
    · rw [runDisplay_of_quiet hinput hstyle hpaint hsummary hverbose hprompts, hshown]

/-- Rows of three symbols on a screen of three columns, drawn by a run, and on one of two. -/
theorem grid_linePerRow_iff_hash :
    let g := Grid.fill 3 2 (by decide) (by decide) .cyan
    let s : Settings := { Settings.default with style := .color, symbol := "#" }
    let w : World := { input := .ofText "3 2\n3\n", prescribed := some 3 }
    Visible "#" ∧ painting s.maxDimension w.input = .ok g ∧
      start ["run"] s w = ⟨[.out (unlines ["###", "###"])], .exit 0⟩ ∧
      Screen.write ⟨2, false⟩ (Report.grid 2 "#" g) ≠ unlines ["###", "###"] := by
  intro g s w
  have hsymbol : Visible "#" := by decide +kernel
  have hpaint : painting s.maxDimension w.input = .ok g := by decide +kernel
  have hrequest : Request.ofArguments? ["run"] = some (.run {}) := by decide +kernel
  obtain ⟨hfits, -, -, -, hrun⟩ := grid_linePerRow_iff hsymbol 3 g
  obtain ⟨hfolded, -⟩ := grid_linePerRow_iff hsymbol 2 g
  have hdrawn : Screen.write ⟨3, false⟩ (Report.grid 3 "#" g) = unlines ["###", "###"] :=
    hfits.mpr (by decide +kernel)
  obtain ⟨-, -, hquiet⟩ :=
    hrun ["run"] {} s w w.input hrequest rfl (.unnamed rfl) rfl rfl hpaint
  refine ⟨hsymbol, hpaint, ?_, fun heq => ?_⟩
  · rw [hquiet rfl rfl rfl, hdrawn]
  · exact absurd (hfolded.mp heq) (by decide +kernel)

/-- A row of 41 cells does not fit a terminal of 80 columns in the symbol of the settings. -/
theorem folded_row :
    let g := Grid.fill 41 1 (by decide) (by decide) .red
    let symbol := Settings.default.symbol
    let w : World := { input := .ofText "41 1\n1\n" }
    let folded := unlines [symbolRow symbol 40, symbol]
    Visible symbol ∧ Screen.write ⟨80, false⟩ (Report.grid 80 symbol g) = folded ∧
      start ["run", "--style", "color"] Settings.default w = ⟨[.out folded], .exit 0⟩ ∧
      folded ≠ unlines (List.replicate g.height (symbolRow symbol g.width)) := by
  intro g symbol w folded
  have hsymbol : Visible symbol := by decide +kernel
  exact ⟨hsymbol, by decide +kernel⟩

end CommandLine

end Mosaic
