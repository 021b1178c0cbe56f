import Mosaic.Proofs.CommandLine.ColorStyle

/-!
# Ways of delivering a text

A text may reach the program on the standard input or in a file, an interactive terminal may be
prompted, and a run may tell more or less about itself. None of this changes how the program ends,
and what the standard output shows is changed in one case only: lines are laid out for the terminal
on the standard input if there is one, so a picture in colours may be folded elsewhere where its
rows are too wide (`start_congr_of_delivers`).
-/

namespace Mosaic.CommandLine

open Report (symbolRow)

variable {o o' : RunOptions} {s : Settings} {w w' : World} {text : String} {limit : Int}
  {supply : Supply} {symbol : String}

/-- A run with these options is given the text: it stands in the file that they name, or on the
standard input where they name none. -/
def Delivers (o : RunOptions) (w : World) (text : String) : Prop :=
  match o.input with
  | some path => w.files.content? path = some text.toUTF8
  | none => w.input = .ofText text

/-- However it is delivered, a text is supplied line by line. -/
theorem inputOf?_of_delivers (h : Delivers o w text) : inputOf? o w = some (.ofText text) := by
  unfold Delivers at h
  unfold inputOf?
  cases hinput : o.input with
  | none =>
    rw [hinput] at h
    exact congrArg some h
  | some path =>
    rw [hinput] at h
    simp only [h, Option.map_some, Supply.ofBytes_toUTF8]

/-- The settings for prompts have no part in the choice of a style. -/
theorem chosenStyle_congr (hstyle : o.style = o'.style) (s : Settings) (p p' : Bool) :
    chosenStyle o { s with prompts := p } = chosenStyle o' { s with prompts := p' } := by
  simp only [chosenStyle, hstyle]

/-- A style is chosen only if the run is to draw in it. -/
theorem draws_of_chosenStyle {style : Style} (h : chosenStyle o s = .ok style) :
    Draws o s style := by
  -- Four names give a style, the missing and the empty one among them; any other gives none.
  cases hname : o.style with
  | none =>
    rw [chosenStyle, hname] at h
    obtain rfl := Except.ok.inj h
    exact .unnamed hname
  | some name =>
    by_cases hempty : name = ""
    · rw [hempty] at hname
      rw [chosenStyle, hname] at h
      obtain rfl := Except.ok.inj h
      exact .empty hname
    · by_cases hplain : name = "plain"
      · rw [hplain] at hname
        rw [chosenStyle, hname] at h
        obtain rfl := Except.ok.inj h
        exact .named hname
      · by_cases hcolor : name = "color"
        · rw [hcolor] at hname
          rw [chosenStyle, hname] at h
          obtain rfl := Except.ok.inj h
          exact .named hname
        · rw [chosenStyle_of_unknown hname hempty hplain hcolor] at h
          cases h

/-! ## Surroundings -/

/-- Both surroundings have the same outputs: the same columns are prescribed, and the same terminals
are there to be written to. -/
structure SameOutputs (w w' : World) : Prop where
  prescribed : w.prescribed = w'.prescribed
  stdout : w.stdout = w'.stdout
  stderr : w.stderr = w'.stderr

/-- Columns that are not prescribed are there. -/
theorem columns_pos (h : w.prescribed = none) : 0 < w.columns := by
  rw [World.columns, h, Option.getD_none]
  split
  · decide
  · decide
  · rename_i n hzero _
    exact Nat.pos_of_ne_zero fun hn => hzero (hn ▸ rfl)

/-- Only the terminal on the standard input can make a difference to the columns. -/
theorem SameOutputs.of_columns_ne (h : SameOutputs w w') (hne : w.columns ≠ w'.columns) :
    w.prescribed = none ∧ w.stdin ≠ w'.stdin := by
  constructor
  · by_contra hsome
    obtain ⟨n, hn⟩ := Option.ne_none_iff_exists'.mp hsome
    refine hne ?_
    rw [World.columns, World.columns, ← h.prescribed, hn]
    rfl
  · -- The other two terminals are outputs, so with this one all three are the same.
    intro hstdin
    refine hne ?_
    rw [World.columns, World.columns, h.prescribed, h.stdout, h.stderr, hstdin]

/-- A painting that is shown differently is a grid in colours with rows that do not fit. -/
theorem wide_of_shownOf_ne {style : Style} (h : SameOutputs w w') {r : Except Failure Grid}
    (hne : shownOf style symbol w.out r ≠ shownOf style symbol w'.out r) :
    style = .color ∧ w.columns ≠ w'.columns ∧ ∃ g, r = .ok g ∧
      ((∀ c ∈ symbol.toList, Text.isPrintable c) →
        ¬ Terminal.Fits (min w.columns w'.columns) (symbolRow symbol g.width).toList) := by
  cases r with
  | error e => exact absurd rfl hne
  | ok g =>
    cases style with
    | plain => exact absurd rfl hne
    | color =>
      -- In colours only the screen counts, and of the screen only its columns can differ.
      have hcolumns : w.columns ≠ w'.columns := fun hsame =>
        hne (by rw [World.out, World.out, hsame, h.stdout])
      obtain ⟨hprescribed, -⟩ := h.of_columns_ne hcolumns
      refine ⟨rfl, hcolumns, g, rfl, fun hprintable hfits => hne ?_⟩
      have hshown : shown .color symbol w.out g = shown .color symbol w'.out g := by
        -- Rows that fit the narrower screen fit both, and are then written without regard to the
        -- width.
        have hdrawn := Report.write_grid_of_fits hprintable (columns_pos hprescribed)
          (hfits.mono (Nat.min_le_left _ _)) w.stdout.isSome
        have hdrawn' := Report.write_grid_of_fits hprintable
          (columns_pos (h.prescribed.symm.trans hprescribed))
          (hfits.mono (Nat.min_le_right _ _)) w'.stdout.isSome
        rw [← h.stdout] at hdrawn'
        simp only [shown, World.out, ← h.stdout]
        exact hdrawn.trans hdrawn'.symm
      exact hshown

/-! ## Runs -/

/-- **How a run ends does not depend on the way of a text or on what is told about the run, and what
it shows hardly does.** Two runs in one style and with the same settings but for prompts, with the
same outputs and both given the same text, end alike. They show the same on the standard output
too, except in colours where no columns are prescribed, the terminals on the standard input differ
and so do the widths that the picture is laid out for, one of which is too small for its rows. -/
theorem start_congr_of_delivers {arguments arguments' : List String}
    (hrequest : Request.ofArguments? arguments = some (.run o))
    (hrequest' : Request.ofArguments? arguments' = some (.run o'))
    (hstyle : o.style = o'.style) (houtputs : SameOutputs w w')
    (htext : Delivers o w text) (htext' : Delivers o' w' text) (s : Settings) (p p' : Bool) :
    let t := start arguments { s with prompts := p } w
    let t' := start arguments' { s with prompts := p' } w'
    t.ending = t'.ending ∧
      (t.stdout ≠ t'.stdout →
        Draws o s .color ∧ w.prescribed = none ∧ w.stdin ≠ w'.stdin ∧ w.columns ≠ w'.columns ∧
        ∃ g, painting s.maxDimension (.ofText text) = .ok g ∧
          ((∀ c ∈ s.symbol.toList, Text.isPrintable c) →
            ¬ Terminal.Fits (min w.columns w'.columns) (symbolRow s.symbol g.width).toList)) := by
  have hinput := inputOf?_of_delivers htext
  have hinput' := inputOf?_of_delivers htext'
  have hchoice := chosenStyle_congr hstyle s p p'
  simp only [start, hrequest, hrequest']
  cases hchosen' : chosenStyle o' { s with prompts := p' } with
  | error name =>
    rw [runDisplay_of_unknown hinput (hchoice.trans hchosen'),
      runDisplay_of_unknown hinput' hchosen']
    exact ⟨rfl, fun hne => absurd rfl hne⟩
  | ok style =>
    -- Both runs paint what the text describes, so only the screens are left to compare.
    have hchosen := hchoice.trans hchosen'
    constructor
    · rw [ending_runDisplay hinput hchosen, ending_runDisplay hinput' hchosen']
    · rw [stdout_runDisplay hinput hchosen, stdout_runDisplay hinput' hchosen']
      intro hne
      obtain ⟨rfl, hcolumns, g, hg, hwide⟩ := wide_of_shownOf_ne houtputs hne
      obtain ⟨hprescribed, hstdin⟩ := houtputs.of_columns_ne hcolumns
      have hdraws : Draws o s .color := draws_of_chosenStyle (s := s) hchosen
      exact ⟨hdraws, hprescribed, hstdin, hcolumns, g, hg, hwide⟩

/-- A picture in colours that fits, from a prompted terminal and from a file that is read with all
that can be told about the run, while no terminal is there. -/
theorem start_congr_of_delivers_file :
    let text := "2 1\n3\n2 1 1 1 0"
    let arguments := ["run", "-scolor"]
    let arguments' := ["run", "-i./in.txt", "--summary", "-v", "--style=color"]
    let o : RunOptions := { style := some "color" }
    let o' : RunOptions :=
      { input := some "./in.txt", style := some "color", summary := true, verbose := true }
    let w : World := { input := .ofText text, interactive := true, stdin := some 200 }
    let w' : World := { input := { lines := [] }, files := [("in.txt", text.toUTF8)] }
    let s := Settings.default
    Request.ofArguments? arguments = some (.run o) ∧
      Request.ofArguments? arguments' = some (.run o') ∧
      SameOutputs w w' ∧ Delivers o w text ∧ Delivers o' w' text ∧
      (start arguments { s with prompts := true } w).ending =
        (start arguments' { s with prompts := false } w').ending ∧
      (start arguments { s with prompts := true } w).stdout =
        (start arguments' { s with prompts := false } w').stdout := by
  intro text arguments arguments' o o' w w' s
  have hrequest : Request.ofArguments? arguments = some (.run o) := by decide +kernel
  have hrequest' : Request.ofArguments? arguments' = some (.run o') := by decide +kernel
  have houtputs : SameOutputs w w' := ⟨rfl, rfl, rfl⟩
  have htext : Delivers o w text := rfl
  have htext' : Delivers o' w' text :=
    show w'.files.content? "./in.txt" = some text.toUTF8 by decide +kernel
  obtain ⟨hending, hstdout⟩ :=
    start_congr_of_delivers hrequest hrequest' rfl houtputs htext htext' s true false
  refine ⟨hrequest, hrequest', houtputs, htext, htext', hending, ?_⟩
  -- A difference would need a row that is too wide, and both rows have two cells.
  by_contra hne
  obtain ⟨-, -, -, -, g, hg, hwide⟩ := hstdout hne
  have hwidth : g.width = 2 := by
    have hpainting : (painting s.maxDimension (.ofText text)).map Grid.width = .ok 2 := by
      decide +kernel
    rw [hg] at hpainting
    exact Except.ok.inj hpainting
  rw [hwidth] at hwide
  exact hwide (List.all_eq_true.mp (by decide +kernel)) (by decide +kernel)

/-- A row of 41 cells, from a pipe and from a file, the one without terminals and the other with a
wide terminal on the standard input: the first picture is folded and the second is not. -/
theorem start_differs_by_stdin :
    let text := "41 1\n1\n"
    let arguments := ["run", "--style", "color"]
    let arguments' := ["run", "--style", "color", "--input", "in.txt"]
    let o : RunOptions := { style := some "color" }
    let o' : RunOptions := { input := some "in.txt", style := some "color" }
    let w : World := { input := .ofText text }
    let w' : World :=
      { input := { lines := [] }, interactive := true, files := [("in.txt", text.toUTF8)],
        stdin := some 200 }
    let s := Settings.default
    Request.ofArguments? arguments = some (.run o) ∧
      Request.ofArguments? arguments' = some (.run o') ∧
      SameOutputs w w' ∧ Delivers o w text ∧ Delivers o' w' text ∧
      (start arguments s w).stdout ≠ (start arguments' s w').stdout := by
  intro text arguments arguments' o o' w w' s
  exact ⟨by decide +kernel, by decide +kernel, ⟨rfl, rfl, rfl⟩, rfl,
    show w'.files.content? "in.txt" = some text.toUTF8 by decide +kernel, by decide +kernel⟩

end Mosaic.CommandLine
