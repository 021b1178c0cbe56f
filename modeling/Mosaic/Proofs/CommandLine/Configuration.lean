import Mosaic.Proofs.CommandLine.Display
import Mosaic.Proofs.Pipeline
import Mosaic.Proofs.Settings.Layer

/-!
# Settings that a run relies on

Settings are built from what the strongest source gives to each field, and from nothing else; the
file of variables is the one source that another one can speak in, where it refers to it. What is
built needs no further checks: a run without a style of its own has one, and accepts the sizes up to
the largest side (`load_layered`).
-/

namespace Mosaic

namespace Settings

/-- A display of this size is one of those that the settings allow. -/
def Allows (s : Settings) (width height : Nat) : Prop :=
  1 ≤ width ∧ 1 ≤ height ∧ width ≤ s.maxDimension ∧ height ≤ s.maxDimension

variable {o o' : Origin} {f : Field} {s : Settings} {cs : List (Field × Complaint)}

/-! ## Loading -/

theorem given_choose (o : Origin) (f : Field) : Given o f (choose o.layers f) := given_iff.mpr rfl

/-- Every field is given one value, or none. -/
theorem existsUnique_given (o : Origin) (f : Field) : ∃! u, Given o f u :=
  ⟨_, given_choose o f, fun _ hu => (given_iff.mp hu).symm⟩

/-- Weaker sources have no part in what an argument gives. -/
theorem given_of_argument {v : Value} (h : o.arguments.lookup f.name = some v)
    (environment : List (String × String)) (envFile : String) :
    Given { o with environment, envFile } f (some v) := .argument h

theorem load_congr (h : ∀ f, ∃ u, Given o f u ∧ Given o' f u) : load o' = load o := by
  -- A field is given one value only, so both origins give it the value that they share.
  have hsame : choose o'.layers = choose o.layers := funext fun f => by
    obtain ⟨u, hu, hu'⟩ := h f
    rw [given_iff.mp hu, given_iff.mp hu']
  rw [load, load, hsame]

theorem load_eq_ok_iff :
    load o = .ok s ↔ ∀ (f : Field) u, Given o f u → f.outcome u = .ok (s.value f) := by
  rw [load, ofChoice_eq_ok_iff]
  constructor
  · intro h f u hu
    rw [← given_iff.mp hu]
    exact h f
  · exact fun h f => h f _ (given_choose o f)

/-- A failure tells what is wrong with each field, in the order of the fields. -/
theorem complaints_of_load_error (h : load o = .error cs) :
    cs ≠ [] ∧ (cs.map Prod.fst).Sublist Field.all ∧
      ∀ (f : Field) c, (f, c) ∈ cs ↔ ∃ u, Given o f u ∧ f.outcome u = .error c := by
  obtain ⟨hne, rfl⟩ := ofChoice_eq_error_iff.mp h
  refine ⟨hne, fields_allComplaints _, fun f c => mem_allComplaints_iff.trans ?_⟩
  constructor
  · exact fun hc => ⟨_, given_choose o f, hc⟩
  · rintro ⟨u, hu, hc⟩
    rwa [given_iff.mp hu]

/-- Settings cannot be built exactly if some field comes to nothing. -/
theorem exists_load_error_iff :
    (∃ cs, load o = .error cs) ↔ ∃ (f : Field) (u : Option Value) (c : Complaint),
      Given o f u ∧ f.outcome u = .error c := by
  constructor
  · rintro ⟨cs, h⟩
    obtain ⟨hne, -, hmem⟩ := complaints_of_load_error h
    obtain ⟨⟨f, c⟩, hc⟩ := List.exists_mem_of_ne_nil cs hne
    obtain ⟨u, hu⟩ := (hmem f c).mp hc
    exact ⟨f, u, c, hu⟩
  · rintro ⟨f, u, c, hu, hc⟩
    cases hload : load o with
    | error cs => exact ⟨cs, rfl⟩
    -- Settings hold what comes of every field, this one too, and nothing came of it.
    | ok s =>
      rw [load_eq_ok_iff.mp hload f u hu] at hc
      cases hc

end Settings

namespace CommandLine

open Session (askSize readSize converse)
open Numeral (Writes)

variable {o : RunOptions} {s : Settings} {w : World} {supply : Supply} {line : String}
  {width height : Nat}

/-! ## Running -/

/-- Status 2 is not for what comes of the work. -/
theorem endingOf_ne {α : Type} (r : Except Failure α) : endingOf r ≠ .exit 2 := by
  cases r with
  | ok a => simp [endingOf]
  | error e =>
    rw [endingOf, endingOfFailure]
    cases e.fault? <;> simp

/-- Only a name that is no style ends a run with status 2. -/
theorem ending_ne_of_unnamed (h : o.style = none) : (runDisplay o s w).ending ≠ .exit 2 := by
  cases hinput : inputOf? o w with
  | none => simp [runDisplay, hinput]
  | some supply =>
    rw [ending_runDisplay hinput (chosenStyle_of_draws (.unnamed h))]
    exact endingOf_ne _

/-- A size past the limits ends a run. -/
theorem endsWith_of_size (hstyle : o.style = none) (hinput : inputOf? o w = some supply)
    (hline : supply.line 0 = .ok (some line)) (hwrites : Writes line [width, height])
    (h : ¬ s.Allows width height) :
    ∃ limit, EndsWith w (runDisplay o s w) (.fault (.invalidDimensions width height limit)) := by
  obtain ⟨limit, hread⟩ : ∃ limit, readSize s.maxDimension line =
      .error (.fault (.invalidDimensions width height limit)) := by
    rw [Session.readSize_of_writes hwrites]
    unfold Settings.Allows at h
    by_cases hzero : width = 0 ∨ height = 0
    · exact ⟨_, if_pos hzero⟩
    · -- A limit that is too small has no more digits than the sides, which could be read.
      have hw : IsWritable width := hwrites.isWritable (by simp)
      have hh : IsWritable height := hwrites.isWritable (by simp)
      have hpast : (s.maxDimension : Int) < width ∨ (s.maxDimension : Int) < height := by omega
      have hlimit : IsWritable s.maxDimension := by
        rcases hpast with hlt | hlt
        · exact hw.mono (by omega)
        · exact hh.mono (by omega)
      have htellable :
          (Fault.invalidDimensions width height (some (s.maxDimension : Int))).IsTellable :=
        Fault.isTellable_invalidDimensions.mpr ⟨hw, hh, by simpa using hlimit⟩
      refine ⟨some s.maxDimension, ?_⟩
      rw [if_neg hzero, if_pos hpast, Fault.raise_of_isTellable htellable]
  -- The size is asked for first, so its failure is that of the whole dialogue.
  have hsize : askSize s.maxDimension supply =
      .error (.fault (.invalidDimensions width height limit)) := by
    rw [askSize, hline]
    exact hread
  refine ⟨limit, endsWith_runDisplay hinput (chosenStyle_of_draws (.unnamed hstyle)) ?_⟩
  rw [painting, Session.converse_of_size_error hsize]
  rfl

/-- A size within the limits is painted. -/
theorem ending_of_size {sizeLine colorLine : String} {c : Color} (hstyle : o.style = none)
    (hinput : inputOf? o w = some { lines := [sizeLine, colorLine] })
    (hsize : Writes sizeLine [width, height]) (hcolor : Writes colorLine [c.code])
    (h : s.Allows width height) : (runDisplay o s w).ending = .exit 0 := by
  obtain ⟨hwidth, hheight, hw, hh⟩ := h
  -- Two lines describe a session whose stream is empty: there is no third line.
  let session : Session := ⟨width, height, c, []⟩
  have hdescribes : Session.Describes s.maxDimension [sizeLine, colorLine] session := {
    size := ⟨sizeLine, rfl, hsize⟩
    width_pos := hwidth
    height_pos := hheight
    width_le := Int.ofNat_le.mpr hw
    height_le := Int.ofNat_le.mpr hh
    color := ⟨colorLine, rfl, hcolor⟩
    stream := .inl ⟨rfl, rfl⟩ }
  obtain ⟨m, hm, -⟩ := Session.create_of_outcome (Session.read_of_describes hdescribes)
  have hparse : Command.parse true session.wire = .ok [] := rfl
  have hpaint : painting s.maxDimension { lines := [sizeLine, colorLine] } = .ok m.grid := by
    rw [painting, Session.converse_of_describes hdescribes]
    exact Session.paint_of_parse_ok hm hparse
  rw [ending_runDisplay hinput (chosenStyle_of_draws (.unnamed hstyle)), hpaint]
  rfl

open Settings in
/-- **Settings are what their strongest sources make of them.** Every field is given one value, or
none: that of the argument, else of the environment, else of the file, and nothing in a weaker
source changes it. The file gives values to the same fields in any environment, as they are written
where they have no reference, and it knows nothing of the environment but the variables that it
refers to. What is given decides everything: settings have in each field what comes of its value
alone, and they cannot be built exactly if some field comes to nothing, which is then told of each
such field once, in their order. Settings that are built name a style, a symbol and a size, so a run
that names no style never ends for an unknown one, and it accepts exactly the sizes from one to the
largest side. -/
theorem load_layered (o : Origin) :
    (∀ f, ∃! u, Given o f u) ∧
    (∀ f v, o.arguments.lookup f.name = some v → ∀ environment envFile,
      Given { o with environment, envFile } f (some v)) ∧
    (∀ f t, o.arguments.lookup f.name = none → Sets o.variables f (some t) → ∀ envFile,
      Given { o with envFile } f (some (.text t))) ∧
    (∀ environment,
      (∀ f, (∃ t, Sets (EnvFile.parse environment o.envFile) f (some t)) ↔
        ∃ t, Sets (EnvFile.merge (EnvFile.written o.envFile)) f (some t)) ∧
      (∀ f t, Sets (EnvFile.merge (EnvFile.written o.envFile)) f (some t) → '$' ∉ t.toList →
        Sets (EnvFile.parse environment o.envFile) f (some t)) ∧
      ((∀ name, EnvFile.Refers o.envFile name →
          environment.lookup name = o.environment.lookup name) →
        EnvFile.parse environment o.envFile = o.fileVariables)) ∧
    (∀ o', (∀ f, ∃ u, Given o f u ∧ Given o' f u) → load o' = load o) ∧
    (∀ s, load o = .ok s ↔ ∀ (f : Field) u, Given o f u → f.outcome u = .ok (s.value f)) ∧
    (∀ cs, load o = .error cs → cs ≠ [] ∧ (cs.map Prod.fst).Sublist Field.all ∧
      ∀ (f : Field) c, (f, c) ∈ cs ↔ ∃ u, Given o f u ∧ f.outcome u = .error c) ∧
    ((∃ cs, load o = .error cs) ↔ ∃ (f : Field) (u : Option Value) (c : Complaint),
      Given o f u ∧ f.outcome u = .error c) ∧
    ∀ s, load o = .ok s →
      s.style.name ∈ ["plain", "color"] ∧ s.symbol ≠ "" ∧ 1 ≤ s.maxDimension ∧
      (∀ line width height, readSize s.maxDimension line = .ok (width, height) ↔
        Writes line [width, height] ∧ s.Allows width height) ∧
      ∀ arguments options w, Request.ofArguments? arguments = some (.run options) →
        options.style = none →
        let t := start arguments s w
        chosenStyle options s = .ok s.style ∧ t.ending ≠ .exit 2 ∧
        (∀ supply line width height, inputOf? options w = some supply →
          supply.line 0 = .ok (some line) → Writes line [width, height] →
          ¬ s.Allows width height →
          ∃ limit, EndsWith w t (.fault (.invalidDimensions width height limit))) ∧
        ∀ sizeLine colorLine width height (c : Color),
          inputOf? options w = some { lines := [sizeLine, colorLine] } →
          Writes sizeLine [width, height] → Writes colorLine [c.code] →
          s.Allows width height → t.ending = .exit 0 := by
  -- What is left after the layers and the loading is what settings that were built promise.
  refine ⟨existsUnique_given o, fun f v h => given_of_argument h,
    fun f t harg h envFile => .environment harg h,
    fun environment => ⟨fun f => exists_sets_parse_iff environment,
      fun f t h hplain => sets_parse_of_plain h hplain environment, EnvFile.parse_congr⟩,
    fun o' => load_congr, fun s => load_eq_ok_iff, fun cs => complaints_of_load_error,
    exists_load_error_iff, fun s hs => ⟨?_, symbol_ne_empty hs, one_le_maxDimension hs, ?_, ?_⟩⟩
  · cases s.style <;> decide
  · -- The dialogue compares with the limit as an integer, the settings have it as a natural.
    intro line width height
    rw [Session.readSize_eq_ok_iff, Allows, Int.ofNat_le, Int.ofNat_le]
  · -- Without a style of its own a run draws in that of the settings, so it comes to its input.
    intro arguments options w hrequest hstyle
    simp only [start, hrequest]
    exact ⟨chosenStyle_of_draws (.unnamed hstyle), ending_ne_of_unnamed hstyle,
      fun supply line width height hinput hline hwrites h =>
        endsWith_of_size hstyle hinput hline hwrites h,
      fun sizeLine colorLine width height c hinput hsize hcolor h =>
        ending_of_size hstyle hinput hsize hcolor h⟩

/-- A style that the environment overrides is still what a symbol may refer to. -/
theorem overridden_style_is_symbol :
    let environment := [("PIXELGRID_RENDER_STYLE", "color")]
    let reference := "PIXELGRID_CELL_SYMBOL=$\x7bPIXELGRID_RENDER_STYLE\x7d\n"
    let o : Settings.Origin := { environment, envFile := reference }
    let o' : Settings.Origin :=
      { environment, envFile := "PIXELGRID_RENDER_STYLE=purple\n" ++ reference }
    Settings.Given o .style (some (.text "color")) ∧
      Settings.Given o' .style (some (.text "color")) ∧
      Settings.load o = .ok { Settings.default with style := .color, symbol := "color" } ∧
      Settings.load o' = .ok { Settings.default with style := .color, symbol := "purple" } := by
  intro environment reference o o'
  have hset : Settings.Sets [("PIXELGRID_RENDER_STYLE", some "color")] .style (some "color") :=
    ⟨[], _, [], rfl, by decide, nofun⟩
  exact ⟨.environment rfl hset, .environment rfl hset, by decide +kernel⟩

end CommandLine

end Mosaic
