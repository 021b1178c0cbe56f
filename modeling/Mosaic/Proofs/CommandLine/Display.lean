import Mosaic.CommandLine.Program
import Mosaic.Proofs.Failure
import Mosaic.Proofs.Text.Line

/-!
# What painting a display shows

Around the painting of a session the program asks, logs and reports, but none of this reaches the
standard output. So what is shown there, and how the program ends, are plain functions of what
comes of reading and painting (`stdout_runDisplay`, `ending_runDisplay`), a failure is told last and
ends the program (`EndsWith`), and for lines from the standard input what is shown is their picture
(`start_shows_picture`).
-/

namespace Mosaic.CommandLine

open Terminal

variable {o : RunOptions} {s : Settings} {w : World} {style : Style} {supply : Supply}
  {e : Failure} {f : Fault} {t : Transcript}

/-! ## Outputs of transcripts -/

/-- Events that show nothing on the standard output. -/
def Quiet (events : List Event) : Prop := ∀ e ∈ events, e.stdout = ""

theorem quiet_nil : Quiet [] := fun _ he => nomatch he

theorem quiet_logged (verbose : Bool) (records : List Record) : Quiet (logged verbose records) := by
  intro e he
  cases verbose with
  | false => cases he
  | true =>
    obtain ⟨r, -, rfl⟩ := List.mem_map.mp he
    rfl

theorem quiet_prompts (messages : List String) : Quiet (messages.map .prompt) := by
  intro e he
  obtain ⟨message, -, rfl⟩ := List.mem_map.mp he
  rfl

theorem Quiet.append {events events' : List Event} (h : Quiet events) (h' : Quiet events') :
    Quiet (events ++ events') := List.forall_mem_append.mpr ⟨h, h'⟩

theorem join_stdout_of_quiet {events : List Event} (h : Quiet events) :
    String.join (events.map Event.stdout) = "" := by
  induction events with
  | nil => rfl
  | cons e events ih =>
    obtain ⟨he, hrest⟩ := List.forall_mem_cons.mp h
    rw [List.map_cons, String.join_cons, he, ih hrest]
    rfl

@[simp] theorem ending_after (before : List Event) (t : Transcript) :
    (t.after before).ending = t.ending := rfl

theorem after_after (before before' : List Event) (t : Transcript) :
    (t.after before').after before = t.after (before ++ before') :=
  congrArg (Transcript.mk · t.ending) (List.append_assoc before before' t.events).symm

/-- Quiet events in front leave the standard output as it is. -/
theorem stdout_after {before : List Event} (h : Quiet before) (t : Transcript) :
    (t.after before).stdout = t.stdout := by
  rw [Transcript.stdout, Transcript.after, List.map_append, String.join_append,
    join_stdout_of_quiet h, String.empty_append, Transcript.stdout]

/-- Events in front put something in front on the error output. -/
theorem stderr_after (screen : Screen) (stamp : String) (before : List Event) (t : Transcript) :
    (t.after before).stderr screen stamp =
      String.join (before.map (Event.stderr screen stamp)) ++ t.stderr screen stamp := by
  rw [Transcript.stderr, Transcript.after, List.map_append, String.join_append, Transcript.stderr]

/-! ## Ends -/

/-- What tells of a fault: the line of its record in the log and its panel. -/
def diagnostic (screen : Screen) (stamp : String) (f : Fault) : String :=
  (faultRecord f).line stamp ++ screen.write (Report.fault screen.columns f.kind f.message)

/-- On a screen of any width, a fault is told by its kind and its message. -/
theorem diagnostic_names (screen : Screen) (stamp : String) (f : Fault) :
    ∃ before after, diagnostic screen stamp f =
      before ++ (f.kind ++ ": " ++ f.message) ++ after := by
  let columns :=
    stamp ++ "  " ++ padRight 30 "pixelgrid.cli" ++ "  " ++ padRight 7 Level.warning.name ++ "  "
  let panel := screen.write (Report.fault screen.columns f.kind f.message)
  refine ⟨columns, "\n" ++ panel, ?_⟩
  simp only [columns, panel, diagnostic, faultRecord, Record.line, toString, String.append_assoc]

/-- What a grid adds to the standard output. -/
def shown (style : Style) (symbol : String) (screen : Screen) (g : Grid) : String :=
  match style with
  | .plain => g.render ++ "\n"
  | .color => screen.write (Report.grid screen.columns symbol g)

/-- What is shown of a painting: nothing where it failed. -/
def shownOf (style : Style) (symbol : String) (screen : Screen) : Except Failure Grid → String
  | .ok g => shown style symbol screen g
  | .error _ => ""

/-- How the program ends with a failure: only a fault is reported. -/
def endingOfFailure (e : Failure) : Ending :=
  match e.fault? with
  | some _ => .exit 1
  | none => .uncaught e

/-- How the program ends with what comes of its work. -/
def endingOf {α : Type} : Except Failure α → Ending
  | .ok _ => .exit 0
  | .error e => endingOfFailure e

theorem ending_fail (w : World) (e : Failure) : (fail w e).ending = endingOfFailure e := by
  unfold fail endingOfFailure
  cases e.fault? <;> rfl

theorem stdout_fail (w : World) (e : Failure) : (fail w e).stdout = "" := by
  unfold fail
  cases e.fault? <;> rfl

/-- All that a fault adds to the error output tells of it. -/
theorem stderr_fail (w : World) (f : Fault) (stamp : String) :
    (fail w (.fault f)).stderr w.err stamp = diagnostic w.err stamp f := by
  simp [fail, Failure.fault?, Transcript.stderr, Event.stderr, diagnostic]

/-- A command ends with a failure: nothing is shown on the standard output, and behind what is told
elsewhere the failure is told and ends the command. -/
def EndsWith (w : World) (t : Transcript) (e : Failure) : Prop :=
  ∃ before, Quiet before ∧ t = (fail w e).after before

theorem endsWith_fail (w : World) (e : Failure) : EndsWith w (fail w e) e := ⟨[], quiet_nil, rfl⟩

/-- Quiet events in front of a command do not change the failure that it ends with. -/
theorem EndsWith.after (h : EndsWith w t e) {before : List Event} (hbefore : Quiet before) :
    EndsWith w (t.after before) e := by
  obtain ⟨inner, hinner, rfl⟩ := h
  exact ⟨before ++ inner, hbefore.append hinner, after_after before inner _⟩

theorem EndsWith.stdout_eq (h : EndsWith w t e) : t.stdout = "" := by
  obtain ⟨before, hbefore, rfl⟩ := h
  rw [stdout_after hbefore, stdout_fail]

theorem EndsWith.stderr_eq (h : EndsWith w t (.fault f)) (stamp : String) :
    ∃ before, t.stderr w.err stamp = before ++ diagnostic w.err stamp f := by
  obtain ⟨before, -, rfl⟩ := h
  exact ⟨_, by rw [stderr_after, stderr_fail]⟩

/-- A drawn grid is shown; the panel of its cell counts is not on the standard output. -/
theorem stdout_drawing (o : RunOptions) (s : Settings) (w : World) (style : Style) (g : Grid) :
    String.join ((drawing o s w style g).map Event.stdout) = shown style s.symbol w.out g := by
  unfold drawing shown
  cases style <;> cases o.summary <;> simp [Event.stdout]

/-! ## Painting -/

theorem ending_paintSession (o : RunOptions) (s : Settings) (w : World) (style : Style)
    (session : Session) :
    (paintSession o s w style session).ending = endingOf session.paint := by
  rw [paintSession, ending_after]
  cases session.paint with
  | ok g => rfl
  | error e => exact ending_fail w e

theorem stdout_paintSession (o : RunOptions) (s : Settings) (w : World) (style : Style)
    (session : Session) :
    (paintSession o s w style session).stdout =
      shownOf style s.symbol w.out session.paint := by
  rw [paintSession, stdout_after (quiet_logged _ _)]
  cases session.paint with
  | ok g => exact stdout_drawing o s w style g
  | error e => exact stdout_fail w e

/-- A session whose painting fails ends with the failure. -/
theorem endsWith_paintSession (o : RunOptions) (s : Settings) (style : Style) {session : Session}
    (h : session.paint = .error e) : EndsWith w (paintSession o s w style session) e := by
  rw [paintSession, h]
  exact (endsWith_fail w e).after (quiet_logged _ _)

/-- The prompts for the lines that were asked for show nothing on the standard output. -/
theorem quiet_asked (o : RunOptions) (s : Settings) (w : World) (reading : Session.Reading) :
    Quiet (if isPrompting o s w then (prompts.take reading.asked).map .prompt else []) := by
  split
  · exact quiet_prompts _
  · exact quiet_nil

/-- The painting of the session that a supply of lines describes. -/
def painting (limit : Int) (supply : Supply) : Except Failure Grid :=
  (Session.converse limit supply).outcome >>= Session.paint

/-- **How a run ends is decided by what comes of its painting.** -/
theorem ending_runDisplay (hinput : inputOf? o w = some supply)
    (hstyle : chosenStyle o s = .ok style) :
    (runDisplay o s w).ending = endingOf (painting s.maxDimension supply) := by
  simp only [runDisplay, hinput, hstyle, ending_after, painting]
  cases (Session.converse s.maxDimension supply).outcome with
  | ok session => exact ending_paintSession o s w style session
  | error e => exact ending_fail w e

/-- **What a run shows is decided by what comes of its painting.** -/
theorem stdout_runDisplay (hinput : inputOf? o w = some supply)
    (hstyle : chosenStyle o s = .ok style) :
    (runDisplay o s w).stdout =
      shownOf style s.symbol w.out (painting s.maxDimension supply) := by
  have hquiet := quiet_asked o s w (Session.converse s.maxDimension supply)
  simp only [runDisplay, hinput, hstyle, stdout_after hquiet, painting]
  cases (Session.converse s.maxDimension supply).outcome with
  | ok session => exact stdout_paintSession o s w style session
  | error e => exact stdout_fail w e

/-- A run whose painting fails ends with the failure. -/
theorem endsWith_runDisplay (hinput : inputOf? o w = some supply)
    (hstyle : chosenStyle o s = .ok style) (h : painting s.maxDimension supply = .error e) :
    EndsWith w (runDisplay o s w) e := by
  -- What comes before is quiet; the failure is that of the dialogue or that of the painting.
  simp only [runDisplay, hinput, hstyle]
  refine EndsWith.after ?_ (quiet_asked o s w _)
  rcases bind_eq_error_iff.mp h with hread | ⟨session, hread, hpaint⟩
  · rw [hread]
    exact endsWith_fail w e
  · rw [hread]
    exact endsWith_paintSession o s style hpaint

/-- A run that ends with a fault tells of it last on the error output. -/
theorem stderr_runDisplay (hinput : inputOf? o w = some supply)
    (hstyle : chosenStyle o s = .ok style)
    (h : painting s.maxDimension supply = .error (.fault f)) (stamp : String) :
    ∃ before, (runDisplay o s w).stderr w.err stamp =
      before ++ diagnostic w.err stamp f :=
  (endsWith_runDisplay hinput hstyle h).stderr_eq stamp

/-! ## Styles -/

/-- The style that a run draws in: the one it names, or that of the settings where it names none or
leaves the name empty. -/
inductive Draws (o : RunOptions) (s : Settings) : Style → Prop
  | named {style : Style} : o.style = some style.name → Draws o s style
  | unnamed : o.style = none → Draws o s s.style
  | empty : o.style = some "" → Draws o s s.style

theorem chosenStyle_of_draws (h : Draws o s style) : chosenStyle o s = .ok style := by
  cases h with
  | named hname =>
    rw [chosenStyle, hname]
    cases style <;> rfl
  | unnamed hname => rw [chosenStyle, hname]
  | empty hname =>
    rw [chosenStyle, hname]
    rfl

theorem chosenStyle_of_unknown {name : String} (hname : o.style = some name) (hempty : name ≠ "")
    (hplain : name ≠ "plain") (hcolor : name ≠ "color") : chosenStyle o s = .error name := by
  have hnonempty : ¬ name.isEmpty := by simpa using hempty
  rw [chosenStyle, hname]
  simp [hnonempty, Style.ofName?, hplain, hcolor]

/-- A name that is no style is told on the error output, and nothing else happens. -/
theorem runDisplay_of_unknown {name : String} (hinput : inputOf? o w = some supply)
    (hstyle : chosenStyle o s = .error name) :
    runDisplay o s w =
      ⟨[.err (s!"Unknown style: {String.ofList (dropEscapes 0 name.toList)}\n")], .exit 2⟩ := by
  simp only [runDisplay, hinput, hstyle]

/-! ## The picture of the standard input -/

/-- A painting of these lines is written as their picture. -/
theorem picture_eq_map_painting (limit : Int) (lines : List String) :
    picture limit lines = (painting limit { lines }).map Grid.render := by
  rw [picture, painting, Session.read]
  cases (Session.converse limit { lines }).outcome with
  | error e => rfl
  | ok session => cases session.paint <;> rfl

/-- **A run shows the picture of its input.** Let `lines` be the standard input cut after each line
feed, once every line break is one. Where there is a picture, the program ends well, and the plain
style shows the picture and a line feed. A fault ends the program with status 1, nothing on the
standard output, and what tells of it last on the error output. A style that is none ends it with
status 2, whatever the input. -/
theorem start_shows_picture {arguments : List String} {text : String} {lines : List String}
    (hrequest : Request.ofArguments? arguments = some (.run o)) (hstdin : o.input = none)
    (htext : w.input = .ofText text)
    (hlines : Text.Cut (Text.unifyBreaks text.toList) (lines.map String.toList)) :
    let t := start arguments s w
    (∀ style, Draws o s style →
      (∀ r, picture s.maxDimension lines = .ok r →
        t.ending = .exit 0 ∧ (style = .plain → t.stdout = r ++ "\n")) ∧
      (∀ f, picture s.maxDimension lines = .error (.fault f) →
        t.ending = .exit 1 ∧ t.stdout = "" ∧
          ∀ stamp, ∃ before, t.stderr w.err stamp = before ++ diagnostic w.err stamp f) ∧
      (∀ e, picture s.maxDimension lines = .error e → e.fault? = none →
        t.ending = .uncaught e ∧ t.stdout = "")) ∧
    (∀ name, o.style = some name → name ≠ "" → name ≠ "plain" → name ≠ "color" →
      t.ending = .exit 2 ∧ t.stdout = "") := by
  -- The standard input supplies these lines and has no defect, so the run paints what they
  -- describe.
  have hsupply : inputOf? o w = some { lines } := by
    rw [inputOf?, hstdin, htext, Supply.ofText, Text.lines_eq_iff.mpr hlines]
  intro t
  have ht : t = runDisplay o s w := by
    simp only [t, start, hrequest]
  rw [ht]
  refine ⟨fun style hdraws => ?_, fun name hname hempty hplain hcolor => ?_⟩
  · have hstyle := chosenStyle_of_draws hdraws
    have hending := ending_runDisplay hsupply hstyle
    have hstdout := stdout_runDisplay hsupply hstyle
    rw [picture_eq_map_painting]
    refine ⟨fun r hr => ?_, fun f hf => ?_, fun e he hnone => ?_⟩
    · obtain ⟨g, hg, rfl⟩ := map_eq_ok_iff.mp hr
      rw [hg] at hending hstdout
      refine ⟨hending, ?_⟩
      rintro rfl
      exact hstdout
    · have hpainting := map_eq_error_iff.mp hf
      rw [hpainting] at hending hstdout
      exact ⟨hending, hstdout, stderr_runDisplay hsupply hstyle hpainting⟩
    · rw [map_eq_error_iff.mp he] at hending hstdout
      refine ⟨hending.trans ?_, hstdout⟩
      rw [endingOf, endingOfFailure, hnone]
  · have hstyle : chosenStyle o s = .error name :=
      chosenStyle_of_unknown hname hempty hplain hcolor
    rw [runDisplay_of_unknown hsupply hstyle]
    exact ⟨rfl, rfl⟩

/-- A text with three kinds of line breaks and no last one, shown in the style of the settings
because the option leaves it empty. -/
theorem start_shows_picture_mixed_breaks :
    let arguments := ["run", "--style=", "--summary", "-v"]
    let o : RunOptions := { style := some "", summary := true, verbose := true }
    let text := "2 1\r\n3\r1 1 0 2 1"
    let lines := ["2 1\n", "3\n", "1 1 0 2 1"]
    let w : World := { input := .ofText text, interactive := true }
    Request.ofArguments? arguments = some (.run o) ∧ o.input = none ∧ w.input = .ofText text ∧
      Text.Cut (Text.unifyBreaks text.toList) (lines.map String.toList) ∧
      (start arguments Settings.default w).ending = .exit 0 ∧
      (start arguments Settings.default w).stdout = "3 1\n" := by
  intro arguments o text lines w
  have hrequest : Request.ofArguments? arguments = some (.run o) := by decide +kernel
  have htext : w.input = .ofText text := rfl
  have hlines : Text.Cut (Text.unifyBreaks text.toList) (lines.map String.toList) :=
    Text.lines_eq_iff.mp (by decide +kernel)
  have hpicture : picture Settings.default.maxDimension lines = .ok "3 1" := by decide +kernel
  obtain ⟨hshows, -⟩ := start_shows_picture (s := Settings.default) hrequest rfl htext hlines
  have hdraws : Draws o Settings.default .plain := .empty rfl
  have hrun := hshows .plain hdraws
  obtain ⟨hending, hstdout⟩ := hrun.1 _ hpicture
  exact ⟨hrequest, rfl, htext, hlines, hending, hstdout rfl⟩

end Mosaic.CommandLine
