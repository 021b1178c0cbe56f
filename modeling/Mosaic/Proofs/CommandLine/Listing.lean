import Mosaic.Proofs.CommandLine.Delivery
import Mosaic.Proofs.CommandLine.Unreported
import Mosaic.Proofs.Pipeline
import Mosaic.Proofs.Report

/-!
# Listing a queue and running it

A command stream reaches the program by two ways: as arguments, to be listed, or on the third line
of an input, to be run. On both ways only its tokens count. Arguments are put together with a space
between any two, which neither joins tokens nor cuts them, and a line is cut at its blanks, the line
break among them. So with a size and a colour in front, the queue of a run is the queue that is
listed, or the failure of one is the failure of the other (`queued_eq_listed`). What a run can meet
beyond that is a move off its display (`listing_agrees_with_run`).
-/

namespace Mosaic

variable {limit : Int} {text size color stream : String} {width height : Nat} {c : Color}

namespace Session

/-! ## Only tokens count -/

theorem readSize_congr {line line' : String} (h : Text.tokens line = Text.tokens line') :
    readSize limit line = readSize limit line' := by
  unfold readSize
  rw [h]

theorem readColor_congr {line line' : String} (h : Text.tokens line = Text.tokens line') :
    readColor line = readColor line' := by
  unfold readColor
  rw [h]

theorem readStream_congr {line line' : String} (h : Text.tokens line = Text.tokens line') :
    readStream line = readStream line' := by
  rw [readStream, readStream, Numeral.parseAll, Numeral.parseAll, h]

/-- The line break at the end of a line is no part of a token. -/
theorem tokens_append_break (line : String) : Text.tokens (line ++ "\n") = Text.tokens line := by
  have hbreak : Text.isBlank '\n' := rfl
  rw [Text.tokens, String.toList_append]
  exact congrArg _ (Text.words_concat_of_isBlank hbreak line.toList)

/-! ## Behind a size and a colour -/

/-- A missing stream line is read as an empty one. -/
theorem askStream_ofLines (lines : List String) :
    askStream { lines } = readStream (lines[2]?.getD "") := by
  rw [askStream, line_ofLines]
  rfl

/-- Where the first two lines hold a size and a colour, the third decides what is read. -/
theorem converse_of_firstLines (hlines : Text.FirstLines text size color stream)
    (hsize : readSize limit size = .ok (width, height)) (hcolor : readColor color = .ok c) :
    converse limit (.ofText text) =
      ⟨3, (readStream stream).map fun numbers => ⟨width, height, c, numbers⟩⟩ := by
  obtain ⟨rest, hall, hthird⟩ := hlines.exists_lines
  have htokens : Text.tokens (rest.head?.getD "") = Text.tokens stream := by
    rcases hthird with h | h
    · rw [h]
    · rw [h, tokens_append_break]
  rw [Supply.ofText, hall]
  -- The line breaks at the ends of the first two lines are no part of their tokens.
  have hask : askSize limit { lines := (size ++ "\n") :: (color ++ "\n") :: rest } =
      .ok (width, height) := by
    rw [askSize_of_line rfl, readSize_congr (tokens_append_break size), hsize]
  have hask' : askColor { lines := (size ++ "\n") :: (color ++ "\n") :: rest } = .ok c := by
    rw [askColor_of_line rfl, readColor_congr (tokens_append_break color), hcolor]
  rw [converse_of_color hask hask', askStream_ofLines, ← readStream_congr htokens]
  cases rest <;> rfl

end Session

namespace CommandLine

variable {o : RunOptions} {s : Settings} {w w' : World} {style : Style} {tokens : List String}
  {cs : List Command} {e : Failure}

/-! ## The queue of a run -/

/-- The queue that a run is going to execute. -/
def queued (limit : Int) (supply : Supply) : Except Failure (List Command) := do
  let session ← (Session.converse limit supply).outcome
  Command.parse true session.wire

/-- **The queue of a run is the queue that is listed**, if the third line holds the tokens of the
arguments. Where there is none, both fail with one failure. -/
theorem queued_eq_listed (hlines : Text.FirstLines text size color stream)
    (hsize : Session.readSize limit size = .ok (width, height))
    (hcolor : Session.readColor color = .ok c)
    (htokens : Text.tokens stream = tokens.flatMap Text.tokens) :
    queued limit (.ofText text) = listed tokens := by
  -- The line and the joined arguments have the same tokens, so both are read alike.
  have hjoined : Text.tokens stream = Text.tokens (" ".intercalate tokens) :=
    htokens.trans (Text.tokens_intercalate tokens).symm
  rw [queued, listed, Session.converse_of_firstLines hlines hsize hcolor,
    ← Session.readStream_congr hjoined]
  cases Session.readStream stream <;> rfl

/-- A run that has no queue fails as reading the queue does. -/
theorem painting_of_queued_error (h : queued limit (.ofText text) = .error e) :
    painting limit (.ofText text) = .error e := by
  -- Either the session was not read, or its stream makes up no queue; a run meets the same.
  rcases bind_eq_error_iff.mp h with hread | ⟨session, hread, hqueue⟩
  · exact bind_eq_error_iff.mpr (.inl hread)
  · obtain ⟨m, hm, -⟩ := Session.create_of_outcome hread
    exact bind_eq_error_iff.mpr (.inr ⟨session, hread, Session.paint_of_parse_error hm hqueue⟩)

/-- A run that has a queue has its display too. It paints what the queue does there, and nothing
but a move off the display stops it. -/
theorem painting_of_queued (hlines : Text.FirstLines text size color stream)
    (hsize : Session.readSize limit size = .ok (width, height))
    (hcolor : Session.readColor color = .ok c) (h : queued limit (.ofText text) = .ok cs) :
    ∃ m, Machine.create width height c.code = .ok m ∧
      painting limit (.ofText text) =
        (m.runQueue cs).outcome.map (fun () => (m.runQueue cs).machine.grid) ∧
      ((m.runQueue cs).outcome = .ok () ∨ ∃ p,
        (m.runQueue cs).outcome = .error (.fault (.cursorOutOfBounds p width height))) := by
  obtain ⟨session, hread, hqueue⟩ := bind_eq_ok_iff.mp h
  have hsession := hread
  rw [Session.converse_of_firstLines hlines hsize hcolor] at hsession
  obtain ⟨numbers, -, rfl⟩ := map_eq_ok_iff.mp hsession
  obtain ⟨m, hm, -⟩ := Session.create_of_outcome hread
  refine ⟨m, hm, ?_, ?_⟩
  · rw [painting, hread]
    exact Session.paint_of_parse_ok hm hqueue
  · have hrun := Session.outcome_runQueue_of_parse hread hm hqueue
    split at hrun
    · exact .inr ⟨_, hrun⟩
    · exact .inl hrun

/-! ## The queue of the arguments -/

/-- Listing depends on the tokens of the arguments, and not on how they are grouped. -/
theorem listCommands_congr {tokens tokens' : List String}
    (h : tokens.flatMap Text.tokens = tokens'.flatMap Text.tokens) (verbose : Bool) (w : World) :
    listCommands tokens verbose w = listCommands tokens' verbose w := by
  have hjoined : Text.tokens (" ".intercalate tokens) = Text.tokens (" ".intercalate tokens') := by
    rw [Text.tokens_intercalate, Text.tokens_intercalate, h]
  rw [listCommands, listCommands, Session.readStream_congr hjoined]

/-- A queue is listed on the standard output, and nothing else is shown there. -/
theorem stdout_listCommands (verbose : Bool) (w : World) (h : listed tokens = .ok cs) :
    (listCommands tokens verbose w).stdout =
      w.out.write (Report.commands w.out.columns cs) := by
  obtain ⟨numbers, hread, hdecode⟩ := bind_eq_ok_iff.mp h
  unfold listCommands
  rw [hread]
  dsimp only
  rw [Command.parse] at hdecode
  rw [stdout_after (quiet_logged _ _), hdecode]
  simp [Transcript.stdout, Event.stdout]

/-- **Listing a queue and running it agree.** Let the first two lines of a text hold a size and a
colour, and its third line the tokens of some arguments. Where listing these arguments ends with a
failure, a run of the text ends with the same one. Where they make up a queue, its commands are
listed on the standard output, each with its number, its name and its description, and the run
executes this queue and ends well or with a move off the display. Arguments of the same tokens,
however grouped, are listed alike. -/
theorem listing_agrees_with_run {arguments arguments' : List String} {verbose : Bool}
    (hlist : Request.ofArguments? arguments = some (.parse tokens verbose))
    (hrun : Request.ofArguments? arguments' = some (.run o)) (hdraws : Draws o s style)
    (htext : Delivers o w' text) (hlines : Text.FirstLines text size color stream)
    (hsize : Session.readSize s.maxDimension size = .ok (width, height))
    (hcolor : Session.readColor color = .ok c)
    (htokens : Text.tokens stream = tokens.flatMap Text.tokens) (s₀ : Settings) (w : World) :
    let t := start arguments s₀ w
    let t' := start arguments' s w'
    queued s.maxDimension (.ofText text) = listed tokens ∧
    (∀ e, listed tokens = .error e → EndsWith w t e ∧ EndsWith w' t' e) ∧
    (∀ cs, listed tokens = .ok cs →
      t.ending = .exit 0 ∧ Report.Lists w.out cs t.stdout ∧
      ∃ m, Machine.create width height c.code = .ok m ∧
        ((m.runQueue cs).outcome = .ok () ∧ t'.ending = .exit 0 ∧
            t'.stdout = shown style s.symbol w'.out (m.runQueue cs).machine.grid ∨
          ∃ p, (m.runQueue cs).outcome = .error (.fault (.cursorOutOfBounds p width height)) ∧
            EndsWith w' t' (.fault (.cursorOutOfBounds p width height)))) ∧
    (∀ regrouped tokens', Request.ofArguments? regrouped = some (.parse tokens' verbose) →
      tokens'.flatMap Text.tokens = tokens.flatMap Text.tokens → start regrouped s₀ w = t) := by
  intro t t'
  have ht : t = listCommands tokens verbose w := by
    simp only [t, start, hlist]
  have ht' : t' = runDisplay o s w' := by
    simp only [t', start, hrun]
  have hinput := inputOf?_of_delivers htext
  have hstyle := chosenStyle_of_draws hdraws
  have hqueued := queued_eq_listed hlines hsize hcolor htokens
  rw [ht, ht']
  refine ⟨hqueued, fun e he => ?_, fun cs hcs => ?_, fun regrouped tokens' hrequest hsame => ?_⟩
  · have hpainting := painting_of_queued_error (hqueued.trans he)
    exact ⟨endsWith_listCommands verbose w he, endsWith_runDisplay hinput hstyle hpainting⟩
  · have hending := ending_listCommands tokens verbose w
    rw [hcs] at hending
    have hlists : Report.Lists w.out cs (listCommands tokens verbose w).stdout := by
      rw [stdout_listCommands verbose w hcs]
      exact Report.lists_commands w.out cs
    obtain ⟨m, hm, hpainting, hrun⟩ :=
      painting_of_queued hlines hsize hcolor (hqueued.trans hcs)
    refine ⟨hending, hlists, m, hm, ?_⟩
    -- The run has the queue, so only the display can still stop it.
    rcases hrun with hwell | ⟨p, hpast⟩
    · refine .inl ⟨hwell, ?_, ?_⟩
      · rw [ending_runDisplay hinput hstyle, hpainting, hwell]
        rfl
      · rw [stdout_runDisplay hinput hstyle, hpainting, hwell]
        rfl
    · rw [hpast] at hpainting
      exact .inr ⟨p, hpast, endsWith_runDisplay hinput hstyle hpainting⟩
  · simp only [start, hrequest]
    exact listCommands_congr hsame verbose w

/-- An unknown opcode behind two commands, in arguments of several tokens and of none, and on the
last line of a file. -/
theorem listing_agrees_with_run_unknown_opcode :
    let arguments := ["parse", "1 0 0 2", "", "-v", " 3\t9 "]
    let arguments' := ["run", "--style", "color", "-i", "in.txt"]
    let o : RunOptions := { style := some "color", input := some "in.txt" }
    let text := "2 1" ++ "\n" ++ "3" ++ "\n" ++ "1 0\t0 2 3 9"
    let w : World := { input := { lines := [] } }
    let w' : World := { w with files := [("in.txt", text.toUTF8)] }
    let e : Failure := .fault (.invalidCommand 9 5)
    Request.ofArguments? arguments = some (.parse ["1 0 0 2", "", " 3\t9 "] true) ∧
      Request.ofArguments? arguments' = some (.run o) ∧ Delivers o w' text ∧
      EndsWith w (start arguments Settings.default w) e ∧
      EndsWith w' (start arguments' Settings.default w') e := by
  intro arguments arguments' o text w w' e
  have hlist : Request.ofArguments? arguments = some (.parse ["1 0 0 2", "", " 3\t9 "] true) := by
    decide +kernel
  have hrun : Request.ofArguments? arguments' = some (.run o) := by decide +kernel
  have htext : Delivers o w' text :=
    show w'.files.content? "in.txt" = some text.toUTF8 by decide +kernel
  have hlines : Text.FirstLines text "2 1" "3" "1 0\t0 2 3 9" :=
    Text.firstLines_of_unbroken (by decide) (by decide) (by decide)
  have hsize : Session.readSize Settings.default.maxDimension "2 1" = .ok (2, 1) := by
    decide +kernel
  have hcolor : Session.readColor "3" = .ok .cyan := by decide +kernel
  have htokens : Text.tokens "1 0\t0 2 3 9" = ["1 0 0 2", "", " 3\t9 "].flatMap Text.tokens := by
    decide +kernel
  have hlisted : listed ["1 0 0 2", "", " 3\t9 "] = .error e := by decide +kernel
  have hdraws : Draws o Settings.default .color := .named rfl
  obtain ⟨-, hfails, -⟩ := listing_agrees_with_run hlist hrun hdraws htext hlines hsize hcolor
    htokens Settings.default w
  exact ⟨hlist, hrun, htext, hfails e hlisted⟩

end CommandLine

end Mosaic
