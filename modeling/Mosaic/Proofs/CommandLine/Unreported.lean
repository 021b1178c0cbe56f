import Mosaic.Proofs.CommandLine.Display
import Mosaic.Proofs.Pipeline

/-!
# Failures that are not reported

A command settles when it ends with a status, and a fault always settles it. What is no fault stops
it without a report. Painting has faults only, so such a failure comes from reading: where no check
before it fails, it is a numeral too long to be read, or a size above a limit too long to be written
(`picture_unreported_iff`); or it is a file that is no text. The settings have no limit below zero,
so everything else that a command may be given settles it (`settled_or_unreported`).
-/

namespace Mosaic

open Numeral

variable {limit : Int} {lines : List String} {supply : Supply} {e : Failure} {f : Fault}

theorem Failure.fault?_eq_some_iff : e.fault? = some f ↔ e = .fault f := by
  cases e <;> simp [Failure.fault?]

/-! ## Reading -/

/-- What spoils a line without a fault is a numeral that is too long. -/
theorem Numeral.Spoiled.exists_overlong {line : String} (h : Spoiled line e)
    (he : e.fault? = none) : ∃ n, e = .overlongNumeral n := by
  obtain ⟨_, _, _, _, _, hrefused⟩ := h
  cases hrefused with
  | notNumeral => cases he
  | overlong => exact ⟨_, rfl⟩

namespace Session.Fails

variable {k : Check}

/-- A check that fails without a fault has met a numeral that is too long, or it is that of the
limit and the limit cannot be told. -/
theorem cases_of_unreported (h : Fails limit lines k e) (he : e.fault? = none) :
    (∃ n, e = .overlongNumeral n) ∨ k = .sizeLimit ∧ e = .overlongNumber := by
  cases h with
  | sizeNumerals _ hspoiled | colorNumerals _ hspoiled | streamNumerals _ hspoiled =>
    exact .inl (hspoiled.exists_overlong he)
  | @sizeLimit _ width height _ _ _ =>
    refine .inr ⟨rfl, ?_⟩
    by_cases htellable : (Fault.invalidDimensions width height (some limit)).IsTellable
    · rw [Fault.raise_of_isTellable htellable] at he
      cases he
    · exact Fault.raise_of_not_isTellable htellable
  | _ => cases he

/-- Such a check looks at a line at hand. -/
theorem line_lt (h : Fails limit lines k e) (he : e.fault? = none) : k.line < lines.length := by
  cases h with
  | sizeNumerals hline | sizeLimit hline | colorNumerals hline | streamNumerals hline =>
    exact (List.getElem?_eq_some_iff.mp hline).1
  | _ => cases he

end Session.Fails

namespace CommandLine

open Terminal

variable {o : RunOptions} {settings : Settings} {w : World} {style : Style}

/-! ## Pictures -/

/-- The failures that stop a command without a report. The first check that fails meets a numeral
that is too long; or it is that of a limit which is too long to be written, and so far below zero;
or the bytes behind the lines at hand are no text, fewer than three lines are at hand, and no check
that looks at one of these is the first to fail. -/
inductive Unreported (limit : Int) (supply : Supply) : Failure → Prop
  | overlong {k : Session.Check} {n : Nat} :
    Session.FirstFails limit supply.lines k (.overlongNumeral n) →
      Unreported limit supply (.overlongNumeral n)
  | unwritable : limit ≤ -leastUnwritable →
    Session.FirstFails limit supply.lines .sizeLimit .overlongNumber →
      Unreported limit supply .overlongNumber
  | undecodable {d : Text.Defect} : supply.defect = some d → supply.lines.length < 3 →
    (∀ k e, Session.FirstFails limit supply.lines k e → supply.lines.length ≤ k.line) →
      Unreported limit supply (.undecodable d)

/-- Reading fails without a fault with these failures only. -/
theorem unreported_of_outcome (h : (Session.converse limit supply).outcome = .error e)
    (he : e.fault? = none) : Unreported limit supply e := by
  have hlines (hread : Session.read limit supply.lines = .error e) :
      Unreported limit supply e := by
    obtain ⟨k, hk⟩ := Session.read_eq_error_iff.mp hread
    rcases hk.1.cases_of_unreported he with ⟨n, rfl⟩ | ⟨rfl, rfl⟩
    · exact .overlong hk
    · exact .unwritable (Session.read_eq_overlongNumber_iff.mp hread).1 hk
  cases hdefect : supply.defect with
  | none =>
    obtain ⟨lines, defect⟩ := supply
    obtain rfl : defect = none := hdefect
    exact hlines h
  | some d =>
    -- The defect counts exactly if the dialogue asks for a line behind those at hand.
    by_cases henough : (Session.converse limit { lines := supply.lines }).asked ≤
        supply.lines.length
    · rw [Session.converse_of_enough henough] at h
      exact hlines h
    · have hmore := Nat.lt_of_not_le henough
      rw [Session.outcome_of_defect hdefect hmore] at h
      obtain rfl := Except.error.inj h
      -- At most three lines are asked for, and the first failing check, if any, asks for the one
      -- that is missing.
      refine .undecodable hdefect (Nat.lt_of_lt_of_le hmore (Session.asked_converse_le _ _))
        fun k e hk => ?_
      rw [Session.converse_of_firstFails hk] at hmore
      exact Nat.le_of_lt_succ hmore

/-- Reading fails with each of these failures. -/
theorem outcome_of_unreported (h : Unreported limit supply e) :
    (Session.converse limit supply).outcome = .error e := by
  -- The line that the first failing check looks at is at hand, so the defect behind does not count.
  have hfirst {k : Session.Check} {e : Failure} (hk : Session.FirstFails limit supply.lines k e)
      (he : e.fault? = none) : (Session.converse limit supply).outcome = .error e := by
    have hasked := Session.converse_of_firstFails hk
    rw [Session.converse_of_enough (by rw [hasked]; exact hk.1.line_lt he), hasked]
  cases h with
  | overlong hk => exact hfirst hk rfl
  | unwritable _ hk => exact hfirst hk rfl
  | undecodable hdefect hlength hbehind =>
    refine Session.outcome_of_defect hdefect ?_
    -- Either way the dialogue asks for more lines than there are: for all three, or up to the one
    -- that the failing check looks at.
    rcases Session.describes_or_firstFails limit supply.lines with ⟨s, hs⟩ | ⟨k, e, hk⟩
    · rw [Session.converse_of_describes hs]
      exact hlength
    · rw [Session.converse_of_firstFails hk]
      exact Nat.lt_succ_of_le (hbehind k e hk)

/-- Painting what a supply describes fails without a fault with exactly these failures. -/
theorem painting_unreported_iff :
    painting limit supply = .error e ∧ e.fault? = none ↔ Unreported limit supply e := by
  constructor
  · rintro ⟨h, he⟩
    rcases bind_eq_error_iff.mp h with hread | ⟨session, hread, hpaint⟩
    · exact unreported_of_outcome hread he
    · -- What was read can be painted but for faults, so the failure is not one of painting.
      obtain ⟨f, rfl⟩ := Session.exists_fault_of_paint hread hpaint
      cases he
  · intro h
    refine ⟨bind_eq_error_iff.mpr (.inl (outcome_of_unreported h)), ?_⟩
    cases h <;> rfl

/-- **A picture fails without a fault exactly for a numeral or a limit that is too long.** -/
theorem picture_unreported_iff :
    picture limit lines = .error e ∧ e.fault? = none ↔ Unreported limit { lines } e := by
  rw [picture_eq_map_painting, map_eq_error_iff, painting_unreported_iff]

/-- A limit of natural size can be told wherever a size is above it. -/
theorem not_unreported_overlongNumber {n : Nat} (supply : Supply) :
    ¬ Unreported n supply .overlongNumber := by
  rintro ⟨⟩
  have := leastUnwritable_pos
  omega

/-! ## Commands -/

/-- A command that ends with a status: its work is done, or a fault is told. -/
inductive Settled (screen : Screen) (t : Transcript) : Prop
  | done : t.ending = .exit 0 → Settled screen t
  | faulted (f : Fault) : t.ending = .exit 1 → t.stdout = "" →
    (∀ stamp, ∃ before after,
      t.stderr screen stamp = before ++ (f.kind ++ ": " ++ f.message) ++ after) →
      Settled screen t

/-- A command that settles, but that these failures stop, each where it occurs. -/
structure SettledBut (stops : Failure → Prop) (screen : Screen) (t : Transcript) : Prop where
  uncaught_iff : ∀ e, t.ending = .uncaught e ↔ stops e
  settled : (∀ e, ¬ stops e) → Settled screen t

theorem endingOf_eq_uncaught_iff {α : Type} {r : Except Failure α} :
    endingOf r = .uncaught e ↔ r = .error e ∧ e.fault? = none := by
  cases r with
  | ok a => simp [endingOf]
  | error e' =>
    rw [endingOf, endingOfFailure]
    cases hfault : e'.fault? with
    | some f =>
      constructor
      · intro h
        cases h
      · rintro ⟨h, hnone⟩
        obtain rfl := Except.error.inj h
        cases hfault.symm.trans hnone
    | none =>
      constructor
      · intro h
        obtain rfl := Ending.uncaught.inj h
        exact ⟨rfl, hfault⟩
      · rintro ⟨h, -⟩
        rw [Except.error.inj h]

/-- A command settles but for the failures of its work that are no faults, if it ends as its work
does and tells of a fault last. -/
theorem settledBut_of_ending {α : Type} {r : Except Failure α} {stops : Failure → Prop}
    {screen : Screen} {t : Transcript} (hending : t.ending = endingOf r)
    (hfault : ∀ f, r = .error (.fault f) → t.stdout = "" ∧
      ∀ stamp, ∃ before, t.stderr screen stamp = before ++ diagnostic screen stamp f)
    (hstops : ∀ e, r = .error e ∧ e.fault? = none ↔ stops e) : SettledBut stops screen t where
  uncaught_iff e := by rw [hending, endingOf_eq_uncaught_iff, hstops]
  settled hnone := by
    cases r with
    | ok a => exact .done hending
    | error e =>
      cases he : e.fault? with
      | none => exact absurd ((hstops e).mp ⟨rfl, he⟩) (hnone e)
      | some f =>
        obtain rfl := Failure.fault?_eq_some_iff.mp he
        obtain ⟨hstdout, hstderr⟩ := hfault f rfl
        refine .faulted f hending hstdout fun stamp => ?_
        obtain ⟨before, hbefore⟩ := hstderr stamp
        obtain ⟨front, after, hnames⟩ := diagnostic_names screen stamp f
        refine ⟨before ++ front, after, ?_⟩
        rw [hbefore, hnames]
        simp only [String.append_assoc]

/-- A run in a known style settles but for failures that are not reported. -/
theorem settledBut_runDisplay (hinput : inputOf? o w = some supply)
    (hstyle : chosenStyle o settings = .ok style) :
    SettledBut (Unreported settings.maxDimension supply) w.err (runDisplay o settings w) := by
  refine settledBut_of_ending (ending_runDisplay hinput hstyle) (fun f hf => ?_)
    fun e => painting_unreported_iff
  refine ⟨?_, stderr_runDisplay hinput hstyle hf⟩
  rw [stdout_runDisplay hinput hstyle, hf]
  rfl

/-- The queue that tokens make up. -/
def listed (tokens : List String) : Except Failure (List Command) := do
  let stream ← Session.readStream (" ".intercalate tokens)
  Command.parse true (stream.map Int.ofNat)

theorem ending_listCommands (tokens : List String) (verbose : Bool) (w : World) :
    (listCommands tokens verbose w).ending = endingOf (listed tokens) := by
  unfold listCommands listed
  cases Session.readStream (" ".intercalate tokens) with
  | error e => exact ending_fail w e
  | ok stream =>
    dsimp only [bind, Except.bind, Command.parse]
    cases (Command.decode true (stream.map Int.ofNat)).toExcept with
    | ok cs => rfl
    | error e => exact ending_fail w e

/-- Where the tokens make up no queue, listing them ends with the failure. -/
theorem endsWith_listCommands {tokens : List String} (verbose : Bool) (w : World)
    (h : listed tokens = .error e) : EndsWith w (listCommands tokens verbose w) e := by
  unfold listCommands
  rcases bind_eq_error_iff.mp h with hread | ⟨stream, hread, hdecode⟩
  · rw [hread]
    exact endsWith_fail w e
  · rw [hread]
    dsimp only
    refine EndsWith.after ?_ (quiet_logged _ _)
    rw [show (Command.decode true _).toExcept = .error e from hdecode]
    exact endsWith_fail w e

/-- A fault of the tokens is told, and nothing is shown. -/
theorem outputs_listCommands {tokens : List String} (verbose : Bool)
    (h : listed tokens = .error (.fault f)) :
    (listCommands tokens verbose w).stdout = "" ∧ ∀ stamp, ∃ before,
      (listCommands tokens verbose w).stderr w.err stamp =
        before ++ diagnostic w.err stamp f :=
  have hends := endsWith_listCommands verbose w h
  ⟨hends.stdout_eq, hends.stderr_eq⟩

/-- The tokens fail without a fault exactly for a numeral that is too long. -/
theorem listed_unreported_iff {tokens : List String} :
    listed tokens = .error e ∧ e.fault? = none ↔
      ∃ n, e = .overlongNumeral n ∧ Spoiled (" ".intercalate tokens) e := by
  constructor
  · rintro ⟨h, he⟩
    rcases bind_eq_error_iff.mp h with hread | ⟨stream, hread, hparse⟩
    · have hspoiled := parseAll_eq_error_iff.mp hread
      obtain ⟨n, rfl⟩ := hspoiled.exists_overlong he
      exact ⟨n, rfl, hspoiled⟩
    · -- The numbers were read, so they can be written, and what is wrong with them told.
      have hwritable : ∀ n ∈ stream.map Int.ofNat, IsWritable n := by
        intro n hn
        obtain ⟨k, hk, rfl⟩ := List.mem_map.mp hn
        exact (parseAll_eq_ok_iff.mp hread).isWritable hk
      obtain ⟨f, rfl⟩ := Command.exists_fault_of_error hparse hwritable
      cases he
  · rintro ⟨n, rfl, hspoiled⟩
    exact ⟨bind_eq_error_iff.mpr (.inl (parseAll_eq_error_iff.mpr hspoiled)), rfl⟩

/-- **Every failure is reported but for numbers that are too long and files that are no text.** A
picture fails without a fault exactly where the first failing check meets a numeral that is too long
to be read, or refuses a size for a limit that is too long to be written. A run whose input is there
says that its style is none, or it settles but for numerals that are too long and files that are no
text, and listing a queue settles but for such numerals. -/
theorem settled_or_unreported (limit : Int) (lines arguments : List String) (settings : Settings)
    (w : World) :
    (∀ e, picture limit lines = .error e ∧ e.fault? = none ↔ Unreported limit { lines } e) ∧
    (∀ o supply, Request.ofArguments? arguments = some (.run o) → inputOf? o w = some supply →
      match chosenStyle o settings with
      | .error name => start arguments settings w =
        ⟨[.err (s!"Unknown style: {String.ofList (dropEscapes 0 name.toList)}\n")], .exit 2⟩
      | .ok _ => ¬ Unreported settings.maxDimension supply .overlongNumber ∧
        SettledBut (Unreported settings.maxDimension supply) w.err (start arguments settings w)) ∧
    (∀ tokens verbose, Request.ofArguments? arguments = some (.parse tokens verbose) →
      SettledBut (fun e => ∃ n, e = .overlongNumeral n ∧ Spoiled (" ".intercalate tokens) e)
        w.err (start arguments settings w)) := by
  refine ⟨fun e => picture_unreported_iff, fun o supply hrequest hinput => ?_,
    fun tokens verbose hrequest => ?_⟩
  · simp only [start, hrequest]
    cases hstyle : chosenStyle o settings with
    | error name => exact runDisplay_of_unknown hinput hstyle
    | ok style => exact ⟨not_unreported_overlongNumber supply, settledBut_runDisplay hinput hstyle⟩
  · simp only [start, hrequest]
    exact settledBut_of_ending (ending_listCommands tokens verbose w)
      (fun f hf => outputs_listCommands verbose hf) fun e => listed_unreported_iff

/-- A width with one digit too many is not reported, and neither is a file of one stray byte. -/
theorem unreported_width_and_file :
    let digits := List.replicate 4301 '1'
    let lines := [String.ofList (digits ++ [' ', '4']), "1"]
    let w : World := { input := { lines := [] }, files := [("in.txt", ⟨#[0xff]⟩)] }
    picture 1024 lines = .error (.overlongNumeral 4301) ∧
      (start ["run", "-i", "in.txt"] Settings.default w).ending =
        .uncaught (.undecodable ⟨0, [0xff], .start⟩) := by
  intro digits lines w
  refine ⟨?_, by decide +kernel⟩
  have hdigit : ∀ c ∈ digits, c = '1' := fun c hc => List.eq_of_mem_replicate hc
  have hlength : digits.length = 4301 := List.length_replicate
  have hne : digits ≠ [] := List.ne_nil_of_length_pos (by omega)
  have hspaced : Text.Spaced (digits ++ [' ', '4']) [digits, ['4']] := by
    have hfour : Text.Spaced [' ', '4'] [['4']] :=
      .blank rfl (.word (w := ['4']) (by simp) (by simp [Text.isBlank]) (by simp) .nil)
    refine .word hne (fun c hc => ?_) (by simp [Text.isBlank]) hfour
    rw [hdigit c hc]
    decide
  have hrefused : Refused digits (.overlongNumeral 4301) := by
    have hnumeral : IsNumeral digits := by
      refine ⟨hne, fun c hc => ?_⟩
      rw [hdigit c hc]
      rfl
    exact hlength ▸ .overlong hnumeral (by rw [hlength]; decide)
  have hcount : Counts (String.ofList (digits ++ [' ', '4'])) 2 :=
    ⟨_, by rwa [String.toList_ofList], rfl⟩
  have hspoiled : Spoiled (String.ofList (digits ++ [' ', '4'])) (.overlongNumeral 4301) :=
    ⟨[], digits, [['4']], by rwa [String.toList_ofList], by simp, hrefused⟩
  have hsize : Session.askSize 1024 { lines } = .error (.overlongNumeral 4301) :=
    (Session.askSize_of_line rfl).trans (Session.readSize_of_spoiled hcount hspoiled)
  rw [picture, Session.read, Session.converse_of_size_error hsize]
  rfl

end CommandLine

end Mosaic
