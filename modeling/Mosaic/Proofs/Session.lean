import Mosaic.Proofs.Failure
import Mosaic.Proofs.Grid.Store
import Mosaic.Proofs.Numeral

/-!
# What lines describe a session

Lines are read as a session exactly if they describe it, and otherwise the first check that fails
decides the failure. Both follow from three facts: lines that describe a session are read as it,
lines with a first failing check are refused with its failure, and lines that pass all checks
describe some session. Nothing matters but the lines that are asked for (`converse_congr`): those up
to the one that the failing check looks at, or all three.
-/

namespace Mosaic.Session

open Numeral

variable {limit : Int} {line : String} {lines : List String} {n width height : Nat} {c : Color}
  {e : Failure} {k : Check} {s : Session} {supply supply' : Supply}

/-! ## The size line -/

/-- A size line without two words is refused for their number. -/
theorem readSize_of_counts (h : Counts line n) (hn : n ≠ 2) :
    readSize limit line = malformed (.sizeCount n) := by
  have hlength := counts_iff.mp h
  unfold readSize
  split
  · rename_i first second htokens
    rw [htokens] at hlength
    exact absurd hlength.symm hn
  · rw [hlength]

/-- Of two words the leftmost refused one decides, whatever the other is. -/
theorem readSize_of_spoiled (hcount : Counts line 2) (h : Spoiled line e) :
    readSize limit line = .error e := by
  obtain ⟨before, w, after, hspaced, hbefore, hw⟩ := h
  have htokens := Text.tokens_eq hspaced
  have hlength := counts_iff.mp hcount
  have hblank := fun v hv => (hspaced.word_of_mem (w := v) hv).2
  rw [htokens, List.length_map, List.length_append, List.length_cons] at hlength
  unfold readSize
  rw [htokens]
  -- Of two words the refused one is the first, or the second behind a number.
  match before, after with
  | [], [v] =>
    have hparse := parse_of_refused (hblank w (by simp)) hw
    simp only [List.nil_append, List.map_cons, List.map_nil, hparse]
    rfl
  | [b], [] =>
    obtain ⟨n, hn⟩ := hbefore b List.mem_cons_self
    have hfirst := parse_of_denotes (hblank b (by simp)) hn
    have hsecond := parse_of_refused (hblank w (by simp)) hw
    simp only [List.cons_append, List.nil_append, List.map_cons, List.map_nil, hfirst, hsecond]
    rfl
  | [], [] | [], _ :: _ :: _ | [_], _ :: _ | _ :: _ :: _, _ =>
    simp only [List.length_nil, List.length_cons] at hlength
    omega

/-- Two numbers are a size if neither is zero or past the limit; a zero counts first. -/
theorem readSize_of_writes (h : Writes line [width, height]) :
    readSize limit line =
      if width = 0 ∨ height = 0 then .error (.fault (.invalidDimensions width height none))
      else if limit < width ∨ limit < height then
        .error (Fault.invalidDimensions width height (some limit)).raise
      else .ok (width, height) := by
  obtain ⟨ws, hspaced, hall⟩ := h
  have hblank := fun v hv => (hspaced.word_of_mem (w := v) hv).2
  match ws, hall with
  | [v, w], .cons hv (.cons hw .nil) =>
    have hfirst := parse_of_denotes (hblank v (by simp)) hv
    have hsecond := parse_of_denotes (hblank w (by simp)) hw
    -- Sides that are read can be written, so a zero is always told.
    have hraise : (Fault.invalidDimensions width height none).raise = .fault _ :=
      Fault.raise_of_isTellable
        (Fault.isTellable_invalidDimensions.mpr ⟨hv.isWritable, hw.isWritable, nofun⟩)
    rw [← hraise]
    unfold readSize
    simp only [Text.tokens_eq hspaced, List.map_cons, List.map_nil, hfirst, hsecond]
    rfl

/-- **Exactly the sizes from one to the limit are read.** -/
theorem readSize_eq_ok_iff : readSize limit line = .ok (width, height) ↔
    Writes line [width, height] ∧ 1 ≤ width ∧ 1 ≤ height ∧ width ≤ limit ∧ height ≤ limit := by
  constructor
  · intro h
    by_cases hcount : Counts line 2
    · rcases writes_or_spoiled line with ⟨ns, hns⟩ | ⟨e, he⟩
      · have hlength : ns.length = 2 := (counts_iff.mp hns.counts).symm.trans (counts_iff.mp hcount)
        obtain ⟨w, v, rfl⟩ := List.length_eq_two.mp hlength
        rw [readSize_of_writes hns] at h
        split at h
        · cases h
        · split at h
          · cases h
          · cases h
            exact ⟨hns, by omega⟩
      · rw [readSize_of_spoiled hcount he] at h
        cases h
    · -- Any other number of words is refused before a word is looked at.
      have hne : (Text.tokens line).length ≠ 2 := fun htwo => hcount (counts_iff.mpr htwo)
      rw [readSize_of_counts (counts_iff.mpr rfl) hne] at h
      cases h
  · rintro ⟨hwrites, hwidth, hheight, hw, hh⟩
    rw [readSize_of_writes hwrites, if_neg (by omega), if_neg (by omega)]

/-! ## The colour line -/

/-- A colour line without exactly one word is refused for their number. -/
theorem readColor_of_counts (h : Counts line n) (hn : n ≠ 1) :
    readColor line = malformed (.colorCount n) := by
  have hlength := counts_iff.mp h
  unfold readColor
  split
  · rename_i token htokens
    rw [htokens] at hlength
    exact absurd hlength.symm hn
  · rw [hlength]

/-- A single refused word decides. -/
theorem readColor_of_spoiled (hcount : Counts line 1) (h : Spoiled line e) :
    readColor line = .error e := by
  obtain ⟨before, w, after, hspaced, -, hw⟩ := h
  have htokens := Text.tokens_eq hspaced
  have hlength := counts_iff.mp hcount
  rw [htokens, List.length_map, List.length_append, List.length_cons] at hlength
  obtain ⟨rfl, rfl⟩ : before = [] ∧ after = [] := by
    constructor <;> apply List.eq_nil_of_length_eq_zero <;> omega
  have hparse := parse_of_refused (hspaced.word_of_mem (w := w) (by simp)).2 hw
  unfold readColor
  simp only [htokens, List.nil_append, List.map_cons, List.map_nil, hparse]
  rfl

/-- A single number is a colour if it is the code of one. -/
theorem readColor_of_writes (h : Writes line [n]) : readColor line = Color.ofCode n := by
  obtain ⟨ws, hspaced, hall⟩ := h
  match ws, hall with
  | [w], .cons hw .nil =>
    have hparse := parse_of_denotes (hspaced.word_of_mem (w := w) (by simp)).2 hw
    unfold readColor
    simp only [Text.tokens_eq hspaced, List.map_cons, List.map_nil, hparse]
    rfl

/-! ## Asking for lines -/

/-- No more than three lines are asked for. -/
theorem asked_converse_le (limit : Int) (supply : Supply) : (converse limit supply).asked ≤ 3 := by
  unfold converse
  split
  · exact Nat.le_add_left 1 2
  · split
    · exact Nat.le_succ 2
    · exact Nat.le_refl 3

/-- Lines that are all there are supplied as they are. -/
theorem line_ofLines (lines : List String) (i : Nat) :
    ({ lines } : Supply).line i = .ok lines[i]? := by
  unfold Supply.line
  cases lines[i]? <;> rfl

theorem askSize_of_line (h : lines[0]? = some line) :
    askSize limit { lines } = readSize limit line := by
  rw [askSize, line_ofLines, h]
  rfl

theorem askColor_of_line (h : lines[1]? = some line) : askColor { lines } = readColor line := by
  rw [askColor, line_ofLines, h]
  rfl

theorem askStream_of_line (h : lines[2]? = some line) : askStream { lines } = parseAll line := by
  rw [askStream, line_ofLines, h]
  rfl

theorem converse_of_size_error (h : askSize limit supply = .error e) :
    converse limit supply = ⟨1, .error e⟩ := by
  simp only [converse, h]

/-- Behind a size the colour line decides. -/
theorem converse_of_color_error (hsize : askSize limit supply = .ok (width, height))
    (h : askColor supply = .error e) : converse limit supply = ⟨2, .error e⟩ := by
  simp only [converse, hsize, h]

/-- Behind a size and a colour the stream line decides. -/
theorem converse_of_color (hsize : askSize limit supply = .ok (width, height))
    (hcolor : askColor supply = .ok c) :
    converse limit supply =
      ⟨3, (askStream supply).map fun stream => ⟨width, height, c, stream⟩⟩ := by
  simp only [converse, hsize, hcolor]

/-- What is read comes from the three lines. -/
theorem asks_of_outcome (h : (converse limit supply).outcome = .ok s) :
    askSize limit supply = .ok (s.width, s.height) ∧ askColor supply = .ok s.color ∧
      askStream supply = .ok s.stream := by
  cases hsize : askSize limit supply with
  | error e =>
    rw [converse_of_size_error hsize] at h
    cases h
  | ok size =>
    cases hcolor : askColor supply with
    | error e =>
      rw [converse_of_color_error hsize hcolor] at h
      cases h
    | ok c =>
      rw [converse_of_color hsize hcolor] at h
      obtain ⟨stream, hstream, rfl⟩ := map_eq_ok_iff.mp h
      exact ⟨rfl, rfl, hstream⟩

/-- What comes of a session depends on the lines that are asked for only. -/
theorem converse_congr
    (h : ∀ i < (converse limit supply).asked, supply.line i = supply'.line i) :
    converse limit supply = converse limit supply' := by
  cases hsize : askSize limit supply with
  | error e =>
    rw [converse_of_size_error hsize] at h ⊢
    rw [askSize, h 0 (by simp)] at hsize
    exact (converse_of_size_error hsize).symm
  | ok size =>
    cases hcolor : askColor supply with
    | error e =>
      rw [converse_of_color_error hsize hcolor] at h ⊢
      rw [askSize, h 0 (by simp)] at hsize
      rw [askColor, h 1 (by simp)] at hcolor
      exact (converse_of_color_error hsize hcolor).symm
    | ok c =>
      rw [converse_of_color hsize hcolor] at h ⊢
      rw [askSize, h 0 (by simp)] at hsize
      rw [askColor, h 1 (by simp)] at hcolor
      rw [converse_of_color hsize hcolor, askStream, askStream, h 2 (by simp)]

/-! ## Supplies that break -/

/-- A line at hand is supplied as it is. -/
theorem line_of_lt {i : Nat} (h : i < supply.lines.length) :
    supply.line i = ({ lines := supply.lines } : Supply).line i := by
  simp only [Supply.line, List.getElem?_eq_getElem h]

/-- Behind the lines at hand a supply breaks with its defect. -/
theorem line_of_defect {i : Nat} {d : Text.Defect} (hdefect : supply.defect = some d)
    (h : supply.lines.length ≤ i) : supply.line i = .error (.undecodable d) := by
  simp only [Supply.line, List.getElem?_eq_none h, hdefect]

/-- A line that is asked for and breaks decides the failure. -/
theorem outcome_of_line_error {i : Nat} (h : supply.line i = .error e)
    (hi : i < (converse limit supply).asked) : (converse limit supply).outcome = .error e := by
  -- Whether the line is asked for depends on what the lines before it came to.
  have hle := asked_converse_le limit supply
  match i with
  | 0 =>
    have hsize : askSize limit supply = .error e := by
      rw [askSize, h]
      rfl
    rw [converse_of_size_error hsize]
  | 1 =>
    have hcolor : askColor supply = .error e := by
      rw [askColor, h]
      rfl
    cases hsize : askSize limit supply with
    | error e' =>
      rw [converse_of_size_error hsize] at hi
      exact absurd hi (Nat.lt_irrefl 1)
    | ok size => rw [converse_of_color_error hsize hcolor]
  | 2 =>
    have hstream : askStream supply = .error e := by
      rw [askStream, h]
      rfl
    cases hsize : askSize limit supply with
    | error e' =>
      rw [converse_of_size_error hsize] at hi
      exact absurd hi (by simp)
    | ok size =>
      cases hcolor : askColor supply with
      | error e' =>
        rw [converse_of_color_error hsize hcolor] at hi
        exact absurd hi (Nat.lt_irrefl 2)
      | ok c =>
        rw [converse_of_color hsize hcolor, hstream]
        rfl
  | i + 3 => omega

/-- Where the lines at hand are enough, nothing behind them matters. -/
theorem converse_of_enough
    (h : (converse limit { lines := supply.lines }).asked ≤ supply.lines.length) :
    converse limit supply = converse limit { lines := supply.lines } :=
  (converse_congr fun _ hi => (line_of_lt (Nat.lt_of_lt_of_le hi h)).symm).symm

/-- Where the lines at hand are not enough, a supply breaks with its defect. -/
theorem outcome_of_defect {d : Text.Defect} (hdefect : supply.defect = some d)
    (h : supply.lines.length < (converse limit { lines := supply.lines }).asked) :
    (converse limit supply).outcome = .error (.undecodable d) := by
  refine outcome_of_line_error (line_of_defect hdefect (Nat.le_refl _)) ?_
  -- If no more than the lines at hand were asked for, they would have been enough.
  by_contra hfew
  -- Both supplies would then give the same lines as far as they are asked.
  have hsame := converse_congr fun i (hi : i < (converse limit supply).asked) =>
    line_of_lt (Nat.lt_of_lt_of_le hi (Nat.le_of_not_lt hfew))
  rw [← hsame] at h
  exact hfew h

/-! ## Passed checks -/

/-- A line without a failed check for refused words, or for any other number of words than `m`, is
written as `m` numbers. -/
theorem writes_of_passed {m : Nat} (hcount : ∀ n, Counts line n → n = m)
    (hnumerals : ∀ e, ¬ Spoiled line e) : ∃ ns, ns.length = m ∧ Writes line ns := by
  rcases writes_or_spoiled line with ⟨ns, hns⟩ | ⟨e, he⟩
  · exact ⟨ns, hcount _ hns.counts, hns⟩
  · exact absurd he (hnumerals e)

/-- A line without a failed check for any other number of words than `m` has `m` words. -/
theorem counts_of_passed {m : Nat} (hcount : ∀ n, Counts line n → n = m) : Counts line m := by
  have hline := counts_iff.mpr (rfl : (Text.tokens line).length = _)
  exact hcount _ hline ▸ hline

/-- If no check of the size fails, the first line is written as a size. -/
theorem size_of_passed (h : ∀ j < Check.colorPresent, ∀ e, ¬ Fails limit lines j e) :
    ∃ line width height, lines[0]? = some line ∧ Writes line [width, height] ∧
      1 ≤ width ∧ 1 ≤ height ∧ width ≤ limit ∧ height ≤ limit := by
  have hpresent : ∃ line, lines[0]? = some line := Option.ne_none_iff_exists'.mp fun hnone =>
    h .sizePresent (by decide) _ (.sizePresent hnone)
  obtain ⟨line, hline⟩ := hpresent
  have hcount : ∀ n, Counts line n → n = 2 := fun n hn => by_contra fun hne =>
    h .sizeCount (by decide) _ (.sizeCount hline hn hne)
  have hnumerals : ∀ e, ¬ Spoiled line e := fun e he =>
    h .sizeNumerals (by decide) _ (.sizeNumerals hline he)
  obtain ⟨ns, hlength, hwrites⟩ := writes_of_passed hcount hnumerals
  obtain ⟨width, height, rfl⟩ := List.length_eq_two.mp hlength
  -- A zero and a side past the limit would each fail a check of its own.
  have hzero : ¬ (width = 0 ∨ height = 0) := fun hzero =>
    h .sizePositive (by decide) _ (.sizePositive hline hwrites hzero)
  have hpast : ¬ (limit < width ∨ limit < height) := fun hpast =>
    h .sizeLimit (by decide) _ (.sizeLimit hline hwrites hpast)
  refine ⟨line, width, height, hline, hwrites, ?_, ?_, ?_, ?_⟩ <;> omega

/-- If no check of the colour fails, the second line is written as a colour. -/
theorem color_of_passed (h : ∀ j < Check.streamNumerals, ∀ e, ¬ Fails limit lines j e) :
    ∃ line, ∃ c : Color, lines[1]? = some line ∧ Writes line [c.code] := by
  have hpresent : ∃ line, lines[1]? = some line := Option.ne_none_iff_exists'.mp fun hnone =>
    h .colorPresent (by decide) _ (.colorPresent hnone)
  obtain ⟨line, hline⟩ := hpresent
  have hcount : ∀ n, Counts line n → n = 1 := fun n hn => by_contra fun hne =>
    h .colorCount (by decide) _ (.colorCount hline hn hne)
  have hnumerals : ∀ e, ¬ Spoiled line e := fun e he =>
    h .colorNumerals (by decide) _ (.colorNumerals hline he)
  obtain ⟨ns, hlength, hwrites⟩ := writes_of_passed hcount hnumerals
  obtain ⟨n, rfl⟩ := List.length_eq_one_iff.mp hlength
  have hlegal : Color.IsLegal n := by_contra fun hillegal =>
    h .colorLegal (by decide) _ (.colorLegal hline hwrites hillegal)
  obtain ⟨c, hc⟩ := Option.isSome_iff_exists.mp hlegal
  have hcode : n = c.code := Int.ofNat.inj (Color.ofCode?_eq_some_iff.mp hc)
  exact ⟨line, c, hline, hcode ▸ hwrites⟩

theorem askSize_of_writes (hline : lines[0]? = some line) (hwrites : Writes line [width, height])
    (hwidth : 1 ≤ width) (hheight : 1 ≤ height) (hw : width ≤ limit) (hh : height ≤ limit) :
    askSize limit { lines } = .ok (width, height) := by
  rw [askSize_of_line hline, readSize_of_writes hwrites, if_neg (by omega), if_neg (by omega)]

theorem askColor_of_writes (hline : lines[1]? = some line) (hwrites : Writes line [c.code]) :
    askColor { lines } = .ok c := by
  rw [askColor_of_line hline, readColor_of_writes hwrites, Color.ofCode, Color.ofCode?_code]

/-- Lines that pass all checks describe a session. -/
theorem exists_describes_of_passed (h : ∀ j e, ¬ Fails limit lines j e) :
    ∃ s, Describes limit lines s := by
  obtain ⟨sizeLine, width, height, hsize, hwrites, hwidth, hheight, hw, hh⟩ :=
    size_of_passed fun j _ => h j
  obtain ⟨colorLine, c, hcolor, hcode⟩ := color_of_passed fun j _ => h j
  -- The third line may be missing, and has one check only.
  have hstream : ∃ stream, (lines[2]? = none ∧ stream = []) ∨
      ∃ line ∈ lines[2]?, Writes line stream := by
    cases hline : lines[2]? with
    | none => exact ⟨[], .inl ⟨rfl, rfl⟩⟩
    | some line =>
      rcases writes_or_spoiled line with ⟨ns, hns⟩ | ⟨e, he⟩
      · exact ⟨ns, .inr ⟨line, rfl, hns⟩⟩
      · exact absurd (.streamNumerals hline he) (h .streamNumerals e)
  obtain ⟨stream, hstream⟩ := hstream
  exact ⟨⟨width, height, c, stream⟩, {
    size := ⟨sizeLine, hsize, hwrites⟩
    width_pos := hwidth
    height_pos := hheight
    width_le := hw
    height_le := hh
    color := ⟨colorLine, hcolor, hcode⟩
    stream := hstream }⟩

/-! ## What is read -/

/-- Lines that describe a session are read as it, and all three are asked for. -/
theorem converse_of_describes (h : Describes limit lines s) :
    converse limit { lines } = ⟨3, .ok s⟩ := by
  obtain ⟨sizeLine, hsize, hwrites⟩ := h.size
  obtain ⟨colorLine, hcolor, hcode⟩ := h.color
  rw [converse_of_color (askSize_of_writes hsize hwrites h.width_pos h.height_pos h.width_le
    h.height_le) (askColor_of_writes hcolor hcode)]
  -- A missing stream line is read as an empty stream.
  rcases h.stream with ⟨hnone, hstream⟩ | ⟨line, hline, hstream⟩
  · rw [askStream, line_ofLines, hnone]
    obtain ⟨width, height, c, stream⟩ := s
    obtain rfl : stream = [] := hstream
    rfl
  · rw [askStream_of_line hline, parseAll_of_writes hstream]
    rfl

/-- Lines with a first failing check are refused with its failure, and the line that it looks at is
the last one asked for. -/
theorem converse_of_firstFails (h : FirstFails limit lines k e) :
    converse limit { lines } = ⟨k.line + 1, .error e⟩ := by
  obtain ⟨hk, hpassed⟩ := h
  -- What the checks of the size ensure when none of them is the one that fails.
  have hsize (hlate : ¬ k < .colorPresent) :
      ∃ width height, askSize limit { lines } = .ok (width, height) := by
    obtain ⟨line, width, height, hline, hwrites, hwidth, hheight, hw, hh⟩ :=
      size_of_passed fun j hj => hpassed j (Nat.lt_of_lt_of_le hj (Nat.le_of_not_lt hlate))
    exact ⟨width, height, askSize_of_writes hline hwrites hwidth hheight hw hh⟩
  -- For each check, the checks before it bring the reading to the place where it is made.
  cases hk with
  | sizePresent hnone =>
    refine converse_of_size_error ?_
    rw [askSize, line_ofLines, hnone]
    rfl
  | sizeCount hline hcount hne =>
    exact converse_of_size_error ((askSize_of_line hline).trans (readSize_of_counts hcount hne))
  | sizeNumerals hline hspoiled =>
    have hcount := counts_of_passed fun n hn => by_contra fun hne =>
      hpassed .sizeCount (by decide) _ (.sizeCount hline hn hne)
    exact converse_of_size_error
      ((askSize_of_line hline).trans (readSize_of_spoiled hcount hspoiled))
  | sizePositive hline hwrites hzero =>
    refine converse_of_size_error ?_
    rw [askSize_of_line hline, readSize_of_writes hwrites, if_pos hzero]
  | sizeLimit hline hwrites hpast =>
    refine converse_of_size_error ?_
    have hzero := fun hzero =>
      hpassed .sizePositive (by decide) _ (.sizePositive hline hwrites hzero)
    rw [askSize_of_line hline, readSize_of_writes hwrites, if_neg hzero, if_pos hpast]
  | colorPresent hnone =>
    obtain ⟨width, height, hsize⟩ := hsize (by decide)
    refine converse_of_color_error hsize ?_
    rw [askColor, line_ofLines, hnone]
    rfl
  | colorCount hline hcount hne =>
    obtain ⟨width, height, hsize⟩ := hsize (by decide)
    exact converse_of_color_error hsize
      ((askColor_of_line hline).trans (readColor_of_counts hcount hne))
  | colorNumerals hline hspoiled =>
    obtain ⟨width, height, hsize⟩ := hsize (by decide)
    have hcount := counts_of_passed fun n hn => by_contra fun hne =>
      hpassed .colorCount (by decide) _ (.colorCount hline hn hne)
    exact converse_of_color_error hsize
      ((askColor_of_line hline).trans (readColor_of_spoiled hcount hspoiled))
  | colorLegal hline hwrites hillegal =>
    obtain ⟨width, height, hsize⟩ := hsize (by decide)
    refine converse_of_color_error hsize ?_
    rw [askColor_of_line hline, readColor_of_writes hwrites, Grid.ofCode_of_not_isLegal hillegal,
      Fault.raise_of_isTellable
        (Fault.isTellable_invalidColor.mpr (hwrites.isWritable List.mem_cons_self))]
  | streamNumerals hline hspoiled =>
    obtain ⟨width, height, hsize⟩ := hsize (by decide)
    obtain ⟨colorLine, c, hcolor, hcode⟩ := color_of_passed hpassed
    rw [converse_of_color hsize (askColor_of_writes hcolor hcode), askStream_of_line hline,
      parseAll_of_spoiled hspoiled]
    rfl

/-- Lines that describe a session are read as it. -/
theorem read_of_describes (h : Describes limit lines s) : read limit lines = .ok s :=
  congrArg Reading.outcome (converse_of_describes h)

/-- Lines with a first failing check are refused with its failure. -/
theorem read_of_firstFails (h : FirstFails limit lines k e) : read limit lines = .error e :=
  congrArg Reading.outcome (converse_of_firstFails h)

/-- If a check fails, one of them is the first to fail. -/
theorem exists_firstFails {k : Check} {e : Failure} (h : Fails limit lines k e) :
    ∃ k e, FirstFails limit lines k e := by
  -- There are finitely many checks, so going back to an earlier one comes to an end.
  by_cases hearlier : ∃ j < k, ∃ e', Fails limit lines j e'
  · obtain ⟨j, hj, e', hfails⟩ := hearlier
    exact exists_firstFails hfails
  · exact ⟨k, e, h, fun j hj e' hfails => hearlier ⟨j, hj, e', hfails⟩⟩
termination_by k.ctorIdx

/-- Lines describe a session or have a first failing check. -/
theorem describes_or_firstFails (limit : Int) (lines : List String) :
    (∃ s, Describes limit lines s) ∨ ∃ k e, FirstFails limit lines k e := by
  by_cases h : ∃ k e, Fails limit lines k e
  · obtain ⟨k, e, hfails⟩ := h
    exact .inr (exists_firstFails hfails)
  · exact .inl (exists_describes_of_passed fun j e hfails => h ⟨j, e, hfails⟩)

/-- Lines are read as the session that they describe. -/
theorem read_eq_ok_iff : read limit lines = .ok s ↔ Describes limit lines s := by
  refine ⟨fun h => ?_, read_of_describes⟩
  -- The lines are read as one of the two, and the other would be read differently.
  rcases describes_or_firstFails limit lines with ⟨s', hs'⟩ | ⟨k, e, he⟩
  · rw [read_of_describes hs'] at h
    exact Except.ok.inj h ▸ hs'
  · rw [read_of_firstFails he] at h
    cases h

/-- Lines are refused with the failure of the first check that fails. -/
theorem read_eq_error_iff : read limit lines = .error e ↔ ∃ k, FirstFails limit lines k e := by
  refine ⟨fun h => ?_, fun ⟨k, hk⟩ => read_of_firstFails hk⟩
  rcases describes_or_firstFails limit lines with ⟨s, hs⟩ | ⟨k, e', he'⟩
  · rw [read_of_describes hs] at h
    cases h
  · rw [read_of_firstFails he'] at h
    exact ⟨k, Except.error.inj h ▸ he'⟩

/-- A word is never refused for a number that is too long to be written. -/
theorem not_spoiled_overlongNumber : ¬ Spoiled line .overlongNumber := by
  rintro ⟨_, _, _, -, -, hrefused⟩
  cases hrefused

/-- The only failure that is not told is that of a size above a limit far below zero. -/
theorem read_eq_overlongNumber_iff : read limit lines = .error .overlongNumber ↔
    limit ≤ -leastUnwritable ∧ ∃ line width height, lines[0]? = some line ∧
      Writes line [width, height] ∧ 1 ≤ width ∧ 1 ≤ height := by
  constructor
  · intro h
    obtain ⟨k, hfails, hpassed⟩ := read_eq_error_iff.mp h
    generalize he : Failure.overlongNumber = e at hfails
    cases hfails with
    | @sizeLimit line width height hline hwrites hpast =>
      have hsides : 1 ≤ width ∧ 1 ≤ height := by
        by_contra hzero
        exact hpassed .sizePositive (by decide) _ (.sizePositive hline hwrites (by omega))
      have hwidth := hwrites.isWritable List.mem_cons_self
      have hheight := hwrites.isWritable (n := height) (by simp)
      have hlimit : ¬ IsWritable limit := fun hlimit =>
        Fault.raise_eq_overlongNumber_iff.mp he.symm
          (Fault.isTellable_invalidDimensions.mpr ⟨hwidth, hheight, by simpa using hlimit⟩)
      refine ⟨?_, line, width, height, hline, hwrites, hsides⟩
      rcases not_isWritable_iff.mp hlimit with hlow | hhigh
      · exact hlow
      · have hwidth := mt not_isWritable_iff.mpr (not_not_intro hwidth)
        have hheight := mt not_isWritable_iff.mpr (not_not_intro hheight)
        omega
    | sizeNumerals _ hspoiled => exact absurd (he ▸ hspoiled) not_spoiled_overlongNumber
    | colorNumerals _ hspoiled => exact absurd (he ▸ hspoiled) not_spoiled_overlongNumber
    | streamNumerals _ hspoiled => exact absurd (he ▸ hspoiled) not_spoiled_overlongNumber
    | _ => cases he
  · rintro ⟨hlimit, line, width, height, hline, hwrites, hwidth, hheight⟩
    have hpos := leastUnwritable_pos
    have huntold : ¬ (Fault.invalidDimensions width height (some limit)).IsTellable := fun h =>
      not_isWritable_iff.mpr (.inl hlimit) ((Fault.isTellable_invalidDimensions.mp h).2.2 _ rfl)
    have hsize : askSize limit { lines } = .error .overlongNumber := by
      rw [askSize_of_line hline, readSize_of_writes hwrites, if_neg (by omega),
        if_pos (.inl (by omega)), Fault.raise_of_not_isTellable huntold]
    rw [read, converse_of_size_error hsize]

/-- **Exactly the lines of the grammar are read, and the first failing check decides otherwise.**
The failure is told, except for a size above a limit that is too long to be written. Any supply with
the same first three lines gives the same outcome, whatever comes behind them, and no more than
three are asked for. -/
theorem read_grammar (limit : Int) (lines : List String) :
    (∀ s, read limit lines = .ok s ↔ Describes limit lines s) ∧
    (∀ e, read limit lines = .error e ↔ ∃ k, FirstFails limit lines k e) ∧
    (read limit lines = .error .overlongNumber ↔
      limit ≤ -leastUnwritable ∧ ∃ line width height, lines[0]? = some line ∧
        Writes line [width, height] ∧ 1 ≤ width ∧ 1 ≤ height) ∧
    ∀ supply : Supply, (∀ i < 3, supply.line i = .ok lines[i]?) →
      (converse limit supply).outcome = read limit lines ∧ (converse limit supply).asked ≤ 3 := by
  refine ⟨fun s => read_eq_ok_iff, fun e => read_eq_error_iff, read_eq_overlongNumber_iff,
    fun supply h => ?_⟩
  have hasked := asked_converse_le limit supply
  have hcongr : converse limit supply = converse limit { lines } := converse_congr fun i hi =>
    (h i (Nat.lt_of_lt_of_le hi hasked)).trans (line_ofLines lines i).symm
  exact ⟨congrArg Reading.outcome hcongr, hasked⟩

/-- A size above a limit far below zero is refused without being told. -/
theorem read_unwritable_limit :
    let limit := -leastUnwritable
    Writes "1 1" [1, 1] ∧ limit < 1 ∧ read limit ["1 1", "1"] = .error .overlongNumber := by
  intro limit
  have hwrites : Writes "1 1" [1, 1] := parseAll_eq_ok_iff.mp (by decide)
  have hlimit : limit < 1 := by
    have := leastUnwritable_pos
    omega
  exact ⟨hwrites, hlimit, read_eq_overlongNumber_iff.mpr
    ⟨Int.le_refl limit, _, 1, 1, rfl, hwrites, Nat.le_refl 1, Nat.le_refl 1⟩⟩

/-- A word that is no numeral counts before a side that is zero. -/
example : read 1024 ["0 x", "9"] = .error (.fault (.malformedNumericInput (.token "x"))) := by
  decide

end Mosaic.Session
