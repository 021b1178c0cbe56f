import Mosaic.Proofs.Numeral
import Mosaic.Proofs.Terminal.Table
import Mosaic.Report

/-!
# What is shown of a queue

A queue is listed in a table with a row for each of its commands, in their order: the number of the
command, its name, and what it does in words. On a screen that the table fits, each row is a line
(`lists_commands`).
-/

namespace Mosaic.Report

open Terminal

variable {columns : Nat} {c : Command} {cs : List Command} {n : Int} {s t : List Char}

/-! ## Entries of the table -/

/-- Numbers are typed. -/
theorem typed_toString (n : Int) : Typed (toString n).toList := by
  intro d hd
  rcases Bool.or_eq_true_iff.mp (Numeral.isNumeric_of_mem hd) with hsign | hdigit
  · obtain rfl := of_decide_eq_true hsign
    decide
  · obtain ⟨hlow, hhigh⟩ := Char.isDigit_iff_toNat.mp hdigit
    simp only [Char.le_def, UInt32.le_iff_toNat_le]
    have hspace : ' '.toNat = 32 := rfl
    have htilde : '~'.toNat = 126 := rfl
    constructor
    · exact le_trans (by decide) hlow
    · exact le_trans hhigh (by decide)

theorem entry_toString (i : Nat) : Entry (toString i).toList := by
  have hdigits : (toString i).toList = Nat.toDigits 10 i := by
    rw [Nat.toString_eq_repr, Nat.toList_repr]
  have htyped : Typed (toString i).toList := typed_toString (i : Int)
  rw [hdigits] at htyped ⊢
  exact ⟨htyped, Nat.toDigits_ne_nil, Text.trimEnd_of_no_blank fun d hd =>
    Numeral.not_isBlank_of_isDigit (Nat.isDigit_of_mem_toDigits (by decide) (by decide) hd)⟩

theorem entry_name (c : Command) : Entry c.name.toList := by
  have hnames : ∀ name ∈ ["MoveCursor", "SetColor"], Entry name.toList := by decide
  refine hnames c.name ?_
  cases c <;> simp [Command.name]

/-- What a command does in words is an entry, whatever its numbers are. -/
theorem entry_describe (c : Command) : Entry c.describe.toList := by
  have happend : ∀ {s t : String}, Typed s.toList → Typed t.toList → Typed (s ++ t).toList := by
    intro s t hs ht
    rw [String.toList_append]
    exact List.forall_mem_append.mpr ⟨hs, ht⟩
  cases c with
  | moveCursor p =>
    unfold Command.describe
    dsimp only
    rw [String.toList_append]
    exact .append (happend (happend (happend (by decide) (typed_toString p.x)) (by decide))
      (typed_toString p.y)) (by decide)
  | setColor code =>
    have hlabel : Typed (((Color.ofCode? code).map Color.label).getD "?").toList := by
      cases Color.ofCode? code with
      | none => decide
      | some c => cases c <;> decide
    unfold Command.describe
    dsimp only
    rw [String.toList_append]
    exact .append (happend (happend (happend (by decide) (typed_toString code)) (by decide)) hlabel)
      (by decide)

/-! ## The table -/

/-- The columns of a listing: numbers, names and descriptions. -/
def listingColumns : List Column :=
  [{ header := "#".toList, pen := { dim := true }, justify := .right },
    { header := "Command".toList, pen := { ink := some .cyan } },
    { header := "Description".toList }]

/-- The cells of a command in a listing: its number, its name and its description. -/
def listingRow (i : Nat) (c : Command) : List Cell :=
  [⟨(toString i).toList, .plain⟩, ⟨c.name.toList, .plain⟩, ⟨c.describe.toList, .plain⟩]

theorem tabular_listing (cs : List Command) : Tabular listingColumns (cs.mapIdx listingRow) where
  ne_nil := by decide
  fixed := by decide
  header := by decide
  length_row row hrow := by
    obtain ⟨i, hi, rfl⟩ := List.mem_mapIdx.mp hrow
    rfl
  entry row hrow cell hcell := by
    obtain ⟨i, hi, rfl⟩ := List.mem_mapIdx.mp hrow
    simp only [listingRow, List.mem_cons, List.not_mem_nil, or_false] at hcell
    rcases hcell with rfl | rfl | rfl
    · exact entry_toString i
    · exact entry_name _
    · exact entry_describe _

/-- The cells that a listing takes from the left to the right. -/
def listingWidth (cs : List Command) : Nat :=
  totalWidth (fittedWidths listingColumns (cs.mapIdx listingRow)) + 4

/-- The lines of a command in columns of these widths. -/
def commandLines (widths : List Nat) (i : Nat) (c : Command) : List Line :=
  let bar : Line := [⟨{ dim := true }, ['│']⟩]
  rowLines false bar bar bar (setRow widths listingColumns (listingRow i c))

/-- What a screen is sent for a queue. It is told where there are no commands. Otherwise it is sent
a table, with lines for each command in order between a head and a foot, and if the table fits, each
row of it is a line. -/
structure Lists (screen : Screen) (cs : List Command) (sent : String) : Prop where
  empty : cs = [] → Told screen { dim := true, ink := some .white } "No commands." sent
  blocks : cs ≠ [] → ∃ widths head foot, (∀ i c, commandLines widths i c ≠ []) ∧
    sent = screen.write (head ++ (cs.mapIdx (commandLines widths)).flatten ++ foot)
  rows : cs ≠ [] → listingWidth cs ≤ screen.columns →
    sent = Text.unlines ((tableLines "Commands".toList { dim := true } listingColumns
      (cs.mapIdx listingRow)).map (Line.write screen.escapes))

/-- A queue is listed in a table. -/
theorem commands_eq_boxed (columns : Nat) (hne : cs ≠ []) :
    commands columns cs = boxed columns "Commands".toList { dim := true } listingColumns
      (cs.mapIdx listingRow) := by
  obtain ⟨c, cs, rfl⟩ := List.exists_cons_of_ne_nil hne
  rfl

/-- **A queue is listed command by command.** -/
theorem lists_commands (screen : Screen) (cs : List Command) :
    Lists screen cs (screen.write (commands screen.columns cs)) where
  empty hempty := by
    rw [hempty]
    exact told_write_wrap (by decide) (by decide) screen _
  blocks hne := by
    obtain ⟨widths, head, foot, hboxed⟩ := exists_boxed_eq screen.columns "Commands".toList
      { dim := true } listingColumns (cs.mapIdx listingRow)
    refine ⟨widths, head, foot, fun i c => ?_, ?_⟩
    · refine List.ne_nil_of_length_pos ?_
      rw [commandLines, rowLines, List.length_map, List.length_range]
      exact Nat.lt_of_lt_of_le Nat.one_pos (Nat.le_max_left _ _)
    · have hblocks : (cs.mapIdx listingRow).map (fun row =>
          rowLines false [⟨{ dim := true }, ['│']⟩] [⟨{ dim := true }, ['│']⟩]
            [⟨{ dim := true }, ['│']⟩] (setRow widths listingColumns row)) =
          cs.mapIdx (commandLines widths) := by
        refine List.ext_getElem (by simp) fun i _ _ => ?_
        rw [List.getElem_map, List.getElem_mapIdx, List.getElem_mapIdx]
        rfl
      rw [commands_eq_boxed _ hne, hboxed, List.flatMap_def, hblocks]
  rows hne hfits := by
    have htitle : Entry "Commands".toList := by decide
    have hroom : "Commands".toList.length ≤ listingWidth cs := by
      simp [listingWidth, fittedWidths, columnTexts, listingColumns, totalWidth, fittedWidth,
        cellPadding]
      omega
    -- Where the table fits, its lines are not wrapped once more.
    have hlines : ∀ l ∈ tableLines "Commands".toList { dim := true } listingColumns
        (cs.mapIdx listingRow), l.width ≤ screen.columns := fun l hl =>
      ((tabular_listing cs).width_of_mem_tableLines htitle hroom _ hl).trans_le hfits
    rw [commands_eq_boxed _ hne, boxed_of_fits (tabular_listing cs) htitle hroom hfits]
    exact write_of_fits hlines

end Mosaic.Report
