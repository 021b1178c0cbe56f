import Mathlib
import Mosaic.Proofs.Command.WireFormat
import Mosaic.Proofs.Numeral

/-!
# A listing tells the stream

A command is put into words by writing its numbers between fixed pieces of text. This is how it is
described to a reader and how logs show it, so both are a `Phrasing`. The piece behind a number
shows where the number ends if it does not begin like one itself, so the words of a command tell the
command (`Phrasing.write_injective`), and an illegal colour is told by its code although it has no
name. A queue tells the stream that it was read from, hence so does a list of its commands in words.
-/

namespace Mosaic.Command

open Numeral (isNumeric isNumeric_of_mem)

/-! ## Numbers in a text -/

/-- The text begins with a character that is in no number. -/
def EndsNumber (s : String) : Prop := ∃ c ∈ s.toList.head?, ¬ isNumeric c

/-- Only the front of a text decides where a number in front of it ends. -/
theorem EndsNumber.append {s : String} (hs : EndsNumber s) (t : String) : EndsNumber (s ++ t) := by
  obtain ⟨c, hc, hnone⟩ := hs
  refine ⟨c, ?_, hnone⟩
  rw [String.toList_append, List.head?_append, hc]
  rfl

/-- A number in front of a text is what comes before the first character that is in no number. -/
theorem takeWhile_number_append (n : Int) {s : String} (hs : EndsNumber s) :
    ((toString n).toList ++ s.toList).takeWhile isNumeric = (toString n).toList := by
  obtain ⟨c, hc, hnone⟩ := hs
  obtain ⟨rest, hrest⟩ := List.head?_eq_some_iff.mp hc
  rw [List.takeWhile_append_of_pos fun d hd => isNumeric_of_mem hd, hrest,
    List.takeWhile_cons_of_neg hnone, List.append_nil]

/-- A number and a text behind it are told by the two together, if the text shows where the number
ends. -/
theorem number_append_inj {m n : Int} {s t : String} (hs : EndsNumber s) (ht : EndsNumber t)
    (h : toString m ++ s = toString n ++ t) : m = n ∧ s = t := by
  have hlist := congrArg String.toList h
  rw [String.toList_append, String.toList_append] at hlist
  have hnumber := congrArg (List.takeWhile isNumeric) hlist
  rw [takeWhile_number_append m hs, takeWhile_number_append n ht] at hnumber
  obtain rfl : m = n := by
    have htext := String.toList_injective hnumber
    rwa [Int.toString_eq_repr, Int.toString_eq_repr, Int.repr_inj] at htext
  exact ⟨rfl, String.toList_injective (List.append_cancel_left hlist)⟩

/-! ## Commands in words -/

/-- How commands are put into words: the pieces of text around their numbers. What stands behind the
code of a paint may depend on the code. -/
structure Phrasing where
  moveFront : String
  between : String
  moveBack : String
  paintFront : String
  paintBack : Int → String

namespace Phrasing

/-- A command in words. -/
def write (φ : Phrasing) : Command → String
  | moveCursor p => φ.moveFront ++ toString p.x ++ φ.between ++ toString p.y ++ φ.moveBack
  | setColor code => φ.paintFront ++ toString code ++ φ.paintBack code

/-- Every number ends where it seems to, and no text begins both like a move and like a paint. -/
structure Clear (φ : Phrasing) : Prop where
  between : EndsNumber φ.between
  moveBack : EndsNumber φ.moveBack
  paintBack : ∀ code, EndsNumber (φ.paintBack code)
  front_ne : ∀ s t, φ.moveFront ++ s ≠ φ.paintFront ++ t

/-- **The words of a command tell the command.** -/
theorem write_injective {φ : Phrasing} (hφ : φ.Clear) : Function.Injective φ.write := by
  intro c d h
  cases c with
  | moveCursor p =>
    cases d with
    | moveCursor q =>
      -- The pieces are the same on both sides, and each shows where the number in front of it ends.
      simp only [write, String.append_assoc, String.append_right_inj] at h
      obtain ⟨hx, hrest⟩ := number_append_inj (hφ.between.append _) (hφ.between.append _) h
      rw [String.append_right_inj] at hrest
      obtain ⟨hy, -⟩ := number_append_inj hφ.moveBack hφ.moveBack hrest
      exact congrArg moveCursor (congrArg₂ Position.mk hx hy)
    | setColor code =>
      simp only [write, String.append_assoc] at h
      exact absurd h (hφ.front_ne _ _)
  | setColor code =>
    cases d with
    | moveCursor q =>
      simp only [write, String.append_assoc] at h
      exact absurd h.symm (hφ.front_ne _ _)
    | setColor code' =>
      simp only [write, String.append_assoc, String.append_right_inj] at h
      rw [(number_append_inj (hφ.paintBack code) (hφ.paintBack code') h).1]

/-- The words that describe a command to a reader. -/
def described : Phrasing where
  moveFront := "move cursor to ("
  between := ", "
  moveBack := ")"
  paintFront := "set colour "
  paintBack code := " (" ++ (((Color.ofCode? code).map Color.label).getD "?" ++ ")")

/-- The words of logs and diagnostics. -/
def displayed : Phrasing where
  moveFront := "MoveCursor(x="
  between := ", y="
  moveBack := ")"
  paintFront := "SetColor(code="
  paintBack _ := ")"

theorem describe_eq_write : describe = described.write := by
  funext c
  cases c with
  | moveCursor p =>
    unfold describe
    rfl
  | setColor code =>
    -- What stands behind the code is one piece here, and several in the description.
    unfold describe
    dsimp only
    rw [String.append_assoc, String.append_assoc]
    rfl

theorem display_eq_write : display = displayed.write := by
  funext c
  unfold display
  cases c <;> rfl

/-- Texts that begin with different characters are different, whatever follows. -/
theorem append_ne_append {s t : String} {c d : Char} (hs : s.toList.head? = some c)
    (ht : t.toList.head? = some d) (hcd : c ≠ d) (u v : String) : s ++ u ≠ t ++ v := by
  intro h
  have hhead := congrArg (·.toList.head?) h
  simp [List.head?_append, hs, ht, hcd] at hhead

theorem clear_described : described.Clear where
  between := ⟨',', rfl, by decide⟩
  moveBack := ⟨')', rfl, by decide⟩
  paintBack _ := EndsNumber.append ⟨' ', rfl, by decide⟩ _
  front_ne := append_ne_append (c := 'm') (d := 's') rfl rfl (by decide)

theorem clear_displayed : displayed.Clear where
  between := ⟨',', rfl, by decide⟩
  moveBack := ⟨')', rfl, by decide⟩
  paintBack _ := ⟨')', (rfl : ")".toList.head? = some ')'), by decide⟩
  front_ne := append_ne_append (c := 'M') (d := 'S') rfl rfl (by decide)

end Phrasing

/-! ## Listings -/

theorem describe_injective : Function.Injective describe :=
  Phrasing.describe_eq_write ▸ Phrasing.write_injective Phrasing.clear_described

theorem display_injective : Function.Injective display :=
  Phrasing.display_eq_write ▸ Phrasing.write_injective Phrasing.clear_displayed

variable {checkColors checkColors' : Bool} {s t : List Int} {cs ds : List Command}

/-- Streams that are read as one queue are one stream, whoever checks the colours. -/
theorem eq_iff_of_parse (hs : parse checkColors s = .ok cs) (ht : parse checkColors' t = .ok ds) :
    cs = ds ↔ s = t := by
  obtain ⟨rfl, -⟩ := parse_eq_ok_iff.mp hs
  obtain ⟨rfl, -⟩ := parse_eq_ok_iff.mp ht
  exact encodeAll_injective.eq_iff.symm

/-- Words that tell commands apart tell queues apart, and so the streams that they were read from.
-/
theorem map_eq_map_iff {text : Command → String} (htext : Function.Injective text)
    (hs : parse checkColors s = .ok cs) (ht : parse checkColors' t = .ok ds) :
    cs.map text = ds.map text ↔ s = t :=
  htext.list_map.eq_iff.trans (eq_iff_of_parse hs ht)

/-- **A listing tells the stream.** No two commands are described alike or displayed alike, not even
those of illegal colours, which have no names. So two streams that are read, be their colours
checked or not, are one stream if their queues are listed alike, in descriptions or as logs show
them. -/
theorem listing_determines_stream :
    Function.Injective describe ∧ Function.Injective display ∧
    ∀ (checkColors checkColors' : Bool) (s t : List Int) (cs ds : List Command),
      parse checkColors s = .ok cs → parse checkColors' t = .ok ds →
        (cs.map describe = ds.map describe ↔ s = t) ∧
        (cs.map display = ds.map display ↔ s = t) :=
  ⟨describe_injective, display_injective, fun _ _ _ _ _ _ hs ht =>
    ⟨map_eq_map_iff describe_injective hs ht, map_eq_map_iff display_injective hs ht⟩⟩

/-- Two streams that paint in different colours without a name, off the display. -/
theorem listing_determines_stream_nameless :
    let cs : List Command := [.moveCursor ⟨-1, 20⟩, .setColor 4]
    let ds : List Command := [.moveCursor ⟨-1, 20⟩, .setColor (-4)]
    parse false [1, -1, 20, 2, 4] = .ok cs ∧ parse false [1, -1, 20, 2, -4] = .ok ds ∧
      Color.ofCode? 4 = none ∧ Color.ofCode? (-4) = none ∧
      cs.map describe ≠ ds.map describe ∧ cs.map display ≠ ds.map display := by
  intro cs ds
  have hcs : parse false [1, -1, 20, 2, 4] = .ok cs := rfl
  have hds : parse false [1, -1, 20, 2, -4] = .ok ds := rfl
  obtain ⟨hdescribe, hdisplay⟩ := listing_determines_stream.2.2 _ _ _ _ _ _ hcs hds
  exact ⟨hcs, hds, rfl, rfl, hdescribe.not.mpr (by decide), hdisplay.not.mpr (by decide)⟩

end Mosaic.Command
