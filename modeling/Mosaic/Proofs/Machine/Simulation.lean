import Mosaic.Proofs.Machine.History

/-!
# One queue on two displays

What a run reads of its display is the size alone. So a queue does on two displays the same, step by
step, as far as both obey it: `Alike` says so for two new machines, with the journal of a run as the
witness of which command found the cursor where. On displays of one size both obey the same
commands, whatever their cells show, and a larger display obeys whatever a smaller one does.
-/

namespace Mosaic

/-- A larger display contains what a smaller one does. -/
theorem Position.Inside.mono {p : Position} {width height width' height' : Nat}
    (h : p.Inside width height) (hwidth : width ≤ width') (hheight : height ≤ height') :
    p.Inside width' height' := by
  unfold Position.Inside at *
  omega

/-- A larger display refuses nothing that a smaller one does not. -/
theorem Item.not_refused_mono {i : Item} {width height width' height' : Nat}
    (hwidth : width ≤ width') (hheight : height ≤ height') (h : i.refusal? width height = none) :
    i.refusal? width' height' = none := by
  rcases i with c | text
  · rcases c with p | code
    · have hp : p.Inside width height := Item.refusal?_moveCursor_eq_none_iff.mp h
      exact Item.refusal?_moveCursor_eq_none_iff.mpr (hp.mono hwidth hheight)
    · exact h
  · cases h

namespace Command

/-- The commands of a queue, each with where the cursor is behind it, for a cursor that starts at
`start`: at the target of the command, or where it was. -/
def itinerary (start : Position) : List Command → List (Command × Position)
  | [] => []
  | c :: cs => (c, c.target?.getD start) :: itinerary (c.target?.getD start) cs

variable {start p : Position} {cs : List Command} {c : Command} {width height : Nat}

/-- Something is written at a position exactly if a paint finds the cursor there. -/
theorem isSome_lastWrite_iff :
    (lastWrite start p cs).isSome ↔ ∃ code, (setColor code, p) ∈ itinerary start cs := by
  induction cs generalizing start with
  | nil => simp [lastWrite, itinerary]
  | cons c cs ih =>
    rcases c with q | code
    · simpa [lastWrite, itinerary, target?] using ih
    · have hcons : itinerary start (setColor code :: cs) =
          (setColor code, start) :: itinerary start cs := rfl
      rw [lastWrite, Option.isSome_or, Bool.or_eq_true, ih, hcons]
      by_cases hp : start = p
      · subst hp
        exact iff_of_true (.inr (by simp)) ⟨code, List.mem_cons_self⟩
      · simp [hp, Ne.symm hp]

/-- Commands that the display does not refuse keep a cursor on it that is on it at the start. -/
theorem inside_of_mem_itinerary (hstart : start.Inside width height)
    (hcs : ∀ c ∈ cs, (Item.command c).refusal? width height = none)
    (hp : (c, p) ∈ itinerary start cs) : p.Inside width height := by
  induction cs generalizing start with
  | nil => cases hp
  | cons d cs ih =>
    obtain ⟨hd, hrest⟩ := List.forall_mem_cons.mp hcs
    have hnext : (d.target?.getD start).Inside width height := by
      rcases d with q | code
      · exact Item.refusal?_moveCursor_eq_none_iff.mp hd
      · exact hstart
    rcases List.mem_cons.mp hp with hhere | hlater
    · obtain ⟨-, rfl⟩ := Prod.mk.inj hhere
      exact hnext
    · exact ih hnext hrest hlater

end Command

namespace Machine

open Command

variable {m : Machine} {cs : List Command} {p : Position} {g g' : Grid}

/-! ## The journal of a run -/

/-- A command that is executed finds the cursor at `p` and paints it. -/
def Paints (m : Machine) (cs : List Command) (p : Position) : Prop :=
  ∃ code, (setColor code, p) ∈ m.journal cs

/-- The journal shows the commands in front of the first refused one. -/
theorem journal_eq (hm : m.InBounds) (cs : List Command) :
    m.journal cs =
      itinerary m.cursor (Item.executable m.grid.width m.grid.height (cs.map .command)) := by
  induction cs generalizing m with
  | nil => rfl
  | cons c cs ih =>
    rcases apply_cases hm c with ⟨f, hrefused, happly⟩ | ⟨hnone, happly⟩
    · rw [journal, happly, List.map_cons, Item.executable_cons_of_refused hrefused, itinerary]
    · have htail := ih (hm.obey hnone)
      rw [width_obey, height_obey] at htail
      rw [journal, happly, List.map_cons, Item.executable_cons hnone, itinerary, ← cursor_obey,
        ← htail]

/-- A run paints the positions that its executed commands write. -/
theorem paints_iff (hm : m.InBounds) : m.Paints cs p ↔ (lastWrite m.cursor p
    (Item.executable m.grid.width m.grid.height (cs.map .command))).isSome := by
  rw [Paints, journal_eq hm, isSome_lastWrite_iff]

/-- A run paints on its display only. -/
theorem Paints.inside (hm : m.InBounds) (hp : m.Paints cs p) :
    p.Inside m.grid.width m.grid.height := by
  obtain ⟨code, hmem⟩ := hp
  rw [journal_eq hm] at hmem
  exact inside_of_mem_itinerary hm (fun c hc => refusal?_of_mem_executable hc) hmem

/-! ## Two displays -/

/-- On both displays a new machine executes the same commands of the queue, with the cursor at the
same places. Each painted cell is on the first display and shows one colour on both in the end; any
other cell of either display shows what it did. -/
structure Alike (g g' : Grid) (cs : List Command) : Prop where
  journal : (new g').journal cs = (new g).journal cs
  cursor : ((new g').runQueue cs).machine.cursor = ((new g).runQueue cs).machine.cursor
  applied : ((new g').runQueue cs).machine.applied = ((new g).runQueue cs).machine.applied
  inside : ∀ p, (new g).Paints cs p → p.Inside g.width g.height
  painted : ∀ x y : Nat, (new g).Paints cs ⟨x, y⟩ →
    ∃ c, ((new g).runQueue cs).machine.grid.colorAt? x y = some c ∧
      ((new g').runQueue cs).machine.grid.colorAt? x y = some c
  kept : ∀ x y : Nat, ¬ (new g).Paints cs ⟨x, y⟩ →
    ((new g).runQueue cs).machine.grid.colorAt? x y = g.colorAt? x y ∧
      ((new g').runQueue cs).machine.grid.colorAt? x y = g'.colorAt? x y

/-- Displays that refuse a queue at the same place are alike. -/
theorem alike_of_executable (h : Item.executable g'.width g'.height (cs.map .command) =
    Item.executable g.width g.height (cs.map .command)) : Alike g g' cs := by
  have hm : (new g).InBounds := inBounds_new g
  have hcell := colorAt?_run_new g (cs.map .command)
  have hcell' := colorAt?_run_new g' (cs.map .command)
  have hpaints : ∀ x y : Nat, (new g).Paints cs ⟨x, y⟩ ↔ (lastWrite .origin ⟨x, y⟩
    (Item.executable g.width g.height (cs.map .command))).isSome := fun x y => paints_iff hm
  rw [h] at hcell'
  constructor
  case journal =>
    rw [journal_eq hm, journal_eq (inBounds_new g')]
    exact congrArg (itinerary .origin) h
  case cursor =>
    rw [runQueue, runQueue, run_new, run_new, h, cursor_foldl_obey, cursor_foldl_obey]
    rfl
  case applied =>
    rw [runQueue, runQueue, run_new, run_new, h, applied_foldl_obey, applied_foldl_obey]
    rfl
  case inside => exact fun p hp => hp.inside hm
  case painted =>
    intro x y hp
    obtain ⟨code, hcode⟩ := Option.isSome_iff_exists.mp ((hpaints x y).mp hp)
    refine ⟨Grid.legalColor code, ?_, ?_⟩
    · rw [runQueue, hcell, hcode]
      rfl
    · rw [runQueue, hcell', hcode]
      rfl
  case kept =>
    intro x y hp
    have hnone := Option.not_isSome_iff_eq_none.mp (mt (hpaints x y).mpr hp)
    refine ⟨?_, ?_⟩
    · rw [runQueue, hcell, hnone]
      rfl
    · rw [runQueue, hcell', hnone]
      rfl

/-- **What a queue does depends on the size of the display, and not on its colours.** A queue that
ends well on a display ends well on every larger one, and a queue ends on displays of one size in
one way, also if it fails. In both cases the displays are alike: the same commands are executed with
the cursor at the same places, the painted cells get the same colours, and the others keep theirs.
-/
theorem runQueue_alike (g g' : Grid) (cs : List Command) :
    (g.width ≤ g'.width → g.height ≤ g'.height → ((new g).runQueue cs).outcome = .ok () →
      ((new g').runQueue cs).outcome = .ok () ∧ Alike g g' cs) ∧
    (g.width = g'.width → g.height = g'.height →
      ((new g').runQueue cs).outcome = ((new g).runQueue cs).outcome ∧ Alike g g' cs) := by
  constructor
  · -- A queue that ends well is obeyed to its end by both displays.
    intro hwidth hheight hok
    have hcs : ∀ c ∈ cs, (Item.command c).refusal? g.width g.height = none :=
      (outcome_runQueue_eq_ok_iff (inBounds_new g)).mp hok
    have hcs' : ∀ c ∈ cs, (Item.command c).refusal? g'.width g'.height = none :=
      fun c hc => Item.not_refused_mono hwidth hheight (hcs c hc)
    refine ⟨(outcome_runQueue_eq_ok_iff (inBounds_new g')).mpr hcs', alike_of_executable ?_⟩
    rw [Item.executable_map_command hcs, Item.executable_map_command hcs']
  · intro hwidth hheight
    refine ⟨?_, alike_of_executable (by rw [hwidth, hheight])⟩
    rw [runQueue, runQueue, run_new, run_new, hwidth, hheight]

/-- A queue that paints to the right edge does the same on a display that is wider and higher, and
one that goes past the edge fails alike on a display of other colours. -/
theorem runQueue_alike_edge :
    let red := Grid.fill 2 1 (by decide) (by decide) .red
    let cyan := Grid.fill 2 1 (by decide) (by decide) .cyan
    let large := Grid.fill 3 2 (by decide) (by decide) .cyan
    let cs : List Command := [.setColor 2, .moveCursor ⟨1, 0⟩, .setColor 1, .setColor 3]
    let past := cs ++ [.moveCursor ⟨2, 0⟩, .setColor 1]
    (((new red).runQueue cs).outcome = .ok () ∧ ((new large).runQueue cs).outcome = .ok () ∧
        Alike red large cs) ∧
      ((new red).runQueue past).outcome = .error (.fault (.cursorOutOfBounds ⟨2, 0⟩ 2 1)) ∧
        ((new cyan).runQueue past).outcome = .error (.fault (.cursorOutOfBounds ⟨2, 0⟩ 2 1)) ∧
        Alike red cyan past := by
  intro red cyan large cs past
  have hok : ((new red).runQueue cs).outcome = .ok () := by decide
  have hfails : ((new red).runQueue past).outcome =
      .error (.fault (.cursorOutOfBounds ⟨2, 0⟩ 2 1)) := by decide
  obtain ⟨hlarge, halike⟩ := (runQueue_alike red large cs).1 (by decide) (by decide) hok
  obtain ⟨hcyan, halike'⟩ := (runQueue_alike red cyan past).2 rfl rfl
  exact ⟨⟨hok, hlarge, halike⟩, hfails, hcyan.trans hfails, halike'⟩

end Machine

end Mosaic
