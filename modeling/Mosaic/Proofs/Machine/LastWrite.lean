import Mathlib.Data.List.Nodup
import Mosaic.Proofs.Command.WireFormat
import Mosaic.Proofs.Machine.History
import Mosaic.Proofs.Machine.LastPaint

/-!
# A queue is what it writes last

On the displays of one size, take the queues of which no command is refused. Two of them can be told
apart by a grid exactly if there is a cell that they write differently last, or that only one of
them writes (`interchangeable_iff`). So paints of different cells may change places, and a paint is
not missed if its cell is painted again.

Every grid is drawn by a stream: move to each cell in turn and paint it. The stream is made from the
target alone and draws it on whatever grid of its size it is executed (`process_drawing`). Blocks of
a move and a paint do not disturb each other as long as they agree on the code of a position, so it
is enough to look for the blocks of each cell.

What a run writes does not depend on what was there before. The same items, executed once more on
the grid they left, write what is there already (`run_again`).
-/

namespace Mosaic

namespace Command

/-- Every move of the queue stays on a display of this size, and every colour is legal. -/
def Fits (width height : Nat) (cs : List Command) : Prop :=
  (∀ p ∈ cs.filterMap target?, p.Inside width height) ∧ ∀ c ∈ cs, c.HasLegalColor

instance (width height : Nat) (cs : List Command) : Decidable (Fits width height cs) :=
  inferInstanceAs (Decidable (_ ∧ _))

variable {width height : Nat} {start p : Position} {code : Int} {c : Command}
  {cs ds : List Command} {blocks blocks' : List (Position × Int)}

/-- A queue fits exactly if no command of it is refused. -/
theorem fits_iff :
    Fits width height cs ↔ ∀ c ∈ cs, (Item.command c).refusal? width height = none := by
  constructor
  · rintro ⟨hmoves, hcolors⟩ c hc
    rcases c with p | code
    · exact Item.refusal?_moveCursor_eq_none_iff.mpr
        (hmoves p (List.mem_filterMap.mpr ⟨_, hc, rfl⟩))
    · exact Item.refusal?_setColor_eq_none_iff.mpr (hcolors _ hc)
  · intro h
    refine ⟨fun p hp => ?_, fun c hc => Item.hasLegalColor_of_not_refused (h c hc)⟩
    obtain ⟨c, hc, htarget⟩ := List.mem_filterMap.mp hp
    rcases c with q | code
    · obtain rfl : q = p := Option.some.inj htarget
      exact Item.refusal?_moveCursor_eq_none_iff.mp (h _ hc)
    · cases htarget

/-- A queue fits if its commands are among those of one that fits. -/
theorem Fits.mono (h : Fits width height cs) (hsub : ds ⊆ cs) : Fits width height ds :=
  fits_iff.mpr fun c hc => fits_iff.mp h c (hsub hc)

/-! ## Strokes -/

/-- For each block in turn, move to its position and paint it. -/
def strokes (blocks : List (Position × Int)) : List Command :=
  blocks.flatMap fun (p, code) => [moveCursor p, setColor code]

theorem mem_strokes :
    c ∈ strokes blocks ↔ ∃ p code, (p, code) ∈ blocks ∧ (c = moveCursor p ∨ c = setColor code) := by
  simp [strokes]

/-- Blocks that agree on a position leave their code there, if there are any. -/
theorem lastWrite_strokes (hagree : ∀ code', (p, code') ∈ blocks → code' = code) :
    lastWrite start p (strokes blocks) = if (p, code) ∈ blocks then some code else none := by
  induction blocks generalizing start with
  | nil => rfl
  | cons b blocks ih =>
    obtain ⟨q, other⟩ := b
    have hlater : lastWrite q p (strokes blocks) = if (p, code) ∈ blocks then some code else none :=
      ih fun code' h => hagree code' (List.mem_cons_of_mem _ h)
    have hcons : lastWrite start p (strokes ((q, other) :: blocks)) =
        (lastWrite q p (strokes blocks)).or (if q = p then some other else none) := rfl
    -- A later block of the position wins; where there is none, the first block decides.
    rw [hcons, hlater]
    by_cases hmem : (p, code) ∈ blocks
    · rw [if_pos hmem, if_pos (List.mem_cons_of_mem _ hmem), Option.some_or]
    · rw [if_neg hmem, Option.none_or]
      by_cases hq : q = p
      · subst hq
        obtain rfl := hagree other List.mem_cons_self
        rw [if_pos rfl, if_pos List.mem_cons_self]
      · have hnone : (p, code) ∉ (q, other) :: blocks := by simp [hmem, Ne.symm hq]
        rw [if_neg hq, if_neg hnone]

/-! ## The last write -/

/-- What a queue that fits writes last is a legal code. -/
theorem Fits.isLegal_of_lastWrite (h : Fits width height cs)
    (hcode : lastWrite start p cs = some code) : Color.IsLegal code :=
  h.2 _ (mem_of_lastWrite hcode)

/-- Blocks with different targets each leave their code at their target. -/
theorem lastWrite_strokes_eq_some_iff (htargets : (blocks.map Prod.fst).Nodup) :
    lastWrite start p (strokes blocks) = some code ↔ (p, code) ∈ blocks := by
  by_cases hp : ∃ n, (p, n) ∈ blocks
  · obtain ⟨n, hn⟩ := hp
    have hagree : ∀ n', (p, n') ∈ blocks → n' = n := by
      intro n' hn'
      have hpair : (p, n') = (p, n) := List.inj_on_of_nodup_map htargets hn' hn rfl
      exact congrArg Prod.snd hpair
    rw [lastWrite_strokes hagree, if_pos hn, Option.some.injEq]
    constructor
    · rintro rfl
      exact hn
    · exact fun hcode => (hagree code hcode).symm
  · have hnone : ∀ n, (p, n) ∉ blocks := not_exists.mp hp
    rw [lastWrite_strokes fun n hn => absurd hn (hnone n), if_neg (hnone code)]
    exact ⟨nofun, fun hcode => absurd hcode (hnone code)⟩

/-- The order of blocks with different targets does not matter for the last writes. -/
theorem lastWrite_strokes_perm (hperm : blocks.Perm blocks')
    (htargets : (blocks.map Prod.fst).Nodup) (start p : Position) :
    lastWrite start p (strokes blocks) = lastWrite start p (strokes blocks') := by
  have htargets' : (blocks'.map Prod.fst).Nodup := (hperm.map Prod.fst).nodup_iff.mp htargets
  ext code
  rw [lastWrite_strokes_eq_some_iff htargets, lastWrite_strokes_eq_some_iff htargets',
    hperm.mem_iff]

/-- A paint does not count for the last writes if its cell is painted again. -/
theorem lastWrite_overpainted {front middle : List Command} (rest : List Command) (code' : Int)
    (hcursor : lastTarget start (front ++ setColor code :: middle) = lastTarget start front)
    (p : Position) :
    lastWrite start p (front ++ setColor code :: (middle ++ setColor code' :: rest)) =
      lastWrite start p (front ++ (middle ++ setColor code' :: rest)) := by
  rw [lastTarget_append, lastTarget] at hcursor
  rw [lastWrite_append, lastWrite_append start p front, lastWrite]
  by_cases hp : lastTarget start front = p
  · -- The second paint of the cell, or one behind it, hides the first.
    have hagain :
        (lastWrite (lastTarget start front) p (middle ++ setColor code' :: rest)).isSome := by
      rw [lastWrite_append, lastWrite, hcursor, if_pos hp]
      simp
    obtain ⟨n, hn⟩ := Option.isSome_iff_exists.mp hagain
    rw [hn, Option.some_or]
  · rw [if_neg hp, Option.or_none]

end Command

namespace Grid

/-! ## Drawing a grid -/

/-- The cells of a grid as blocks: every position with the code of its colour. -/
def blocks (g : Grid) : List (Position × Int) :=
  g.rows.zipIdx.flatMap fun (row, y) => row.zipIdx.map fun (c, x) => (⟨x, y⟩, c.code)

variable {g target : Grid} {p : Position} {code : Int}

theorem mem_blocks :
    (p, code) ∈ g.blocks ↔ ∃ x y c, g.colorAt? x y = some c ∧ p = ⟨x, y⟩ ∧ code = c.code := by
  simp only [blocks, List.mem_flatMap, List.mem_map, List.mem_zipIdx_iff_getElem?, Prod.exists]
  constructor
  · rintro ⟨row, y, hrow, c, x, hc, heq⟩
    obtain ⟨rfl, rfl⟩ := Prod.mk.inj heq
    exact ⟨x, y, c, by rw [colorAt?, hrow]; exact hc, rfl, rfl⟩
  · rintro ⟨x, y, c, hcell, rfl, rfl⟩
    obtain ⟨row, hrow, hc⟩ := Option.bind_eq_some_iff.mp hcell
    exact ⟨row, y, hrow, c, x, hc, rfl⟩

theorem mem_blocks_natCast {x y : Nat} :
    ((⟨x, y⟩ : Position), code) ∈ g.blocks ↔ ∃ c, g.colorAt? x y = some c ∧ code = c.code := by
  rw [mem_blocks]
  constructor
  · rintro ⟨x', y', c, hcell, hp, hcode⟩
    have hx : (x : Int) = x' ∧ (y : Int) = y' := Position.mk.inj hp
    obtain ⟨rfl, rfl⟩ : x = x' ∧ y = y' := by omega
    exact ⟨c, hcell, hcode⟩
  · rintro ⟨c, hcell, hcode⟩
    exact ⟨x, y, c, hcell, rfl, hcode⟩

/-- The last write of the blocks of a grid to a cell is the code of its colour. -/
theorem lastWrite_blocks (g : Grid) (start : Position) (x y : Nat) :
    Command.lastWrite start ⟨x, y⟩ (Command.strokes g.blocks) =
      (g.colorAt? x y).map fun c => (c.code : Int) := by
  cases hcell : g.colorAt? x y with
  | some c =>
    have hagree : ∀ code', ((⟨x, y⟩ : Position), code') ∈ g.blocks → code' = c.code := by
      intro code' h
      obtain ⟨c', hc', rfl⟩ := mem_blocks_natCast.mp h
      rw [hcell] at hc'
      rw [Option.some.inj hc']
    rw [Command.lastWrite_strokes hagree, if_pos (mem_blocks_natCast.mpr ⟨c, hcell, rfl⟩),
      Option.map_some]
  | none =>
    have hnone : ∀ code', ((⟨x, y⟩ : Position), code') ∉ g.blocks := by
      intro code' h
      obtain ⟨c', hc', -⟩ := mem_blocks_natCast.mp h
      rw [hcell] at hc'
      cases hc'
    exact (Command.lastWrite_strokes fun code' h => absurd h (hnone code')).trans
      (if_neg (hnone 0))

/-- The stream that draws a grid. -/
def drawing (g : Grid) : List Int := Command.encodeAll (Command.strokes g.blocks)

/-- No stroke of a grid is refused on a display of its size. -/
theorem refusal?_of_mem_strokes {c : Command} (hc : c ∈ Command.strokes g.blocks) :
    (Item.command c).refusal? g.width g.height = none := by
  obtain ⟨p, code, hblock, hstroke⟩ := Command.mem_strokes.mp hc
  obtain ⟨x, y, color, hcell, rfl, rfl⟩ := mem_blocks.mp hblock
  rcases hstroke with rfl | rfl
  · have hinside := colorAt?_isSome_iff.mp (Option.isSome_of_eq_some hcell)
    exact Item.refusal?_moveCursor_eq_none_iff.mpr (Position.inside_natCast.mpr hinside)
  · exact Item.refusal?_setColor_eq_none_iff.mpr color.isLegal_code

/-- The stream that draws a grid is read as its strokes. -/
theorem parse_drawing (g : Grid) :
    Command.parse true g.drawing = .ok (Command.strokes g.blocks) :=
  Command.parse_encodeAll fun _ hc => Command.passes_true_iff.mpr
    (Item.hasLegalColor_of_not_refused (refusal?_of_mem_strokes hc))

/-- **The stream made from a grid draws it** on every grid of its size. -/
theorem process_drawing (hwidth : g.width = target.width) (hheight : g.height = target.height) :
    g.process target.drawing = ⟨target, .ok ()⟩ := by
  have hstrokes : ∀ c ∈ Command.strokes target.blocks,
      (Item.command c).refusal? g.width g.height = none := by
    intro c hc
    rw [hwidth, hheight]
    exact refusal?_of_mem_strokes hc
  have hm := Machine.inBounds_new g
  have hrun := Machine.runQueue_eq hm hstrokes
  have hdrawn : ((Command.strokes target.blocks).foldl Machine.obey (.new g)).grid = target := by
    refine eq_of_colorAt?_inside ((Machine.width_foldl_obey _ _).trans hwidth)
      ((Machine.height_foldl_obey _ _).trans hheight) fun x y hx hy => ?_
    have hx' : x < target.width := by rwa [Machine.width_foldl_obey, Machine.new, hwidth] at hx
    have hy' : y < target.height := by rwa [Machine.height_foldl_obey, Machine.new, hheight] at hy
    -- Every cell of the target is written, so what the grid showed there does not matter.
    obtain ⟨c, hc⟩ := Option.isSome_iff_exists.mp (colorAt?_isSome_iff.mpr ⟨hx', hy'⟩)
    rw [Machine.colorAt?_foldl_obey hm hstrokes, lastWrite_blocks, hc]
    simp
  rw [process_of_parse_ok (parse_drawing target), hrun, hdrawn]

end Grid

namespace Machine

open Command

variable {width height : Nat} {a b cs : List Command}

/-! ## Telling queues apart -/

/-- From every grid of this size both queues run to their end, and they leave the same grid. -/
def Interchangeable (width height : Nat) (a b : List Command) : Prop :=
  ∀ g : Grid, g.width = width → g.height = height →
    ((new g).runQueue a).outcome = .ok () ∧ ((new g).runQueue b).outcome = .ok () ∧
      ((new g).runQueue a).machine.grid = ((new g).runQueue b).machine.grid

/-- A cell shows what a queue that fits wrote there last, and what it showed before if nothing was.
-/
theorem colorAt?_runQueue (g : Grid) (hcs : Fits g.width g.height cs) (x y : Nat) :
    ((new g).runQueue cs).machine.grid.colorAt? x y =
      ((lastWrite .origin ⟨x, y⟩ cs).map Grid.legalColor).or (g.colorAt? x y) := by
  rw [runQueue, colorAt?_run_new, Item.executable_map_command (fits_iff.mp hcs)]

/-- Two last writes that show alike on every colour are one. -/
theorem eq_of_shows {o o' : Option Int} (ho : ∀ n, o = some n → Color.IsLegal n)
    (ho' : ∀ n, o' = some n → Color.IsLegal n)
    (hshows : ∀ c, (o.map Grid.legalColor).or (some c) = (o'.map Grid.legalColor).or (some c)) :
    o = o' := by
  have hother : ∀ c : Color, ∃ d, d ≠ c := by
    intro c
    rcases c with _ | _ | _
    · exact ⟨.green, nofun⟩
    · exact ⟨.red, nofun⟩
    · exact ⟨.red, nofun⟩
  -- Where only one of them writes, a colour other than the written one shows the difference.
  rcases o with _ | n
  · rcases o' with _ | n'
    · rfl
    · obtain ⟨d, hd⟩ := hother (Grid.legalColor n')
      exact absurd (Option.some.inj (hshows d)) hd
  · rcases o' with _ | n'
    · obtain ⟨d, hd⟩ := hother (Grid.legalColor n)
      exact absurd (Option.some.inj (hshows d)).symm hd
    · have hcolor : Grid.legalColor n = Grid.legalColor n' := Option.some.inj (hshows .red)
      have hn := Grid.code_legalColor (ho n rfl)
      have hn' := Grid.code_legalColor (ho' n' rfl)
      rw [← hn, hcolor, hn']

/-- Queues that fit are interchangeable exactly if they write the same last in every cell. -/
theorem interchangeable_iff (ha : Fits width height a) (hb : Fits width height b) :
    Interchangeable width height a b ↔
      ∀ p : Position, p.Inside width height → lastWrite .origin p a = lastWrite .origin p b := by
  constructor
  · rintro h ⟨x, y⟩ hp
    obtain ⟨x, rfl⟩ := Int.eq_ofNat_of_zero_le hp.1
    obtain ⟨y, rfl⟩ := Int.eq_ofNat_of_zero_le hp.2.2.1
    obtain ⟨hx, hy⟩ := Position.inside_natCast.mp hp
    refine eq_of_shows (fun n => ha.isLegal_of_lastWrite) (fun n => hb.isLegal_of_lastWrite) ?_
    -- A grid of one colour that neither queue writes there tells them apart.
    intro c
    let g := Grid.fill width height (Nat.zero_lt_of_lt hx) (Nat.zero_lt_of_lt hy) c
    obtain ⟨-, -, hgrid⟩ := h g rfl rfl
    have hcell := congrArg (Grid.colorAt? · x y) hgrid
    have hg : g.colorAt? x y = some c := Grid.colorAt?_fill _ _ c hx hy
    simpa only [colorAt?_runQueue g ha, colorAt?_runQueue g hb, hg] using hcell
  · rintro h g rfl rfl
    have hm : (new g).InBounds := inBounds_new g
    -- Both queues run to their end, so it is left to compare the grids cell by cell.
    have hrun := runQueue_eq hm (fits_iff.mp ha)
    have hrun' := runQueue_eq hm (fits_iff.mp hb)
    refine ⟨by rw [hrun], by rw [hrun'], ?_⟩
    have hwidth : ∀ cs, ((new g).runQueue cs).machine.grid.width = g.width :=
      fun cs => width_run hm _
    have hheight : ∀ cs, ((new g).runQueue cs).machine.grid.height = g.height :=
      fun cs => height_run hm _
    refine Grid.eq_of_colorAt?_inside (by rw [hwidth, hwidth]) (by rw [hheight, hheight]) ?_
    intro x y hx hy
    rw [hwidth] at hx
    rw [hheight] at hy
    rw [colorAt?_runQueue g ha, colorAt?_runQueue g hb, h _ (Position.inside_natCast.mpr ⟨hx, hy⟩)]

/-- **Queues that fit are told apart by their last writes and by nothing else.** They lead from
every grid to the same grid exactly if each cell has the same last write in both, or none in both.
So blocks of a move and a paint with different targets may be put in any order, and a paint may be
left out if the cursor is on its cell again for a later paint. -/
theorem interchangeable_iff_same_lastWrites (width height : Nat) :
    (∀ a b, Fits width height a → Fits width height b →
      (Interchangeable width height a b ↔
        ∀ p : Position, p.Inside width height →
          lastWrite .origin p a = lastWrite .origin p b)) ∧
    (∀ blocks blocks' : List (Position × Int), blocks.Perm blocks' →
      (blocks.map Prod.fst).Nodup → Fits width height (strokes blocks) →
      Interchangeable width height (strokes blocks) (strokes blocks')) ∧
    ∀ front middle rest code code',
      Fits width height (front ++ setColor code :: (middle ++ setColor code' :: rest)) →
      lastTarget .origin (front ++ setColor code :: middle) = lastTarget .origin front →
      Interchangeable width height (front ++ setColor code :: (middle ++ setColor code' :: rest))
        (front ++ (middle ++ setColor code' :: rest)) := by
  refine ⟨fun a b => interchangeable_iff, ?_, ?_⟩
  · intro blocks blocks' hperm htargets hfits
    have hstrokes : (strokes blocks).Perm (strokes blocks') := hperm.flatMap_right _
    have hfits' : Fits width height (strokes blocks') := hfits.mono hstrokes.symm.subset
    exact (interchangeable_iff hfits hfits').mpr
      fun p _ => lastWrite_strokes_perm hperm htargets .origin p
  · intro front middle rest code code' hfits hcursor
    -- Leaving a command out leaves a queue that fits.
    have hless : front ++ (middle ++ setColor code' :: rest) ⊆
        front ++ setColor code :: (middle ++ setColor code' :: rest) :=
      ((List.sublist_cons_self _ _).append_left front).subset
    exact (interchangeable_iff hfits (hfits.mono hless)).mpr
      fun p _ => lastWrite_overpainted rest code' hcursor p

/-- A paint is told from a move, two blocks change places, and a paint is left out because the
cursor comes back to its cell. -/
theorem interchangeable_iff_same_lastWrites_small :
    ¬ Interchangeable 2 1 [.setColor 3] [.moveCursor ⟨1, 0⟩] ∧
      Interchangeable 2 1 (strokes [(⟨1, 0⟩, 2), (⟨0, 0⟩, 3)])
        (strokes [(⟨0, 0⟩, 3), (⟨1, 0⟩, 2)]) ∧
      Interchangeable 2 1
        [.moveCursor ⟨1, 0⟩, .setColor 1, .moveCursor ⟨0, 0⟩, .setColor 2, .moveCursor ⟨1, 0⟩,
          .setColor 3]
        [.moveCursor ⟨1, 0⟩, .moveCursor ⟨0, 0⟩, .setColor 2, .moveCursor ⟨1, 0⟩, .setColor 3] := by
  obtain ⟨hiff, hperm, hless⟩ := interchangeable_iff_same_lastWrites 2 1
  refine ⟨?_, hperm _ _ (.swap _ _ []) (by decide) (by decide), ?_⟩
  · rw [hiff _ _ (by decide) (by decide)]
    exact fun h => absurd (h .origin (by decide)) (by decide)
  · exact hless [.moveCursor ⟨1, 0⟩] [.moveCursor ⟨0, 0⟩, .setColor 2, .moveCursor ⟨1, 0⟩] [] 1 3
      (by decide) rfl

/-! ## Running again -/

/-- Items that a new machine runs on the grid they left end the same way, and leave it as it is. -/
theorem run_again (g : Grid) (items : List Item) :
    ((new ((new g).run items).machine.grid).run items).machine.grid =
        ((new g).run items).machine.grid ∧
      ((new ((new g).run items).machine.grid).run items).outcome = ((new g).run items).outcome := by
  have hwidth : ((new g).run items).machine.grid.width = g.width := width_run (inBounds_new g) items
  have hheight : ((new g).run items).machine.grid.height = g.height :=
    height_run (inBounds_new g) items
  constructor
  · refine Grid.eq_of_colorAt? (width_run (inBounds_new _) items)
      (height_run (inBounds_new _) items) fun x y => ?_
    -- What is written is written alike, and what is not was kept the first time, too.
    rw [colorAt?_run_new, hwidth, hheight, colorAt?_run_new, ← Option.or_assoc, Option.or_self]
  · rw [run_new ((new g).run items).machine.grid, hwidth, hheight, run_new g]

end Machine

namespace Grid

/-- **A stream that is processed again changes nothing more**, also if it fails: on the grid it left
it ends the same way and leaves this grid. -/
theorem process_process (g : Grid) (stream : List Int) :
    (g.process stream).grid.process stream = g.process stream := by
  cases hparse : Command.parse true stream with
  | ok cs =>
    obtain ⟨hgrid, houtcome⟩ := Machine.run_again g (cs.map .command)
    rw [process_of_parse_ok hparse, process_of_parse_ok hparse, Machine.runQueue, Machine.runQueue,
      hgrid, houtcome]
  | error f => rw [process_of_parse_error hparse, process_of_parse_error hparse]

end Grid

end Mosaic
