import Mathlib.Algebra.BigOperators.Group.Finset.Sigma
import Mathlib.Algebra.BigOperators.Ring.Finset
import Mathlib.Data.Finset.Card
import Mathlib.Data.Finset.Prod
import Mosaic.Proofs.Failure
import Mosaic.Machine
import Mosaic.Proofs.Gallery
import Mosaic.Proofs.Grid.Store
import Mosaic.Proofs.Picture

/-!
# Cells are counted, repainted, and never lost

The count of a colour is the number of the positions that show it (`card_showing`), and with that
what a write does to the counts is what it does to sets of positions: the position leaves the cells
of its old colour and joins those of the new one (`showing_put`). So the histogram of a grid tallies
its cells (`Tallies`), and a write moves one cell from one entry to another.

What a machine does to its grid is bounded in the same way: `Near n` says that a grid has kept its
size and all but `n` of its cells. A command that is applied adds one to the bound if it paints and
nothing otherwise, and the bounds of the commands of a history add up.
-/

namespace Mosaic

/-- The position in a column and a row. -/
def Position.ofIndices : Nat × Nat ↪ Position where
  toFun q := ⟨q.1, q.2⟩
  inj' q r hqr := by
    obtain ⟨hx, hy⟩ := Position.mk.inj hqr
    exact Prod.ext (Int.ofNat.inj hx) (Int.ofNat.inj hy)

/-- The command paints. -/
def Command.isPaint : Command → Bool
  | moveCursor _ => false
  | setColor _ => true

namespace Grid

variable {g h k : Grid} {p : Position} {c d : Color} {m n : Nat}

/-! ## Positions and colours -/

/-- The positions of the cells. -/
def positions (g : Grid) : Finset Position :=
  (Finset.range g.width ×ˢ Finset.range g.height).map Position.ofIndices

theorem mem_positions : p ∈ g.positions ↔ g.Contains p := by
  simp only [positions, Finset.mem_map, Finset.mem_product, Finset.mem_range]
  constructor
  · rintro ⟨q, hq, rfl⟩
    exact Position.inside_natCast.mpr hq
  · intro hp
    refine ⟨(p.x.toNat, p.y.toNat), ⟨hp.toNat_x_lt, hp.toNat_y_lt⟩, ?_⟩
    change (⟨p.x.toNat, p.y.toNat⟩ : Position) = p
    rw [Int.toNat_of_nonneg hp.1, Int.toNat_of_nonneg hp.2.2.1]

/-- The positions of the cells of one colour. -/
def showing (g : Grid) (c : Color) : Finset Position := g.positions.filter fun p => g.get p = .ok c

theorem mem_showing : p ∈ g.showing c ↔ g.get p = .ok c := by
  rw [showing, Finset.mem_filter, mem_positions, and_iff_right_iff_imp]
  exact fun hp => (get_eq_ok_iff.mp hp).1

/-- A sum over the indices of a list is the sum over the list. -/
theorem sum_range_getElem? {α : Type} (l : List α) (f : α → Nat) :
    ∑ i ∈ Finset.range l.length, (l[i]?.map f).getD 0 = (l.map f).sum := by
  induction l with
  | nil => rfl
  | cons a l ih =>
    rw [List.length_cons, Finset.sum_range_succ', List.map_cons, List.sum_cons, Nat.add_comm, ← ih]
    rfl

theorem sum_map_eq_count (l : List Color) (c : Color) :
    (l.map fun d => if d = c then 1 else 0).sum = l.count c := by
  induction l with
  | nil => rfl
  | cons d l ih => simp [List.count_cons, ih, Nat.add_comm]

/-- The count of a colour in a row is the number of its columns where `get` finds it. -/
theorem sum_get_row {y : Nat} {row : List Color} (hrow : g.rows[y]? = some row) (c : Color) :
    ∑ x ∈ Finset.range g.width, (if g.get (.ofIndices (x, y)) = .ok c then 1 else 0) =
      row.count c := by
  have hcell : ∀ x, g.get (.ofIndices (x, y)) = .ok c ↔ row[x]? = some c := by
    intro x
    have hget : g.get (.ofIndices (x, y)) = .ok c ↔ g.colorAt? x y = some c := get_natCast_eq_ok_iff
    rw [hget, colorAt?, hrow, Option.bind_some]
  rw [← g.length_row row (List.mem_of_getElem? hrow), ← sum_map_eq_count, ← sum_range_getElem?]
  refine Finset.sum_congr rfl fun x hx => ?_
  rw [List.getElem?_eq_getElem (Finset.mem_range.mp hx), Option.map_some, Option.getD_some]
  exact if_congr (by rw [hcell, List.getElem?_eq_getElem (Finset.mem_range.mp hx), Option.some_inj])
    rfl rfl

/-- **The count of a colour is the number of the positions where `get` finds it.** -/
theorem card_showing (g : Grid) (c : Color) : (g.showing c).card = g.count c := by
  calc (g.showing c).card
      = ∑ y ∈ Finset.range g.height, ∑ x ∈ Finset.range g.width,
          if g.get (.ofIndices (x, y)) = .ok c then 1 else 0 := by
        rw [showing, positions, Finset.filter_map, Finset.card_map, Finset.card_filter,
          Finset.sum_product_right]
        rfl
    _ = ∑ y ∈ Finset.range g.rows.length, (g.rows[y]?.map (·.count c)).getD 0 := by
        -- In each row the columns that show the colour are counted by the row itself.
        rw [g.length_rows]
        refine Finset.sum_congr rfl fun y hy => ?_
        have hlt : y < g.rows.length := by rw [g.length_rows]; exact Finset.mem_range.mp hy
        have hrow := List.getElem?_eq_getElem hlt
        rw [sum_get_row hrow, hrow, Option.map_some, Option.getD_some]
    _ = (g.rows.map (·.count c)).sum := sum_range_getElem? g.rows _
    _ = g.count c := List.count_flatten.symm

/-! ## Entries of the histogram -/

theorem mem_histogram : (c, n) ∈ g.histogram ↔ n = g.count c ∧ n ≠ 0 := by
  simp only [histogram, List.mem_filter, List.mem_map, decide_eq_true_eq, Prod.mk.injEq]
  constructor
  · rintro ⟨⟨d, -, rfl, rfl⟩, hn⟩
    exact ⟨rfl, hn⟩
  · rintro ⟨rfl, hn⟩
    exact ⟨⟨c, by cases c <;> decide, rfl, rfl⟩, hn⟩

/-- A colour of a list is looked up under its count, unless that is zero. -/
theorem lookup_filter_map (f : Color → Nat) (cs : List Color) (c : Color) :
    ((cs.map fun c => (c, f c)).filter fun (_, n) => n ≠ 0).lookup c =
      if c ∈ cs ∧ f c ≠ 0 then some (f c) else none := by
  induction cs with
  | nil => rfl
  | cons d cs ih =>
    -- An entry of another colour does not matter, kept or not.
    by_cases hcd : c = d
    · subst hcd
      by_cases hc : f c = 0
      · simpa [hc] using ih
      · simp [hc]
    · have hne : (c == d) = false := beq_false_of_ne hcd
      by_cases hd : f d = 0
      · simpa [hd, hcd] using ih
      · simpa [hd, hcd, List.lookup_cons, hne] using ih

/-- The entry of a colour is its count, and there is none where the count is zero. -/
theorem lookup_histogram (g : Grid) (c : Color) :
    g.histogram.lookup c = if g.count c = 0 then none else some (g.count c) := by
  have hall : c ∈ Color.all := by cases c <;> decide
  rw [histogram, lookup_filter_map]
  by_cases hc : g.count c = 0
  · rw [if_neg fun h => h.2 hc, if_pos hc]
  · rw [if_pos ⟨hall, hc⟩, if_neg hc]

/-- The entries stand in ascending order of their codes. -/
theorem histogram_pairwise (g : Grid) :
    g.histogram.Pairwise fun a b => a.1.code < b.1.code := by
  have hall : Color.all.Pairwise fun c d => c.code < d.code := by decide
  have hentries : (Color.all.map fun c => (c, g.count c)).Pairwise fun a b => a.1.code < b.1.code :=
    List.pairwise_map.mpr hall
  exact hentries.filter _

/-- Entries of zero do not matter for the sum. -/
theorem sum_filter_ne_zero (l : List (Color × Nat)) :
    ((l.filter fun (_, n) => n ≠ 0).map Prod.snd).sum = (l.map Prod.snd).sum := by
  induction l with
  | nil => rfl
  | cons a l ih =>
    by_cases ha : a.2 = 0
    · simp [ha, ← ih]
    · simp [ha, ← ih]

/-- Every cell is counted under one colour. -/
theorem sum_count (l : List Color) : (Color.all.map fun c => l.count c).sum = l.length := by
  induction l with
  | nil => rfl
  | cons d l ih =>
    cases d <;> simp [Color.all, List.count_cons] at ih ⊢ <;> omega

theorem length_flatten_rows (g : Grid) : g.rows.flatten.length = g.width * g.height := by
  have hlengths : g.rows.map List.length = List.replicate g.height g.width := by
    refine List.eq_replicate_iff.mpr ⟨by rw [List.length_map, g.length_rows], fun n hn => ?_⟩
    obtain ⟨row, hrow, rfl⟩ := List.mem_map.mp hn
    exact g.length_row row hrow
  rw [List.length_flatten, hlengths, List.sum_replicate_nat, Nat.mul_comm]

/-- The counts sum up to the number of cells. -/
theorem sum_histogram (g : Grid) : (g.histogram.map Prod.snd).sum = g.width * g.height := by
  rw [histogram, sum_filter_ne_zero, List.map_map, ← length_flatten_rows, ← sum_count]
  rfl

/-! ## After a write -/

/-- After a write the position shows the new colour and no other. -/
theorem showing_put (hp : g.Contains p) (c d : Color) :
    (g.put p.x.toNat p.y.toNat c).showing d =
      if d = c then insert p (g.showing d) else (g.showing d).erase p := by
  ext q
  rw [mem_showing, get_put hp]
  by_cases hdc : d = c
  · subst hdc
    rw [if_pos rfl, Finset.mem_insert, mem_showing]
    by_cases hqp : q = p <;> simp [hqp]
  · rw [if_neg hdc, Finset.mem_erase, mem_showing]
    by_cases hqp : q = p <;> simp [hqp, Ne.symm hdc]

/-- Writing the colour that a cell has changes nothing. -/
theorem put_eq_self (hc : g.get p = .ok c) : g.put p.x.toNat p.y.toNat c = g := by
  have hp := (get_eq_ok_iff.mp hc).1
  refine eq_of_get rfl rfl fun q _ => ?_
  rw [get_put hp]
  by_cases hqp : q = p
  · rw [if_pos hqp, hqp, hc]
  · rw [if_neg hqp]

/-- How counts change when a cell of the colour `old` gets the colour `new`. Nothing happens if
these are one colour. Else `old` has one cell fewer, and no entry if this was the last one, `new`
has one more, and the other colours have as many as before. -/
structure Recounted (before after : List (Color × Nat)) (old new : Color) : Prop where
  same : old = new → after = before
  lowered : old ≠ new → ∃ n, before.lookup old = some (n + 1) ∧
    after.lookup old = if n = 0 then none else some n
  raised : old ≠ new → after.lookup new = some ((before.lookup new).getD 0 + 1)
  other : ∀ c, c ≠ old → c ≠ new → after.lookup c = before.lookup c

/-- A write takes one cell from the old colour and gives it to the new one. -/
theorem recounted_put (hc : g.get p = .ok c) (d : Color) :
    Recounted g.histogram (g.put p.x.toNat p.y.toNat d).histogram c d := by
  have hp := (get_eq_ok_iff.mp hc).1
  have hcount : ∀ k, (g.put p.x.toNat p.y.toNat d).count k =
      (if k = d then insert p (g.showing k) else (g.showing k).erase p).card := by
    intro k
    rw [← card_showing, showing_put hp]
  refine ⟨fun hcd => ?_, fun hcd => ?_, fun hcd => ?_, fun k hkc hkd => ?_⟩
  · rw [← hcd, put_eq_self hc]
  · -- The position was among the cells of the old colour, so these were not none.
    have hmem : p ∈ g.showing c := mem_showing.mpr hc
    obtain ⟨n, hn⟩ := Nat.exists_eq_add_one.mpr (Finset.card_pos.mpr ⟨p, hmem⟩)
    have hafter : (g.put p.x.toNat p.y.toNat d).count c = n := by
      rw [hcount, if_neg hcd, Finset.card_erase_of_mem hmem, hn, Nat.add_sub_cancel]
    rw [card_showing] at hn
    exact ⟨n, by rw [lookup_histogram, hn, if_neg n.succ_ne_zero],
      by rw [lookup_histogram, hafter]⟩
  · have hnot : p ∉ g.showing d := fun hd => hcd (Except.ok.inj (hc.symm.trans (mem_showing.mp hd)))
    have hafter : (g.put p.x.toNat p.y.toNat d).count d = g.count d + 1 := by
      rw [hcount, if_pos rfl, Finset.card_insert_of_notMem hnot, card_showing]
    rw [lookup_histogram, lookup_histogram, hafter, if_neg (Nat.succ_ne_zero _)]
    by_cases hd : g.count d = 0 <;> simp [hd]
  · have hnot : p ∉ g.showing k := fun hk => hkc (Except.ok.inj ((mem_showing.mp hk).symm.trans hc))
    have hafter : (g.put p.x.toNat p.y.toNat d).count k = g.count k := by
      rw [hcount, if_neg hkd, Finset.erase_eq_of_notMem hnot, card_showing]
    rw [lookup_histogram, lookup_histogram, hafter]

/-! ## Tallies -/

/-- The entries are the colours of the cells in ascending order of their codes, each with the number
of the positions where `get` finds it, and all of the cells are counted. -/
structure Tallies (g : Grid) (entries : List (Color × Nat)) : Prop where
  ascending : entries.Pairwise fun a b => a.1.code < b.1.code
  mem_iff : ∀ c n, (c, n) ∈ entries ↔ (∃ p, g.get p = .ok c) ∧ n = (g.showing c).card
  pos : ∀ entry ∈ entries, 0 < entry.2
  sum : (entries.map Prod.snd).sum = g.width * g.height

theorem tallies_histogram (g : Grid) : g.Tallies g.histogram where
  ascending := g.histogram_pairwise
  mem_iff c n := by
    have hpresent : (∃ p, g.get p = .ok c) ↔ g.count c ≠ 0 := by
      rw [← card_showing, Finset.card_ne_zero, Finset.Nonempty]
      simp only [mem_showing]
    rw [mem_histogram, hpresent, card_showing]
    constructor
    · rintro ⟨rfl, hn⟩
      exact ⟨hn, rfl⟩
    · rintro ⟨hn, rfl⟩
      exact ⟨rfl, hn⟩
  pos := fun (_, _) hmem => Nat.pos_of_ne_zero (mem_histogram.mp hmem).2
  sum := g.sum_histogram

/-! ## Repainted cells -/

/-- The positions whose cells are not the same in another grid. -/
def differing (g h : Grid) : Finset Position := g.positions.filter fun p => g.get p ≠ h.get p

theorem mem_differing : p ∈ g.differing h ↔ g.Contains p ∧ g.get p ≠ h.get p := by
  rw [differing, Finset.mem_filter, mem_positions]

/-- The other grid has the same size, and at most `n` of its cells are not the same. -/
structure Near (n : Nat) (g h : Grid) : Prop where
  width : h.width = g.width
  height : h.height = g.height
  card_le : (g.differing h).card ≤ n

theorem Near.refl (g : Grid) : Near 0 g g :=
  ⟨rfl, rfl, by simp [differing]⟩

/-- A cell that two changes in turn leave different was changed by one of them. -/
theorem Near.trans (hgh : Near m g h) (hhk : Near n h k) : Near (m + n) g k where
  width := hhk.width.trans hgh.width
  height := hhk.height.trans hgh.height
  card_le := by
    -- A cell that differs in the end was changed on the first part or on the second.
    have hsub : g.differing k ⊆ g.differing h ∪ h.differing k := by
      intro p hp
      obtain ⟨hinside, hne⟩ := mem_differing.mp hp
      have hinside' : h.Contains p := by rwa [Contains, hgh.width, hgh.height]
      rw [Finset.mem_union, mem_differing, mem_differing]
      by_cases hsame : g.get p = h.get p
      · exact .inr ⟨hinside', hsame ▸ hne⟩
      · exact .inl ⟨hinside, hsame⟩
    calc (g.differing k).card
        ≤ (g.differing h ∪ h.differing k).card := Finset.card_le_card hsub
      _ ≤ (g.differing h).card + (h.differing k).card := Finset.card_union_le _ _
      _ ≤ m + n := Nat.add_le_add hgh.card_le hhk.card_le

/-- A write changes one cell at most. -/
theorem near_put (hp : g.Contains p) (c : Color) : Near 1 g (g.put p.x.toNat p.y.toNat c) where
  width := rfl
  height := rfl
  card_le := by
    have hsub : g.differing (g.put p.x.toNat p.y.toNat c) ⊆ {p} := by
      intro q hq
      obtain ⟨-, hne⟩ := mem_differing.mp hq
      rw [get_put hp] at hne
      by_contra hqp
      rw [if_neg (Finset.mem_singleton.not.mp hqp)] at hne
      exact hne rfl
    exact (Finset.card_le_card hsub).trans (Finset.card_singleton p).le

end Grid

namespace Machine

variable {m m' : Machine} {c : Command}

/-- The number of paints that a list of commands counts. -/
def paints (cs : List Command) : Nat := cs.countP Command.isPaint

/-- **A command that is applied changes one cell at most, and none if it is a move.** -/
theorem near_of_apply (h : m.apply c = .ok m') : Grid.Near (paints [c]) m.grid m'.grid := by
  cases c with
  | moveCursor p =>
    by_cases hp : p.Inside m.grid.width m.grid.height
    · rw [apply, if_pos hp] at h
      obtain rfl := Except.ok.inj h
      exact .refl m.grid
    · rw [apply, if_neg hp] at h
      cases h
  | setColor code =>
    -- A paint passes two checks, of its code and of its write, and then put one cell.
    obtain ⟨color, -, hrest⟩ := bind_eq_ok_iff.mp h
    obtain ⟨g, hset, hnew⟩ := bind_eq_ok_iff.mp hrest
    obtain rfl := Except.ok.inj hnew
    obtain ⟨hinside, -, rfl⟩ := Grid.set_eq_ok_iff.mp hset
    exact Grid.near_put hinside _

theorem paints_cons (c : Command) (cs : List Command) :
    paints (c :: cs) = paints [c] + paints cs := by
  rw [← List.singleton_append, paints, List.countP_append]
  rfl

/-- A run changes as many cells at most as it applies paints. -/
theorem near_run (m : Machine) (items : List Item) :
    Grid.Near (paints (m.acceptedItems items)) m.grid (m.run items).machine.grid := by
  induction items generalizing m with
  | nil => exact .refl m.grid
  | cons i is ih =>
    cases i with
    | other text => exact .refl m.grid
    | command c =>
      cases happly : m.apply c with
      | ok m' =>
        rw [acceptedItems, run, step, happly, paints_cons]
        exact (near_of_apply happly).trans (ih m')
      | error f =>
        rw [acceptedItems, run, step, happly]
        exact .refl m.grid

theorem near_perform (m : Machine) (a : Action) :
    Grid.Near (paints (m.acceptedBy a)) m.grid (m.perform a).machine.grid := by
  cases a with
  | apply i => exact near_run m [i]
  | run is => exact near_run m is
  | stream checkColors values =>
    cases hparse : Command.parse checkColors values with
    | ok cs =>
      rw [acceptedBy, perform, runStream, hparse]
      exact near_run m _
    | error f =>
      rw [acceptedBy, perform, runStream, hparse]
      exact .refl m.grid

/-- A history changes as many cells at most as paints are accepted of it. -/
theorem near_performAll (m : Machine) (actions : List Action) :
    Grid.Near (paints (m.accepted actions)) m.grid (m.performAll actions).grid := by
  induction actions generalizing m with
  | nil => exact .refl m.grid
  | cons a as ih =>
    have hrest := (near_perform m a).trans (ih (m.perform a).machine)
    rwa [paints, paints, ← List.countP_append] at hrest

end Machine

/-- A write that succeeds turns a cell of some colour into one of the colour that the code names. -/
theorem Grid.recounted_of_set {g g' : Grid} {p : Position} {code : Int}
    (h : g.set p code = .ok g') : ∃ old new : Color, g.get p = .ok old ∧ (new.code : Int) = code ∧
      Recounted g.histogram g'.histogram old new := by
  obtain ⟨hp, hcode, rfl⟩ := set_eq_ok_iff.mp h
  obtain ⟨old, hold⟩ := exists_get_eq_ok hp
  exact ⟨old, _, hold, code_legalColor hcode, recounted_put hold _⟩

/-- **The histogram tallies the cells, and cells are only repainted.** The histogram of a grid lists
the colours present with the numbers of their cells, which sum up to all cells. A write that
succeeds, which it does at a position inside and with a legal code, moves one cell from the entry of
its old colour to that of the new one, and a write that fails moves none. So whatever is asked of a
machine, and a run is such a history, its cells stay as many as they were, and at most as many of
them differ from the start as paints were applied. -/
theorem histogram_conserved :
    (∀ g : Grid, g.Tallies g.histogram) ∧
    (∀ (gallery : Gallery) (name : String) (g : Grid) (p : Position) (code : Int),
      gallery.lookup name = some g →
      let r := gallery.perform (.set name p code)
      (r.outcome = .ok () ↔ g.Contains p ∧ Color.IsLegal code) ∧
      ∃ g', r.gallery.lookup name = some g' ∧
        match r.outcome with
        | .ok () => ∃ old new : Color, g.get p = .ok old ∧ (new.code : Int) = code ∧
            Grid.Recounted g.histogram g'.histogram old new
        | .error _ => g'.histogram = g.histogram) ∧
    ∀ (m : Machine) (actions : List Machine.Action),
      let now := (m.performAll actions).grid
      (now.histogram.map Prod.snd).sum = m.grid.width * m.grid.height ∧
      (m.grid.differing now).card ≤ Machine.paints (m.accepted actions) := by
  refine ⟨Grid.tallies_histogram, fun gallery name g p code hg => ?_, fun m actions => ?_⟩
  · -- A write is refused or done, and the histogram follows the grid that is hung up then.
    intro r
    cases hset : g.set p code with
    | ok g' =>
      have hr : r = ⟨gallery.hang name g', .ok ()⟩ := Gallery.perform_set_of_ok hg hset
      obtain ⟨hp, hcode, -⟩ := Grid.set_eq_ok_iff.mp hset
      rw [hr]
      exact ⟨iff_of_true rfl ⟨hp, hcode⟩, g', gallery.lookup_hang_self name g',
        Grid.recounted_of_set hset⟩
    | error e =>
      have hr : r = ⟨gallery.hang name g, .error e⟩ := Gallery.perform_set_of_error hg hset
      have hrefused : ¬ (g.Contains p ∧ Color.IsLegal code) := by
        rintro ⟨hp, hcode⟩
        cases hset.symm.trans (Grid.set_eq_ok_iff.mpr ⟨hp, hcode, rfl⟩)
      rw [hr]
      exact ⟨iff_of_false nofun hrefused, g, gallery.lookup_hang_self name g, rfl⟩
  · have hnear := Machine.near_performAll m actions
    intro now
    exact ⟨by rw [Grid.sum_histogram, hnear.width, hnear.height], hnear.card_le⟩

/-- The last cell of a colour takes the entry of the colour with it. -/
theorem histogram_conserved_last_cell :
    let g := Grid.fill 1 1 (by decide) (by decide) .red
    let r := Gallery.perform [("a", g)] (.set "a" ⟨0, 0⟩ 3)
    List.lookup "a" [("a", g)] = some g ∧ r.outcome = .ok () ∧
      ∃ g', r.gallery.lookup "a" = some g' ∧
        Grid.Recounted g.histogram g'.histogram .red .cyan ∧ g'.histogram.lookup .red = none := by
  intro g r
  obtain ⟨hsucceeds, g', hg', hcounts⟩ := histogram_conserved.2.1 [("a", g)] "a" g ⟨0, 0⟩ 3 rfl
  have hr : r.outcome = .ok () := hsucceeds.mpr ⟨by decide, by decide⟩
  rw [hr] at hcounts
  obtain ⟨old, new, hold, hnew, hrecounted⟩ := hcounts
  obtain rfl : old = .red := Except.ok.inj (hold.symm.trans (by decide))
  obtain rfl : new = .cyan := Color.code_injective (Int.ofNat.inj hnew)
  obtain ⟨n, hbefore, hafter⟩ := hrecounted.lowered (by decide)
  have hone : n + 1 = 1 := Option.some.inj (hbefore.symm.trans (by decide))
  exact ⟨rfl, hr, g', hg', hrecounted, hafter.trans (if_pos (Nat.succ.inj hone))⟩

end Mosaic
