import Mathlib.Algebra.BigOperators.Group.List.Basic
import Mathlib.Algebra.GroupWithZero.Nat
import Mosaic.Text.Cluster

/-!
# The cells of clusters

Taking a text apart into clusters loses nothing of it (`joined_clusters`). In a text without
joiners the counts agree as well: every cluster takes the cells that its own text takes
(`inRow_clusters`), and clusters in a row take the cells of each (`InRow.width_joined`), since all
of them but the first begin with a character that has a width of its own. So a text that is fitted
into some cells takes exactly these (`width_fitWidth`).
-/

namespace Mosaic.Text

variable {c : Char} {s t : List Char} {last : Option Char} {g : Cluster} {gs : List Cluster}

/-! ## Counting cells -/

/-- A character that has a width of its own begins a cluster wherever it stands. -/
def Leads (c : Char) : Prop := c ≠ colourSelector ∧ charWidth c ≠ 0

instance (c : Char) : Decidable (Leads c) := inferInstanceAs (Decidable (_ ∧ _))

theorem Leads.ne_joiner (h : Leads c) : c ≠ joiner := by
  rintro rfl
  exact absurd h (by decide +kernel)

@[simp] theorem widthAfter_nil (last : Option Char) : widthAfter last [] = 0 := rfl

/-- A selector widens the latest character if this is a picture, once. -/
theorem widthAfter_selector (last : Option Char) (s : List Char) :
    widthAfter last (colourSelector :: s) = (last.any isPicture).toNat + widthAfter none s := by
  have hne : colourSelector ≠ joiner := by decide
  rw [widthAfter.eq_def]
  simp [hne]

theorem widthAfter_cons (hjoiner : c ≠ joiner) (hselector : c ≠ colourSelector) :
    widthAfter last (c :: s) =
      charWidth c + widthAfter (if charWidth c = 0 then last else some c) s := by
  rw [widthAfter.eq_def]
  simp [hjoiner, hselector]

/-- The count goes on behind a character with a width of its own as if this was the first. -/
theorem widthAfter_of_leads (h : Leads c) (last : Option Char) (s : List Char) :
    widthAfter last (c :: s) = charWidth c + widthAfter (some c) s := by
  rw [widthAfter_cons h.ne_joiner h.1, if_neg h.2]

/-- What stands before a text can only add to its count. -/
theorem width_le_widthAfter (hs : joiner ∉ s) (last : Option Char) :
    width s ≤ widthAfter last s := by
  induction s with
  | nil => exact Nat.le_refl 0
  | cons c s ih =>
    obtain ⟨hc, hs⟩ := List.ne_and_not_mem_of_not_mem_cons hs
    by_cases hselector : c = colourSelector
    · -- Only a selector looks back at what stands before the text, and it can only add.
      rw [hselector, width, widthAfter_selector, widthAfter_selector]
      exact Nat.add_le_add_right (Nat.zero_le _) _
    · rw [width, widthAfter_cons hc.symm hselector, widthAfter_cons hc.symm hselector]
      refine Nat.add_le_add_left ?_ _
      split
      · exact ih hs
      · exact Nat.le_refl _

/-- What cannot be widened does not matter to the count. -/
theorem widthAfter_of_not_picture (hs : joiner ∉ s) (h : last.any isPicture = false) :
    widthAfter last s = width s := by
  induction s with
  | nil => rfl
  | cons c s ih =>
    obtain ⟨hc, hs⟩ := List.ne_and_not_mem_of_not_mem_cons hs
    by_cases hselector : c = colourSelector
    · rw [hselector, width, widthAfter_selector, widthAfter_selector, h]
      rfl
    · rw [width, widthAfter_cons hc.symm hselector, widthAfter_cons hc.symm hselector]
      split
      · rw [ih hs, width]
      · rfl

/-- Texts put together take at least the cells of each. -/
theorem widthAfter_add_width_le (hs : joiner ∉ s) (ht : joiner ∉ t) (last : Option Char) :
    widthAfter last s + width t ≤ widthAfter last (s ++ t) := by
  induction s generalizing last with
  | nil => simpa using width_le_widthAfter ht last
  | cons c s ih =>
    obtain ⟨hc, hs⟩ := List.ne_and_not_mem_of_not_mem_cons hs
    by_cases hselector : c = colourSelector
    · rw [hselector, List.cons_append, widthAfter_selector, widthAfter_selector, Nat.add_assoc]
      exact Nat.add_le_add_left (ih hs none) _
    · rw [List.cons_append, widthAfter_cons hc.symm hselector, widthAfter_cons hc.symm hselector,
        Nat.add_assoc]
      exact Nat.add_le_add_left (ih hs _) _

/-- Before a character with a width of its own a text takes just its own cells. -/
theorem widthAfter_append (hs : joiner ∉ s) (hc : Leads c) (last : Option Char) (t : List Char) :
    widthAfter last (s ++ c :: t) = widthAfter last s + width (c :: t) := by
  induction s generalizing last with
  | nil => rw [List.nil_append, widthAfter_nil, Nat.zero_add, width, widthAfter_of_leads hc,
      widthAfter_of_leads hc]
  | cons d s ih =>
    obtain ⟨hd, hs⟩ := List.ne_and_not_mem_of_not_mem_cons hs
    by_cases hselector : d = colourSelector
    · rw [hselector, List.cons_append, widthAfter_selector, widthAfter_selector, ih hs,
        Nat.add_assoc]
    · rw [List.cons_append, widthAfter_cons hd.symm hselector, widthAfter_cons hd.symm hselector,
        ih hs, Nat.add_assoc]

/-- Several texts take together at least the cells of each. -/
theorem sum_width_le {texts : List (List Char)} (h : joiner ∉ texts.flatten) :
    (texts.map width).sum ≤ width texts.flatten := by
  induction texts with
  | nil => exact Nat.le_refl 0
  | cons s texts ih =>
    rw [List.flatten_cons, List.mem_append, not_or] at h
    rw [List.map_cons, List.sum_cons, List.flatten_cons]
    exact Nat.le_trans (Nat.add_le_add_left (ih h.2) _) (widthAfter_add_width_le h.1 h.2 none)

/-- The front of a text takes no more cells than the text. -/
theorem width_le_of_isPrefix (hs : joiner ∉ s) (h : t <+: s) : width t ≤ width s := by
  obtain ⟨rest, rfl⟩ := h
  rw [List.mem_append, not_or] at hs
  exact Nat.le_trans (Nat.le_add_right _ _) (widthAfter_add_width_le hs.1 hs.2 none)

/-! ## Taking apart -/

/-- The cells that clusters take. -/
def cells (gs : List Cluster) : Nat := (gs.map Cluster.width).sum

/-- The text of clusters. -/
def joined (gs : List Cluster) : List Char := gs.flatMap Cluster.text

@[simp] theorem joined_nil : joined [] = [] := rfl

@[simp] theorem joined_cons (g : Cluster) (gs : List Cluster) :
    joined (g :: gs) = g.text ++ joined gs := rfl

@[simp] theorem cells_nil : cells [] = 0 := rfl

@[simp] theorem cells_cons (g : Cluster) (gs : List Cluster) :
    cells (g :: gs) = g.width + cells gs := List.sum_cons

@[simp] theorem joined_append (gs gs' : List Cluster) :
    joined (gs ++ gs') = joined gs ++ joined gs' := List.flatMap_append

theorem joined_flatten (blocks : List (List Cluster)) :
    joined blocks.flatten = blocks.flatMap joined := by
  induction blocks with
  | nil => rfl
  | cons b blocks ih => rw [List.flatten_cons, joined_append, ih, List.flatMap_cons]

namespace Clustering

variable {k : Clustering}

/-- Clustering has taken in a text without joiners. The latest cluster is the only one that a
character can still change, and counting its text on its own goes on as the clustering does. -/
structure Sound (k : Clustering) (t : List Char) : Prop where
  untied : k.tied = false
  joined_eq : joined k.found.reverse = t
  fresh : k.found = [] → k.last = none
  latest : ∀ g ∈ k.found.head?, ∀ s, joiner ∉ s →
    width (g.text ++ s) = g.width + widthAfter k.last s
  ne_nil : ∀ g ∈ k.found, g.text ≠ []
  width_eq : ∀ g ∈ k.found, width g.text = g.width
  leads : ∀ g ∈ k.found.dropLast, ∃ c ∈ g.text.head?, Leads c

theorem sound_empty : Sound {} [] where
  untied := rfl
  joined_eq := rfl
  fresh := fun _ => rfl
  latest := nofun
  ne_nil := nofun
  width_eq := nofun
  leads := nofun

/-- A character that begins a cluster either has a width of its own or is the first of all. -/
theorem Sound.start (h : Sound k t) (hc : c ≠ joiner) (hfirst : k.found = [] ∨ Leads c) :
    Sound (k.start c) (t ++ [c]) := by
  -- The new cluster is the latest one, and its character is counted as the first of a text.
  have hlatest : ∀ g ∈ (k.start c).found.head?, ∀ s, joiner ∉ s →
      width (g.text ++ s) = g.width + widthAfter (k.start c).last s := by
    intro g hg s _
    obtain rfl := Option.mem_some.mp hg
    by_cases hselector : c = colourSelector
    · have hnone : k.last = none := h.fresh (hfirst.resolve_right fun hlead => hlead.1 hselector)
      simp [Clustering.start, hselector, width, widthAfter_selector, hnone]
    · have hlast : (if charWidth c = 0 then k.last else some c) =
          if charWidth c = 0 then none else some c := by
        split
        · exact h.fresh (hfirst.resolve_right fun hlead => hlead.2 ‹_›)
        · rfl
      simp [Clustering.start, hc, hselector, width, widthAfter_cons, hlast]
  refine ⟨rfl, ?_, nofun, hlatest, ?_, ?_, ?_⟩
  · simp [Clustering.start, h.joined_eq]
  · exact List.forall_mem_cons.mpr ⟨List.cons_ne_nil _ _, h.ne_nil⟩
  · refine List.forall_mem_cons.mpr ⟨?_, h.width_eq⟩
    simpa using hlatest _ (Option.mem_some.mpr rfl) [] (List.not_mem_nil)
  · cases hfound : k.found with
    | nil => simp [Clustering.start, hfound]
    | cons g gs =>
      have hlead : Leads c := hfirst.resolve_left (by simp [hfound])
      have hrest := h.leads
      rw [hfound] at hrest
      simp only [Clustering.start, hfound, List.dropLast_cons_cons]
      exact List.forall_mem_cons.mpr ⟨⟨c, rfl, hlead⟩, hrest⟩

/-- A character that is added to the latest cluster counts there with the cells that it adds. -/
theorem Sound.attach {w : Nat} {l : Option Char} (h : Sound k t) (hfound : k.found = g :: gs)
    (hcount : ∀ s, joiner ∉ s → widthAfter k.last (c :: s) = w + widthAfter l s)
    (hc : c ≠ joiner) :
    Sound { found := { text := g.text ++ [c], width := g.width + w } :: gs, last := l }
      (t ++ [c]) := by
  -- What the character adds to the text it adds to the count of the latest cluster.
  have hlatest : ∀ s, joiner ∉ s →
      width (g.text ++ [c] ++ s) = g.width + w + widthAfter l s := by
    intro s hs
    have hg := h.latest g (by rw [hfound]; rfl) (c :: s) (by simp [hs, hc.symm])
    rw [List.append_assoc, List.singleton_append, hg, hcount s hs, Nat.add_assoc]
  have hne := h.ne_nil
  have hwidth := h.width_eq
  have hleads := h.leads
  have hjoined := h.joined_eq
  rw [hfound] at hne hwidth hleads hjoined
  refine ⟨rfl, ?_, nofun, ?_, ?_, ?_, ?_⟩
  · simp [← hjoined]
  · intro g' hg'
    obtain rfl := Option.mem_some.mp hg'
    exact hlatest
  · exact List.forall_mem_cons.mpr ⟨by simp, (List.forall_mem_cons.mp hne).2⟩
  · refine List.forall_mem_cons.mpr ⟨?_, (List.forall_mem_cons.mp hwidth).2⟩
    simpa using hlatest [] List.not_mem_nil
  · cases gs with
    | nil => nofun
    | cons g' gs =>
      rw [List.dropLast_cons_cons, List.forall_mem_cons] at hleads ⊢
      obtain ⟨⟨d, hd, hlead⟩, hrest⟩ := hleads
      refine ⟨⟨d, ?_, hlead⟩, hrest⟩
      simp [Option.mem_def.mp hd]

/-- **One step**: taking in a character keeps the clustering sound. -/
theorem Sound.add (h : Sound k t) (hc : c ≠ joiner) : Sound (k.add c) (t ++ [c]) := by
  unfold Clustering.add
  cases hfound : k.found with
  | nil => exact h.start hc (.inl hfound)
  | cons g gs =>
    simp only [h.untied, Bool.false_eq_true, if_false, if_neg hc]
    split
    · rename_i hselector
      split
      · rename_i hpicture
        refine h.attach hfound (fun s _ => ?_) hc
        rw [hselector, widthAfter_selector, hpicture]
        rfl
      · rename_i hpicture
        refine h.attach (w := 0) (l := k.last) hfound (fun s hs => ?_) hc
        rw [hselector, widthAfter_selector, Bool.eq_false_iff.mpr hpicture,
          widthAfter_of_not_picture hs (Bool.eq_false_iff.mpr hpicture)]
        rfl
    · rename_i hselector
      split
      · rename_i hzero
        -- A character without cells joins it as well; any other begins a cluster.
        refine h.attach (w := 0) (l := k.last) hfound (fun s _ => ?_) hc
        rw [widthAfter_cons hc hselector, if_pos hzero, hzero]
      · rename_i hwide
        exact h.start hc (.inr ⟨hselector, hwide⟩)

/-- **A whole run**: a text without joiners is clustered soundly. -/
theorem Sound.foldl (h : Sound k t) (hs : joiner ∉ s) :
    Sound (s.foldl Clustering.add k) (t ++ s) := by
  induction s generalizing k t with
  | nil => simpa using h
  | cons c s ih =>
    obtain ⟨hc, hs⟩ := List.ne_and_not_mem_of_not_mem_cons hs
    simpa using ih (h.add hc.symm) hs

end Clustering

/-- Clusters as they stand in a row in a text without joiners: each takes the cells of its text, and
all but the first begin with a character that has a width of its own. -/
structure InRow (gs : List Cluster) : Prop where
  unjoined : ∀ g ∈ gs, joiner ∉ g.text
  width_eq : ∀ g ∈ gs, width g.text = g.width
  leads : ∀ g ∈ gs.tail, ∃ c ∈ g.text.head?, Leads c

/-- Clustering a text without joiners ends soundly. -/
theorem sound_clusters (hs : joiner ∉ s) :
    Clustering.Sound (s.foldl Clustering.add {}) s := Clustering.sound_empty.foldl hs

/-- **Clusters put together are the text.** -/
theorem joined_clusters (hs : joiner ∉ s) : joined (clusters s) = s := (sound_clusters hs).joined_eq

theorem ne_nil_of_mem_clusters (hs : joiner ∉ s) (hg : g ∈ clusters s) : g.text ≠ [] :=
  (sound_clusters hs).ne_nil g (List.mem_reverse.mp hg)

theorem inRow_clusters (hs : joiner ∉ s) : InRow (clusters s) where
  unjoined g hg hmem := by
    rw [← joined_clusters hs] at hs
    exact hs (List.mem_flatMap.mpr ⟨g, hg, hmem⟩)
  width_eq g hg := (sound_clusters hs).width_eq g (List.mem_reverse.mp hg)
  leads g hg := by
    rw [clusters, List.tail_reverse] at hg
    exact (sound_clusters hs).leads g (List.mem_reverse.mp hg)

/-- Consecutive clusters out of a row stand in a row. -/
theorem InRow.part {bs : List Cluster} (h : InRow gs) (hbs : bs <:+: gs) : InRow bs where
  unjoined g hg := h.unjoined g (hbs.mem hg)
  width_eq g hg := h.width_eq g (hbs.mem hg)
  leads g hg := by
    refine h.leads g ?_
    obtain ⟨before, after, rfl⟩ := hbs
    cases before with
    | nil =>
      cases bs with
      | nil => cases hg
      | cons b bs => exact List.mem_append_left after hg
    | cons b before =>
      exact List.mem_append_left after (List.mem_append_right before (List.mem_of_mem_tail hg))

/-- **Clusters in a row take the cells of each.** -/
theorem InRow.width_joined (h : InRow gs) : width (joined gs) = cells gs := by
  induction gs with
  | nil => rfl
  | cons g gs ih =>
    have hrest := ih (h.part (List.suffix_cons g gs).isInfix)
    have hg := h.width_eq g List.mem_cons_self
    cases gs with
    | nil => simp [hg]
    | cons g' gs =>
      obtain ⟨c, hhead, hlead⟩ := h.leads g' List.mem_cons_self
      obtain ⟨s, hs⟩ := List.head?_eq_some_iff.mp (Option.mem_def.mp hhead)
      rw [joined_cons, hs, List.cons_append] at hrest
      -- The next cluster begins with a width of its own, so the count can be cut in front of it.
      calc width (joined (g :: g' :: gs))
          = width (g.text ++ c :: (s ++ joined gs)) := by
            rw [joined_cons, joined_cons, hs, List.cons_append]
        _ = width g.text + width (c :: (s ++ joined gs)) :=
            widthAfter_append (h.unjoined g List.mem_cons_self) hlead none _
        _ = cells (g :: g' :: gs) := by rw [hrest, hg, cells_cons g]

/-- The clusters of a text without joiners take the cells of the text. -/
theorem cells_clusters (hs : joiner ∉ s) : cells (clusters s) = width s := by
  rw [← (inRow_clusters hs).width_joined, joined_clusters hs]

/-! ## Cutting -/

/-- The clusters that fit are those at the front, and they fit. -/
theorem fittingClusters_spec (n : Nat) (gs : List Cluster) :
    fittingClusters n gs <+: gs ∧ cells (fittingClusters n gs) ≤ n := by
  induction gs generalizing n with
  | nil => exact ⟨List.prefix_rfl, Nat.zero_le n⟩
  | cons g gs ih =>
    rw [fittingClusters]
    split
    · obtain ⟨hfront, hcells⟩ := ih (n - g.width)
      refine ⟨(List.prefix_cons_inj g).mpr hfront, ?_⟩
      rw [cells_cons]
      omega
    · exact ⟨List.nil_prefix, Nat.zero_le n⟩

theorem leads_space : Leads ' ' := by decide +kernel

theorem width_replicate_space (n : Nat) : width (List.replicate n ' ') = n := by
  have hspace : charWidth ' ' = 1 := by decide +kernel
  have hafter : ∀ last, widthAfter last (List.replicate n ' ') = n := by
    induction n with
    | zero => exact fun last => rfl
    | succ n ih =>
      intro last
      rw [List.replicate_succ, widthAfter_of_leads leads_space, ih, hspace, Nat.add_comm]
  exact hafter none

/-- Spaces behind a text take a cell each. -/
theorem width_append_spaces (hs : joiner ∉ s) (n : Nat) :
    width (s ++ List.replicate n ' ') = width s + n := by
  cases n with
  | zero => simp
  | succ n =>
    rw [List.replicate_succ, width, widthAfter_append hs leads_space, ← List.replicate_succ,
      width_replicate_space, width]

/-- **A text that is fitted into some cells takes exactly these.** -/
theorem width_fitWidth (hs : joiner ∉ s) (n : Nat) : width (fitWidth n s) = n := by
  unfold fitWidth
  split
  · rw [width_append_spaces hs]
    omega
  · obtain ⟨hfront, hcells⟩ := fittingClusters_spec n (clusters s)
    have hrow := (inRow_clusters hs).part hfront.isInfix
    have hunjoined : joiner ∉ joined (fittingClusters n (clusters s)) := fun hmem =>
      have ⟨g, hg, hmem⟩ := List.mem_flatMap.mp hmem
      hrow.unjoined g hg hmem
    have hsum : (fittingClusters n (clusters s)).foldl (fun w g => w + g.width) 0 =
        cells (fittingClusters n (clusters s)) := by
      rw [cells, List.sum_eq_foldl, List.foldl_map]
    change width (joined _ ++ _) = n
    rw [width_append_spaces hunjoined, hrow.width_joined, hsum]
    omega

/-- A fitted text holds nothing but characters of the text and spaces. -/
theorem mem_fitWidth {n : Nat} (hs : joiner ∉ s) (h : c ∈ fitWidth n s) : c ∈ s ∨ c = ' ' := by
  unfold fitWidth at h
  split at h
  · exact (List.mem_append.mp h).imp id List.eq_of_mem_replicate
  · refine (List.mem_append.mp h).imp (fun hmem => ?_) List.eq_of_mem_replicate
    obtain ⟨g, hg, hmem⟩ := List.mem_flatMap.mp hmem
    rw [← joined_clusters hs]
    exact List.mem_flatMap.mpr ⟨g, (fittingClusters_spec n _).1.subset hg, hmem⟩

end Mosaic.Text
