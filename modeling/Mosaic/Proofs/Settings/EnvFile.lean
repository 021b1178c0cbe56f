import Mathlib.Data.List.Forall2
import Mathlib.Data.List.Induction
import Mosaic.Settings.Layer

/-!
# References in files of variables

A value with references is not known from the file alone, but nothing outside the file matters
except the variables of the environment that it refers to (`parse_congr`). Names and whether there
is a value are as they are written, and so is a value without a reference (`AsWritten`).
-/

namespace Mosaic.EnvFile

variable {lookup lookup' : String → Option String} {s : List Char} {b b' : Binding}
  {bs bs' : List Binding} {environment environment' : List (String × String)} {text : String}

theorem parse_eq (environment : List (String × String)) (text : String) :
    parse environment text = merge (resolve environment (written text)) := rfl

/-! ## What a value depends on -/

theorem Mentions.mono {s t : List Char} {name : String} (h : Mentions s name) (hst : s <:+: t) :
    Mentions t name := by
  obtain ⟨c, hc, hinside⟩ := h
  exact ⟨c, hc, hinside.trans hst⟩

theorem mentions_of_split {c : Char} {key rest : List Char} (hc : c = '\x7d' ∨ c = ':')
    (hs : key ++ c :: rest = s) : Mentions ('$' :: '\x7b' :: s) (String.ofList key) := by
  refine ⟨c, hc, [], rest, ?_⟩
  simp [← hs]

/-- A reference mentions the variable that it stands for, and ends inside the text. -/
theorem mentions_of_reference {key fallback rest : List Char}
    (h : reference? s = some (key, fallback, rest)) :
    Mentions ('$' :: '\x7b' :: s) (String.ofList key) ∧ rest <:+ s := by
  have hsplit := List.takeWhile_append_dropWhile (p := fun c => c ≠ '\x7d' && c ≠ ':') (l := s)
  -- A reference ends behind its name or, where it has a fallback, behind that; either way inside
  -- the text.
  unfold reference? at h
  split at h
  next t hdrop =>
    split at h
    next c rest' hrest =>
      cases h
      rw [hdrop] at hsplit
      have hrest' : rest <:+ t := (List.suffix_cons c rest).trans (hrest ▸ List.dropWhile_suffix _)
      have hs : ':' :: '-' :: t <:+ s := hdrop ▸ List.dropWhile_suffix _
      have ht : t <:+ s := ((t.suffix_cons '-').trans (List.suffix_cons ':' _)).trans hs
      exact ⟨mentions_of_split (.inr rfl) hsplit, hrest'.trans ht⟩
    next => cases h
  next rest' hdrop =>
    cases h
    rw [hdrop] at hsplit
    have hrest : rest <:+ s :=
      (rest.suffix_cons '\x7d').trans (hdrop ▸ List.dropWhile_suffix _)
    exact ⟨mentions_of_split (.inl rfl) hsplit, hrest⟩
  next => cases h

/-- Lookups that agree on the variables that a text mentions give the same text. -/
theorem expand_congr (fuel : Nat) (h : ∀ name, Mentions s name → lookup name = lookup' name) :
    expand lookup fuel s = expand lookup' fuel s := by
  -- The cases are those of the expansion: no fuel, no text, a reference, a dollar sign without one,
  -- and any other character.
  fun_induction expand lookup fuel s with
  | case1 s => rfl
  | case2 fuel => cases fuel <;> rfl
  | case3 fuel s key fallback rest href v ih =>
    obtain ⟨hkey, hrest⟩ := mentions_of_reference href
    have hinside : rest <:+: '$' :: '\x7b' :: s :=
      (hrest.trans ((s.suffix_cons _).trans (List.suffix_cons _ _))).isInfix
    rw [expand, href, ih fun name hname => h name (hname.mono hinside)]
    simp only [v, h _ hkey]
  | case4 fuel s href ih =>
    rw [expand, href, ih fun name hname => h name (hname.mono (List.suffix_cons _ _).isInfix)]
  | case5 fuel c s hc ih =>
    rw [expand, ih fun name hname => h name (hname.mono (List.suffix_cons _ _).isInfix)]
    exact hc

/-- A text without references stays as it is. -/
theorem expand_of_no_reference (fuel : Nat) (h : '$' ∉ s) : expand lookup fuel s = s := by
  fun_induction expand lookup fuel s with
  | case1 => rfl
  | case2 => rfl
  | case3 => exact absurd List.mem_cons_self h
  | case4 => exact absurd List.mem_cons_self h
  | case5 fuel c s hc ih => rw [ih (List.not_mem_of_not_mem_cons h)]

/-- What a name in a reference stands for: the last variable of this name before it in the file, or
else the one in the environment. -/
def known (environment : List (String × String)) (before : List Binding) (name : String) :
    Option String :=
  match before.reverse.lookup name with
  | some v => some (v.getD "")
  | none => environment.lookup name

/-- A variable with its references replaced. -/
def replaced (environment : List (String × String)) (before : List Binding) (b : Binding) :
    Binding :=
  (b.1, b.2.map fun t =>
    String.ofList (expand (known environment before) (t.length + 1) t.toList))

/-- References are replaced one variable after the other. -/
theorem resolve_concat (environment : List (String × String)) (bs : List Binding) (b : Binding) :
    resolve environment (bs ++ [b]) =
      resolve environment bs ++ [replaced environment (resolve environment bs) b] := by
  rw [resolve, List.foldl_append]
  rfl

theorem replaced_congr {before : List Binding}
    (h : ∀ t ∈ b.2, ∀ name, Mentions t.toList name →
      environment.lookup name = environment'.lookup name) :
    replaced environment before b = replaced environment' before b := by
  obtain ⟨name, v⟩ := b
  cases v with
  | none => rfl
  | some t =>
    have hknown : ∀ key, Mentions t.toList key →
        known environment before key = known environment' before key := fun key hkey => by
      rw [known, h t rfl key hkey, known]
    simp only [replaced, Option.map_some, expand_congr _ hknown]

/-- **Of the environment, a file knows only what it refers to.** -/
theorem parse_congr
    (h : ∀ name, Refers text name → environment.lookup name = environment'.lookup name) :
    parse environment text = parse environment' text := by
  suffices hresolve : ∀ bs ⊆ written text, resolve environment bs = resolve environment' bs by
    rw [parse_eq, parse_eq, hresolve _ (List.Subset.refl _)]
  -- A variable sees those before it as they have been replaced, so the last one is taken away.
  intro bs
  induction bs using List.reverseRecOn with
  | nil => exact fun _ => rfl
  | append_singleton bs b ih =>
    intro hsub
    obtain ⟨hbs, hb⟩ := List.append_subset.mp hsub
    rw [resolve_concat, resolve_concat, ih hbs]
    rw [replaced_congr fun t ht name hname => h name ⟨b, hb List.mem_cons_self, t, ht, hname⟩]

/-! ## What is as it is written -/

/-- A variable as it is written and as it is read: its name stays, it has a value or not, and a
value without references stays as well. -/
structure AsWritten (b b' : Binding) : Prop where
  name_eq : b'.1 = b.1
  isSome_eq : b'.2.isSome = b.2.isSome
  value_eq : ∀ t, b.2 = some t → '$' ∉ t.toList → b'.2 = some t

theorem replaced_asWritten (environment : List (String × String)) (before : List Binding)
    (b : Binding) : AsWritten b (replaced environment before b) where
  name_eq := rfl
  isSome_eq := Option.isSome_map
  value_eq t ht hplain := by simp [replaced, ht, expand_of_no_reference _ hplain]

/-- Put a variable among others: in place of one with its name, or behind them. -/
def insert (merged : List Binding) (b : Binding) : List Binding :=
  if merged.any (·.1 = b.1) then merged.map fun b' => if b'.1 = b.1 then b else b'
  else merged ++ [b]

theorem merge_concat (bs : List Binding) (b : Binding) :
    merge (bs ++ [b]) = insert (merge bs) b := by
  rw [merge, List.foldl_append]
  rfl

theorem insert_asWritten {merged merged' : List Binding} (h : List.Forall₂ AsWritten merged merged')
    (hb : AsWritten b b') : List.Forall₂ AsWritten (insert merged b) (insert merged' b') := by
  -- Names are as they are written, so both variables take the same place.
  have hnames : merged'.any (·.1 = b'.1) = merged.any (·.1 = b.1) := by
    induction h with
    | nil => rfl
    | cons hc _ ih => rw [List.any_cons, List.any_cons, ih, hc.name_eq, hb.name_eq]
  rw [insert, insert, hnames]
  split
  · refine List.forall₂_map_left_iff.mpr (List.forall₂_map_right_iff.mpr (h.imp fun c c' hc => ?_))
    rw [hc.name_eq, hb.name_eq]
    split
    · exact hb
    · exact hc
  · exact List.rel_append h (.cons hb .nil)

/-- **Replacing references changes nothing else**: the variables of a file are those that are
written in it, one by one. -/
theorem parse_asWritten (environment : List (String × String)) (text : String) :
    List.Forall₂ AsWritten (merge (written text)) (parse environment text) := by
  rw [parse_eq]
  induction written text using List.reverseRecOn with
  | nil => exact .nil
  | append_singleton bs b ih =>
    rw [resolve_concat, merge_concat, merge_concat]
    exact insert_asWritten ih (replaced_asWritten environment _ b)

end Mosaic.EnvFile
