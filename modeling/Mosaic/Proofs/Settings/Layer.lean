import Mosaic.Proofs.Failure
import Mosaic.Proofs.Settings.EnvFile
import Mosaic.Settings.Layer

/-!
# Fields and their strongest sources

Settings are built exactly if something comes of every field, and hold what comes of it; otherwise
one complaint is told for each field that nothing comes of, in the order of the fields.

Every field is given one value, or none, and it is the value that the layers choose (`given_iff`).
The file of variables gives a value to the same fields in any environment, and the value that is
written where this has no reference (`exists_sets_parse_iff`, `sets_parse_of_plain`).
-/

namespace Mosaic.Settings

variable {choice : Field → Option Value} {f : Field} {s : Settings} {c : Complaint}
  {cs : List (Field × Complaint)}

/-- What is wrong with a field that is given this value. -/
def Field.complaints (f : Field) (u : Option Value) : List (Field × Complaint) :=
  match f.outcome u with
  | .ok _ => []
  | .error c => [(f, c)]

/-- What is wrong with the fields, in their order. -/
def allComplaints (choice : Field → Option Value) : List (Field × Complaint) :=
  Field.all.flatMap fun f => f.complaints (choice f)

/-! ## One field -/

/-- A field is read by this function, and what is read is kept as this value. -/
structure Field.ReadBy {α : Type} (f : Field) (unchosen : α) (read : Value → Except Complaint α)
    (wrap : α → Value) : Prop where
  read_eq : ∀ v, f.read v = (read v).map wrap
  default_eq : default.value f = wrap unchosen
  injective : Function.Injective wrap

theorem readBy_style :
    Field.style.ReadBy default.style readStyle fun style => .text style.name where
  read_eq _ := rfl
  default_eq := rfl
  injective a b h := by
    cases a <;> cases b <;> first | rfl | exact absurd h (by simp [Style.name])

theorem readBy_symbol : Field.symbol.ReadBy default.symbol readSymbol .text where
  read_eq _ := rfl
  default_eq := rfl
  injective _ _ h := Value.text.inj h

theorem readBy_prompts : Field.prompts.ReadBy default.prompts readTruth .bool where
  read_eq _ := rfl
  default_eq := rfl
  injective _ _ h := Value.bool.inj h

theorem readBy_maxDimension :
    Field.maxDimension.ReadBy default.maxDimension readMaxDimension fun n : Nat => .int n where
  read_eq _ := rfl
  default_eq := rfl
  injective _ _ h := Int.ofNat.inj (Value.int.inj h)

section

variable {α : Type} {unchosen : α} {read : Value → Except Complaint α} {wrap : α → Value}

/-- What is read for a field is what comes of it. -/
theorem map_readField (h : f.ReadBy unchosen read wrap) (choice : Field → Option Value) :
    (readField choice f unchosen read).map wrap = (f.outcome (choice f)).mapError (f, ·) := by
  unfold readField Field.outcome
  cases choice f with
  | none => exact congrArg Except.ok h.default_eq.symm
  | some v =>
    simp only [h.read_eq]
    cases read v <;> rfl

theorem readField_eq_ok_iff (h : f.ReadBy unchosen read wrap) {a : α} :
    readField choice f unchosen read = .ok a ↔ f.outcome (choice f) = .ok (wrap a) := by
  have hmap := map_readField h choice
  cases hfield : readField choice f unchosen read <;> cases houtcome : f.outcome (choice f) <;>
    rw [hfield, houtcome] at hmap <;> cases hmap
  · simp
  · simp [h.injective.eq_iff]

theorem complaints_readField (h : f.ReadBy unchosen read wrap) (choice : Field → Option Value) :
    complaints (readField choice f unchosen read) = f.complaints (choice f) := by
  have hmap := map_readField h choice
  unfold Field.complaints
  cases hfield : readField choice f unchosen read <;> cases houtcome : f.outcome (choice f) <;>
    rw [hfield, houtcome] at hmap <;> cases hmap <;> rfl

/-- Something comes of a field by default, or because it is read from a value. -/
theorem Field.ReadBy.exists_read (h : f.ReadBy unchosen read wrap) {u : Option Value} {a : α}
    (houtcome : f.outcome u = .ok (wrap a)) : a = unchosen ∨ ∃ v, read v = .ok a := by
  cases u with
  | none =>
    left
    refine h.injective (Except.ok.inj (houtcome.symm.trans ?_))
    rw [Field.outcome, h.default_eq]
  | some v =>
    right
    refine ⟨v, ?_⟩
    rw [Field.outcome, h.read_eq] at houtcome
    cases hread : read v with
    | error c =>
      rw [hread] at houtcome
      cases houtcome
    | ok b =>
      rw [hread] at houtcome
      exact congrArg Except.ok (h.injective (Except.ok.inj houtcome))

end

/-! ## All fields -/

theorem complaints_eq_nil_iff {α : Type} {r : Except (Field × Complaint) α} :
    complaints r = [] ↔ ∃ a, r = .ok a := by
  cases r <;> simp [complaints]

/-- A complaint is told about a field exactly if it is what comes of it. -/
theorem mem_allComplaints_iff :
    (f, c) ∈ allComplaints choice ↔ f.outcome (choice f) = .error c := by
  have hall : f ∈ Field.all := by cases f <;> decide
  simp only [allComplaints, List.mem_flatMap, Field.complaints]
  constructor
  · rintro ⟨g, -, hg⟩
    cases houtcome : g.outcome (choice g) with
    | ok u => simp [houtcome] at hg
    | error c' =>
      obtain ⟨rfl, rfl⟩ : f = g ∧ c = c' := by simpa [houtcome] using hg
      exact houtcome
  · intro h
    exact ⟨f, hall, by simp [h]⟩

/-- There is one complaint a field, in the order of the fields. -/
theorem fields_allComplaints (choice : Field → Option Value) :
    ((allComplaints choice).map Prod.fst).Sublist Field.all := by
  unfold allComplaints
  induction Field.all with
  | nil => exact .slnil
  | cons f fs ih =>
    rw [List.flatMap_cons, List.map_append]
    cases hf : f.outcome (choice f) with
    | ok u => simpa [Field.complaints, hf] using ih.cons f
    | error c => simpa [Field.complaints, hf] using ih

/-- The complaints of settings are those of the fields. -/
theorem allComplaints_eq (choice : Field → Option Value) : allComplaints choice =
    complaints (readField choice .style default.style readStyle) ++
    complaints (readField choice .symbol default.symbol readSymbol) ++
    complaints (readField choice .prompts default.prompts readTruth) ++
    complaints (readField choice .maxDimension default.maxDimension readMaxDimension) := by
  rw [complaints_readField readBy_style, complaints_readField readBy_symbol,
    complaints_readField readBy_prompts, complaints_readField readBy_maxDimension]
  simp [allComplaints, Field.all]

/-- Either something comes of every field, or there is something wrong. -/
theorem ofChoice_cases (choice : Field → Option Value) :
    (∃ s, ofChoice choice = .ok s ∧ ∀ f : Field, f.outcome (choice f) = .ok (s.value f)) ∨
      ofChoice choice = .error (allComplaints choice) ∧ allComplaints choice ≠ [] := by
  rw [allComplaints_eq]
  unfold ofChoice
  simp only
  split
  next style symbol prompts maxDimension hstyle hsymbol hprompts hmax =>
    refine .inl ⟨_, rfl, fun f => ?_⟩
    cases f with
    | style => exact (readField_eq_ok_iff readBy_style).mp hstyle
    | symbol => exact (readField_eq_ok_iff readBy_symbol).mp hsymbol
    | prompts => exact (readField_eq_ok_iff readBy_prompts).mp hprompts
    | maxDimension => exact (readField_eq_ok_iff readBy_maxDimension).mp hmax
  next hnot =>
    refine .inr ⟨rfl, fun hnil => ?_⟩
    simp only [List.append_eq_nil_iff, complaints_eq_nil_iff] at hnil
    obtain ⟨⟨⟨⟨_, hstyle⟩, _, hsymbol⟩, _, hprompts⟩, _, hmax⟩ := hnil
    exact hnot _ _ _ _ hstyle hsymbol hprompts hmax

/-- Settings are told by the values of their fields. -/
theorem value_injective : Function.Injective value := by
  intro s s' h
  obtain ⟨style, symbol, prompts, maxDimension⟩ := s
  obtain ⟨style', symbol', prompts', maxDimension'⟩ := s'
  obtain rfl : style = style' := readBy_style.injective (congrFun h .style)
  obtain rfl : symbol = symbol' := readBy_symbol.injective (congrFun h .symbol)
  obtain rfl : prompts = prompts' := readBy_prompts.injective (congrFun h .prompts)
  obtain rfl : maxDimension = maxDimension' :=
    readBy_maxDimension.injective (congrFun h .maxDimension)
  rfl

/-- **Settings are built exactly from what comes of the fields.** -/
theorem ofChoice_eq_ok_iff :
    ofChoice choice = .ok s ↔ ∀ f : Field, f.outcome (choice f) = .ok (s.value f) := by
  rcases ofChoice_cases choice with ⟨s', hs', hfields⟩ | ⟨herror, hne⟩
  · rw [hs', Except.ok.injEq]
    constructor
    · rintro rfl
      exact hfields
    · intro h
      exact value_injective (funext fun f => Except.ok.inj ((hfields f).symm.trans (h f)))
  · rw [herror]
    refine ⟨nofun, fun h => absurd ?_ hne⟩
    exact List.eq_nil_iff_forall_not_mem.mpr fun ⟨f, c⟩ hc => by
      rw [mem_allComplaints_iff, h f] at hc
      cases hc

/-- **Where a field comes to nothing, all such fields are told, in order.** -/
theorem ofChoice_eq_error_iff :
    ofChoice choice = .error cs ↔ cs ≠ [] ∧ cs = allComplaints choice := by
  rcases ofChoice_cases choice with ⟨s, hs, hfields⟩ | ⟨herror, hne⟩
  · rw [hs]
    refine ⟨nofun, fun ⟨hne, hcs⟩ => absurd (hcs ▸ ?_) hne⟩
    exact List.eq_nil_iff_forall_not_mem.mpr fun ⟨f, c⟩ hc => by
      rw [mem_allComplaints_iff, hfields f] at hc
      cases hc
  · rw [herror, Except.error.injEq]
    constructor
    · rintro rfl
      exact ⟨hne, rfl⟩
    · exact fun h => h.2.symm

/-! ## What settings ensure -/

/-- A symbol is never empty. -/
theorem symbol_ne_empty (h : ofChoice choice = .ok s) : s.symbol ≠ "" := by
  rcases readBy_symbol.exists_read (ofChoice_eq_ok_iff.mp h .symbol) with hdefault | ⟨v, hread⟩
  · rw [hdefault]
    decide
  · unfold readSymbol at hread
    split at hread
    · split at hread
      · cases hread
      next hne =>
        cases hread
        simpa using hne
    · cases hread

/-- There is a size that is not too large. -/
theorem one_le_maxDimension (h : ofChoice choice = .ok s) : 1 ≤ s.maxDimension := by
  rcases readBy_maxDimension.exists_read (ofChoice_eq_ok_iff.mp h .maxDimension) with
    hdefault | ⟨v, hread⟩
  · rw [hdefault]
    decide
  · obtain ⟨n, -, hn⟩ := bind_eq_ok_iff.mp hread
    split at hn
    · cases hn
    · have hmax := Except.ok.inj hn
      omega

open EnvFile (Binding AsWritten)

variable {assigned bs bs' : List Binding} {o : Origin} {t : String} {u : Value}
  {v : Option String}

/-! ## Variables -/

/-- A field is set by the last variable of its name. -/
theorem sets_iff : Sets assigned f v ↔ ∃ name, assigned.reverse.find?
    (fun b => foldCase b.1 = f.variableName) = some (name, v) := by
  -- The last variable of the name is the first one from behind.
  constructor
  · rintro ⟨before, name, after, rfl, hname, hafter⟩
    refine ⟨name, List.find?_eq_some_iff_append.mpr ⟨by simpa using hname, after.reverse,
      before.reverse, by simp, fun b hb => ?_⟩⟩
    simpa using hafter b (List.mem_reverse.mp hb)
  · rintro ⟨name, hfind⟩
    obtain ⟨hname, after, before, hsplit, hafter⟩ := List.find?_eq_some_iff_append.mp hfind
    refine ⟨before.reverse, name, after.reverse, ?_, by simpa using hname, fun b hb => ?_⟩
    · rw [← List.reverse_reverse assigned, hsplit]
      simp
    · simpa using hafter b (List.mem_reverse.mp hb)

theorem variableLayer_eq_some_iff :
    variableLayer assigned f = some u ↔ ∃ t, Sets assigned f (some t) ∧ .text t = u := by
  simp only [variableLayer, Option.map_eq_some_iff, Option.bind_eq_some_iff, sets_iff]
  constructor
  · rintro ⟨t, ⟨⟨name, v⟩, hfind, rfl⟩, rfl⟩
    exact ⟨t, ⟨name, hfind⟩, rfl⟩
  · rintro ⟨t, ⟨name, hfind⟩, rfl⟩
    exact ⟨t, ⟨(name, some t), hfind, rfl⟩, rfl⟩

theorem variableLayer_eq_none_iff :
    variableLayer assigned f = none ↔ ∀ t, ¬ Sets assigned f (some t) := by
  simp only [Option.eq_none_iff_forall_ne_some, ne_eq, variableLayer_eq_some_iff]
  exact ⟨fun h t ht => h _ ⟨t, ht, rfl⟩, fun h u ⟨t, ht, _⟩ => h t ht⟩

/-! ## Layers -/

theorem choose_cons (l : Layer) (ls : List Layer) (f : Field) :
    choose (l :: ls) f = (l f).or (choose ls f) := by
  rw [choose, List.findSome?_cons]
  cases l f <;> rfl

theorem choose_layers (o : Origin) (f : Field) : choose o.layers f =
    (o.arguments.lookup f.name).or
      ((variableLayer o.variables f).or (variableLayer o.fileVariables f)) := by
  have hnone : choose [] f = none := rfl
  rw [Origin.layers, choose_cons, choose_cons, choose_cons, hnone, Option.or_none]
  rfl

/-- **The value that is chosen is the one that the strongest source gives.** -/
theorem given_iff {u : Option Value} : Given o f u ↔ choose o.layers f = u := by
  rw [choose_layers]
  constructor
  · rintro (harg | ⟨harg, hset⟩ | ⟨harg, henv, hset⟩ | ⟨harg, henv, hfile⟩)
    · rw [harg]
      rfl
    · rw [harg, variableLayer_eq_some_iff.mpr ⟨_, hset, rfl⟩]
      rfl
    · rw [harg, variableLayer_eq_none_iff.mpr henv, variableLayer_eq_some_iff.mpr ⟨_, hset, rfl⟩]
      rfl
    · rw [harg, variableLayer_eq_none_iff.mpr henv, variableLayer_eq_none_iff.mpr hfile]
      rfl
  · rintro rfl
    cases harg : o.arguments.lookup f.name with
    | some u => exact .argument harg
    | none =>
      cases henv : variableLayer o.variables f with
      | some u =>
        obtain ⟨t, hset, rfl⟩ := variableLayer_eq_some_iff.mp henv
        exact .environment harg hset
      | none =>
        cases hfile : variableLayer o.fileVariables f with
        | some u =>
          obtain ⟨t, hset, rfl⟩ := variableLayer_eq_some_iff.mp hfile
          exact .file harg (variableLayer_eq_none_iff.mp henv) hset
        | none =>
          exact .nothing harg (variableLayer_eq_none_iff.mp henv)
            (variableLayer_eq_none_iff.mp hfile)

/-! ## The file of variables -/

theorem names_eq_of_forall₂ {R : Binding → Binding → Prop} (hname : ∀ b b', R b b' → b'.1 = b.1)
    (h : List.Forall₂ R bs bs') : bs'.map Prod.fst = bs.map Prod.fst := by
  induction h with
  | nil => rfl
  | cons hb _ ih => rw [List.map_cons, List.map_cons, ih, hname _ _ hb]

/-- Variables that correspond one by one, with the same names, set the same fields. -/
theorem Sets.rel {R : Binding → Binding → Prop} (hname : ∀ b b', R b b' → b'.1 = b.1)
    (h : List.Forall₂ R bs bs') (hset : Sets bs f v) :
    ∃ name name' v', R (name, v) (name', v') ∧ Sets bs' f v' := by
  obtain ⟨before, name, after, rfl, hfield, hafter⟩ := hset
  -- What stands before the variable corresponds, and goes; then it is the first on both sides.
  induction before generalizing bs' with
  | nil =>
    obtain ⟨b', after', hb, hrel, rfl⟩ := List.forall₂_cons_left_iff.mp h
    refine ⟨name, b'.1, b'.2, hb, [], b'.1, after', rfl, by rw [hname _ _ hb, hfield],
      fun c' hc' => ?_⟩
    have hmem : c'.1 ∈ after.map Prod.fst :=
      names_eq_of_forall₂ hname hrel ▸ List.mem_map_of_mem hc'
    obtain ⟨c, hc, hcc⟩ := List.mem_map.mp hmem
    exact hcc ▸ hafter c hc
  | cons b before ih =>
    obtain ⟨b', rest', hb, hrel, rfl⟩ := List.forall₂_cons_left_iff.mp h
    obtain ⟨name₀, name', v', hv, before', name'', after', rfl, hset⟩ := ih hrel
    exact ⟨name₀, name', v', hv, b' :: before', name'', after', rfl, hset⟩

/-- A value that is written without a reference is the value of the file, in any environment. -/
theorem sets_parse_of_plain {text : String}
    (h : Sets (EnvFile.merge (EnvFile.written text)) f (some t)) (hplain : '$' ∉ t.toList)
    (environment : List (String × String)) : Sets (EnvFile.parse environment text) f (some t) := by
  obtain ⟨name, name', v', hrel, hset⟩ :=
    h.rel (fun _ _ hb => hb.name_eq) (EnvFile.parse_asWritten environment text)
  obtain rfl : v' = some t := hrel.value_eq t rfl hplain
  exact hset

/-- A file gives values to the same fields in any environment. -/
theorem exists_sets_parse_iff {text : String} (environment : List (String × String)) :
    (∃ t, Sets (EnvFile.parse environment text) f (some t)) ↔
      ∃ t, Sets (EnvFile.merge (EnvFile.written text)) f (some t) := by
  have hwritten := EnvFile.parse_asWritten environment text
  constructor
  · rintro ⟨t, hset⟩
    obtain ⟨name, name', v', hrel, hset'⟩ := hset.rel (fun _ _ hb => hb.name_eq.symm) hwritten.flip
    obtain ⟨t', rfl⟩ := Option.isSome_iff_exists.mp (hrel.isSome_eq.symm.trans rfl)
    exact ⟨t', hset'⟩
  · rintro ⟨t, hset⟩
    obtain ⟨name, name', v', hrel, hset'⟩ := hset.rel (fun _ _ hb => hb.name_eq) hwritten
    obtain ⟨t', rfl⟩ := Option.isSome_iff_exists.mp (hrel.isSome_eq.trans rfl)
    exact ⟨t', hset'⟩

end Mosaic.Settings
