import FlowTemplate.Definition
import FlowTemplate.Proofs.Definition.Extraction
import FlowTemplate.Proofs.Json.RoundTrip
import FlowTemplate.Proofs.Json.Tree
/-!
# What a definition string is made of

The definition string of a mapping has the JSON text of the mapping with placeholders in it, and a
parameter for each name that was drawn. Whether it can be had at all is decided by the generator of
names alone: a tree always has a text.
-/

namespace FlowTemplate.Intrinsic

/-! ## Filled trees -/

theorem keys_fillEntries (entries : Entries) (values : List Value) :
    Entries.keys (fillEntries entries values) = entries.keys := by
  induction entries generalizing values with
  | nil => rfl
  | cons entry rest ih =>
    obtain ⟨k, v⟩ := entry
    have hrest := ih (values.drop (outermost v).length)
    simp only [Entries.keys] at hrest ⊢
    rw [fillEntries, List.map_cons, List.map_cons, hrest]

/-- What is said of a container is said of its keys and of each of its parts. -/
structure IsPartwise (P : Value → Prop) (K : List Atom → Prop) : Prop where
  list : ∀ items, P (.list items) ↔ ∀ v ∈ items, P v
  map : ∀ entries : Entries, P (.map entries) ↔ K entries.keys ∧ ∀ entry ∈ entries, P entry.2

variable {P : Value → Prop} {K : List Atom → Prop}

mutual

/-- What is said of a value and of the values it is filled with is said of the filled value, for
filling leaves all keys as they are. -/
theorem IsPartwise.fill (h : IsPartwise P K) : (v : Value) → (values : List Value) → P v →
    (∀ w ∈ values, P w) → P (Intrinsic.fill v values)
  | .atom _, _, hv, _ | .tuple _, _, hv, _ | .set _, _, hv, _ => hv
  | .anchored .., _, hv, _ | .again _, _, hv, _ => hv
  | .list items, values, hv, hvalues => by
    rw [Intrinsic.fill]
    exact (h.list _).mpr (h.fillItems items values ((h.list items).mp hv) hvalues)
  | .map entries, values, hv, hvalues => by
    rw [Intrinsic.fill]
    by_cases hi : isIntrinsic (.map entries) = true
    · rw [if_pos hi]
      cases values with
      | nil => exact hv
      | cons w rest => exact hvalues w List.mem_cons_self
    · obtain ⟨hkeys, hparts⟩ := (h.map entries).mp hv
      rw [if_neg hi]
      refine (h.map _).mpr ⟨?_, h.fillEntries entries values hparts hvalues⟩
      rw [keys_fillEntries]
      exact hkeys

theorem IsPartwise.fillItems (h : IsPartwise P K) : (items : List Value) →
    (values : List Value) → (∀ v ∈ items, P v) → (∀ w ∈ values, P w) →
    ∀ v ∈ Intrinsic.fillItems items values, P v
  | [], _, _, _ => fun _ hv => absurd hv List.not_mem_nil
  | v :: rest, values, hitems, hvalues => by
    obtain ⟨hv, hrest⟩ := List.forall_mem_cons.mp hitems
    rw [Intrinsic.fillItems]
    exact List.forall_mem_cons.mpr
      ⟨h.fill v _ hv fun w hw => hvalues w (List.mem_of_mem_take hw),
        h.fillItems rest _ hrest fun w hw => hvalues w (List.mem_of_mem_drop hw)⟩

theorem IsPartwise.fillEntries (h : IsPartwise P K) : (entries : List (Atom × Value)) →
    (values : List Value) → (∀ entry ∈ entries, P entry.2) → (∀ w ∈ values, P w) →
    ∀ entry ∈ Intrinsic.fillEntries entries values, P entry.2
  | [], _, _, _ => fun _ hentry => absurd hentry List.not_mem_nil
  | (k, v) :: rest, values, hentries, hvalues => by
    obtain ⟨hv, hrest⟩ := List.forall_mem_cons.mp hentries
    rw [Intrinsic.fillEntries]
    exact List.forall_mem_cons.mpr
      ⟨h.fill v _ hv fun w hw => hvalues w (List.mem_of_mem_take hw),
        h.fillEntries rest _ hrest fun w hw => hvalues w (List.mem_of_mem_drop hw)⟩

end

theorem isPartwise_isPlain : IsPartwise (fun v => v.isPlain = true) fun keys =>
    (∀ k ∈ keys, ∃ s, k = .str s) ∧ keys.Nodup where
  list := Value.isPlain_list
  map entries := by rw [Value.isPlain_map, Entries.areDistinct_iff]

theorem isPartwise_isTree : IsPartwise (fun v => v.isTree = true) fun keys =>
    ∀ k ∈ keys, ∃ s, k = .str s where
  list := Value.isTree_list
  map entries := by
    simp only [Value.isTree_map, Entries.keys, List.forall_mem_map, imp_and, forall_and]

/-- A plain tree filled with plain values is plain. -/
theorem isPlain_fill (v : Value) (values : List Value) (hv : v.isPlain = true)
    (hvalues : ∀ w ∈ values, w.isPlain = true) : (fill v values).isPlain = true :=
  isPartwise_isPlain.fill v values hv hvalues

/-- A tree filled with trees is a tree. -/
theorem isTree_fill (v : Value) (values : List Value) (hv : v.isTree = true)
    (hvalues : ∀ w ∈ values, w.isTree = true) : (fill v values).isTree = true :=
  isPartwise_isTree.fill v values hv hvalues

theorem isPlain_placeholders (names : List String) :
    ∀ w ∈ placeholders names, w.isPlain = true := by
  intro w hw
  obtain ⟨name, -, rfl⟩ := List.mem_map.mp hw
  rfl

mutual

/-- A tree filled with its own outermost intrinsics stays as it is. -/
theorem fill_outermost : (v : Value) → fill v (outermost v) = v
  | .atom _ | .tuple _ | .set _ | .anchored .. | .again _ => rfl
  | .list items => by rw [fill, outermost, fillItems_outermost items]
  | .map entries => by
    rw [fill, outermost]
    by_cases hi : isIntrinsic (.map entries) = true
    · rw [if_pos hi, if_pos hi, List.headD_cons]
    · rw [if_neg hi, if_neg hi, fillEntries_outermost entries]

theorem fillItems_outermost : (items : List Value) →
    fillItems items (outermostItems items) = items
  | [] => rfl
  | v :: rest => by
    rw [fillItems, outermostItems, List.take_left, List.drop_left, fill_outermost v,
      fillItems_outermost rest]

theorem fillEntries_outermost : (entries : List (Atom × Value)) →
    fillEntries entries (outermostEntries entries) = entries
  | [] => rfl
  | (k, v) :: rest => by
    rw [fillEntries, outermostEntries, List.take_left, List.drop_left, fill_outermost v,
      fillEntries_outermost rest]

end

/-- A tree without intrinsics stays as it is. -/
theorem fill_nil (v : Value) (h : outermost v = []) : fill v [] = v := by
  have hfill := fill_outermost v
  rwa [h] at hfill

end FlowTemplate.Intrinsic

namespace FlowTemplate.DefinitionString

open FlowTemplate.Computation Intrinsic

variable {σ ε : Type}

/-- The text of a tree in which placeholders of names stand for its outermost intrinsics. -/
def textWith (style : Json.Style) (tree : Value) (names : List String) : String :=
  String.ofList (Json.render style 0 (fill tree (placeholders names)))

/-- The entries of the parameters of a tree, in the order of the names. -/
def parametersWith (resolve : Value → Value) (tree : Value) (names : List String) : Entries :=
  (names.zip (outermost tree)).map fun (name, v) => (.str name, resolve v)

/-- The definition string of a tree for which names have been drawn. -/
def drawn (style : Json.Style) (resolve : Value → Value) (tree : Value) (names : List String) :
    DefinitionString :=
  if names = [] then .plain (textWith style tree names)
  else .substitution (textWith style tree names) (.ofPairs (parametersWith resolve tree names))

theorem assemble_eq (style : Json.Style) (resolve : Value → Value) {tree : Value}
    (htree : tree.isTree = true) {names : List String}
    (hlength : names.length = (outermost tree).length) :
    assemble style resolve (fill tree (placeholders names)) (names.zip (outermost tree)) =
      .ok (drawn style resolve tree names) := by
  have hfilled := isTree_fill tree _ htree fun w hw =>
    Value.isTree_of_isPlain (isPlain_placeholders names w hw)
  have hempty : (names.zip (outermost tree)).isEmpty = decide (names = []) := by
    cases names with
    | nil => rfl
    | cons name names =>
      cases h : outermost tree with
      | nil => rw [h] at hlength; cases hlength
      | cons v rest => rfl
  rw [assemble, Value.json?_tree hfilled, drawn]
  by_cases h : names = []
  · simp [h, textWith]
  · simp [hempty, h, textWith, parametersWith]

/-- Names are drawn for a mapping, and what is put in their places is assembled. -/
theorem run_build_map (style : Json.Style) (next : Generator σ ε) (resolve : Value → Value)
    (entries : Entries) (s : σ) :
    (build style next resolve (.map entries)).run s =
      match (draws next (outermost (.map entries)).length).run s with
      | (.ok names, s) => ((assemble style resolve (fill (.map entries) (placeholders names))
          (names.zip (outermost (.map entries)))).mapError .misfit, s)
      | (.error e, s) => (.error (.generator e), s) := by
  change (ofTree style next resolve (.map entries)).run s = _
  rw [ofTree, run_bind, run_adapt, run_extract]
  rcases (draws next (outermost (.map entries)).length).run s with ⟨e | names, s₁⟩
  · rfl
  · simp only [outcome, Except.map]
    cases assemble style resolve (fill (.map entries) (placeholders names))
        (names.zip (outermost (.map entries))) <;> rfl

/-- The definition string of a mapping is decided by the names that are drawn for it. -/
theorem run_build_tree (style : Json.Style) (next : Generator σ ε) (resolve : Value → Value)
    {entries : Entries} (htree : (Value.map entries).isTree = true) (s : σ) :
    (build style next resolve (.map entries)).run s =
      match (draws next (outermost (.map entries)).length).run s with
      | (.ok names, s) => (.ok (drawn style resolve (.map entries) names), s)
      | (.error e, s) => (.error (.generator e), s) := by
  rw [run_build_map]
  rcases hdraws : (draws next (outermost (.map entries)).length).run s with ⟨e | names, s₁⟩
  · rfl
  · simp only
    rw [assemble_eq style resolve htree (length_of_draws hdraws)]
    rfl

theorem run_build (style : Json.Style) (next : Generator σ ε) (resolve : Value → Value)
    {entries : Entries} (hplain : (Value.map entries).isPlain = true) (s : σ) :
    (build style next resolve (.map entries)).run s =
      match (draws next (outermost (.map entries)).length).run s with
      | (.ok names, s) => (.ok (drawn style resolve (.map entries) names), s)
      | (.error e, s) => (.error (.generator e), s) :=
  run_build_tree style next resolve (Value.isTree_of_isPlain hplain) s

theorem keys_parametersWith (resolve : Value → Value) {tree : Value} {names : List String}
    (hlength : names.length = (outermost tree).length) :
    Entries.keys (parametersWith resolve tree names) = names.map Atom.str := by
  rw [parametersWith, Entries.keys, List.map_map]
  calc ((names.zip (outermost tree)).map _) = ((names.zip (outermost tree)).map Prod.fst).map
        Atom.str := by rw [List.map_map]; rfl
    _ = names.map Atom.str := by rw [List.map_fst_zip (by omega)]

/-- With names that are all different, nothing is lost among the parameters. -/
theorem ofPairs_parametersWith (resolve : Value → Value) (tree : Value) {names : List String}
    (hnodup : names.Nodup) (hlength : names.length = (outermost tree).length) :
    Entries.ofPairs (parametersWith resolve tree names) = parametersWith resolve tree names := by
  refine Entries.ofPairs_of_areDistinct (Entries.areDistinct_iff.mpr ?_)
  rw [keys_parametersWith resolve hlength]
  refine ⟨fun k hk => ?_, List.Pairwise.map _ (fun a b hab h => hab (Atom.str.inj h)) hnodup⟩
  obtain ⟨name, -, rfl⟩ := List.mem_map.mp hk
  exact ⟨name, rfl⟩

/-- The parameters are the outermost intrinsics of the tree, each resolved. -/
theorem snd_parameters_drawn (style : Json.Style) (resolve : Value → Value) {tree : Value}
    {names : List String} (hnodup : names.Nodup)
    (hlength : names.length = (outermost tree).length) :
    (drawn style resolve tree names).parameters.map Prod.snd = (outermost tree).map resolve := by
  rw [drawn]
  by_cases h : names = []
  · rw [if_pos h]
    rw [h, List.length_nil] at hlength
    rw [List.length_eq_zero_iff.mp hlength.symm]
    rfl
  · rw [if_neg h]
    change (Entries.ofPairs (parametersWith resolve tree names)).map Prod.snd = _
    rw [ofPairs_parametersWith resolve tree hnodup hlength, parametersWith, List.map_map]
    calc (names.zip (outermost tree)).map _
        = ((names.zip (outermost tree)).map Prod.snd).map resolve := by rw [List.map_map]; rfl
      _ = (outermost tree).map resolve := by rw [List.map_snd_zip (by omega)]

theorem contains_parametersWith (resolve : Value → Value) {tree : Value} {names : List String}
    (hlength : names.length = (outermost tree).length) (name : String) :
    (parametersWith resolve tree names).contains name = true ↔ name ∈ names := by
  rw [← Bool.not_eq_false, Entries.contains_eq_false_iff, Entries.find?_eq_none_iff,
    keys_parametersWith resolve hlength, Decidable.not_not, List.mem_map]
  simp

/-! ## Definition strings that have been had -/

theorem eq_of_json? {v : Value} {style : Json.Style} {text : String}
    (h : v.json? style = some text) : text = String.ofList (Json.render style 0 v) := by
  unfold Value.json? Value.toJson at h
  split at h
  · cases h
  · exact (Option.some.inj h).symm

/-- A definition string has the text of its tree and all parameters. -/
theorem eq_of_assemble {style : Json.Style} {resolve : Value → Value} {tree : Value}
    {pairs : List Parameter} {built : DefinitionString}
    (h : assemble style resolve tree pairs = .ok built) :
    built.text = String.ofList (Json.render style 0 tree) ∧
      built.parameters = .ofPairs (pairs.map fun (name, v) => (.str name, resolve v)) := by
  unfold assemble at h
  split at h
  · cases h
  · rename_i text htext
    split at h
    · rename_i hempty
      cases h
      rw [List.isEmpty_iff.mp hempty]
      exact ⟨eq_of_json? htext, rfl⟩
    · cases h
      exact ⟨eq_of_json? htext, rfl⟩

/-- Making a definition string fails for the generator exactly if it cannot issue a name for each
outermost intrinsic. -/
theorem build_eq_generator_iff (style : Json.Style) (next : Generator σ ε)
    (resolve : Value → Value) (definition : Value) (s : σ) (e : ε) :
    ((build style next resolve definition).run s).1 = .error (.generator e) ↔
      ((draws next (outermost definition).length).run s).1 = .error e := by
  unfold build
  split
  · constructor <;> intro h <;> cases h
  · rw [ofTree, run_bind, run_adapt, run_extract]
    rcases (draws next (outermost definition).length).run s with ⟨e' | names, s₁⟩
    · constructor <;> intro h <;> cases h <;> rfl
    · refine ⟨fun h => ?_, fun h => by cases h⟩
      simp only [outcome, Except.map] at h
      split at h <;> cases h

/-- A definition string came about with a name for each outermost intrinsic of the definition, and
these names are those of its parameters. -/
theorem exists_names_of_build {style : Json.Style} {next : Generator σ ε}
    {resolve : Value → Value} {definition : Value} {s s' : σ} {built : DefinitionString}
    (hfresh : next.IsFresh s)
    (h : (build style next resolve definition).run s = (.ok built, s')) :
    ∃ names, next.Issues s names s' ∧ names.length = (outermost definition).length ∧
      built.parameters = parametersWith resolve definition names ∧
      ((∀ text, definition ≠ .str text) → built.text = textWith style definition names) := by
  unfold build at h
  split at h
  · rename_i text
    cases h
    exact ⟨[], rfl, rfl, rfl, fun htext => absurd rfl (htext text)⟩
  · obtain ⟨⟨tree, pairs⟩, s₁, hextract, hassemble⟩ := run_bind_eq_ok h
    rw [run_adapt, run_extract] at hextract
    rcases hdraws : (draws next (outermost definition).length).run s with ⟨e | names, s₂⟩
    · rw [hdraws] at hextract
      cases hextract
    · have hissues := issues_of_draws hdraws
      have hlength := length_of_draws hdraws
      have hnodup := hfresh names s₂ hissues
      rw [hdraws] at hextract
      obtain ⟨hpair, rfl⟩ := Prod.mk.inj hextract
      obtain ⟨rfl, rfl⟩ := Prod.mk.inj (Except.ok.inj hpair)
      dsimp only at hassemble
      split at hassemble
      · rename_i built' hbuilt
        cases hassemble
        obtain ⟨htext, hparameters⟩ := eq_of_assemble hbuilt
        refine ⟨names, hissues, hlength, ?_, fun _ => htext⟩
        rw [hparameters]
        exact ofPairs_parametersWith resolve definition hnodup hlength
      · cases hassemble

end FlowTemplate.DefinitionString
