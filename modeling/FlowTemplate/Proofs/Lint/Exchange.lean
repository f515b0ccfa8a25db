import FlowTemplate.Proofs.Lint.Nested
import FlowTemplate.Proofs.Schema.Alike
/-!
# A state in the place of another

Where one state of an accepted definition, at any depth, gives way to another, the definition stays
accepted if the other state is as good as the first one wherever it stands. And if the linter visits
the state, the definition is accepted only if the shape of the other state is right.
-/

namespace FlowTemplate.Lint

open Schema

variable {fields states state new declared other : Entries} {name path key : String}
  {v w w' x y : Value} {i : Nat} {k : Atom}

/-! ## The schema of a state, field by field -/

/-- The keywords for states of each type. -/
def ownKeywords : List (String × List Keyword) := [
  ("Task", task), ("Choice", choice), ("Wait", wait), ("Fail", fail), ("Parallel", parallel),
  ("Map", mapOver)]

theorem stateShape_eq : stateShape = .all [
    .type [.object], .properties commonFields, .required ["Type"],
    .allOf (ownKeywords.map fun own => whenType own.1 own.2)] := rfl

/-- The fields that a keyword speaks of, with their schemas. -/
def fieldsOf : Keyword → List (String × Schema)
  | .properties fields => fields
  | _ => []

/-- All schemas for what a state has under a key. -/
def schemasOf (key : String) : List Schema :=
  ((commonFields ++ ownKeywords.flatMap fun own => own.2.flatMap fieldsOf).filter fun field =>
    field.1 == key).map Prod.snd

theorem mem_schemasOf_iff {schema : Schema} : schema ∈ schemasOf key ↔
    (key, schema) ∈ commonFields ∨
      ∃ own ∈ ownKeywords, ∃ keyword ∈ own.2, (key, schema) ∈ fieldsOf keyword := by
  simp only [schemasOf, List.mem_map, List.mem_filter, List.mem_append, List.mem_flatMap,
    beq_iff_eq]
  constructor
  · rintro ⟨⟨name, schema⟩, ⟨h, rfl⟩, rfl⟩
    exact h
  · exact fun h => ⟨(key, schema), ⟨h, rfl⟩, rfl⟩

/-- A keyword that asks only which keys there are. -/
inductive AsksKeys : Keyword → Prop
  | required (names : List String) : AsksKeys (.required names)
  | oneOf (names : List String) : AsksKeys (.oneOf (names.map holding))
  | anyOf (names : List String) : AsksKeys (.anyOf (names.map fun name => .all [.required [name]]))

theorem asksKeys_or_properties {own : String × List Keyword} (hown : own ∈ ownKeywords)
    {keyword : Keyword} (hkeyword : keyword ∈ own.2) :
    AsksKeys keyword ∨ ∃ fields, keyword = .properties fields := by
  have hall : ∀ own ∈ ownKeywords, ∀ keyword ∈ own.2,
      AsksKeys keyword ∨ ∃ fields, keyword = .properties fields := by
    simp only [ownKeywords, task, choice, wait, fail, parallel, mapOver, List.forall_mem_cons,
      List.not_mem_nil, false_implies, implies_true, and_true]
    exact ⟨⟨.inr ⟨_, rfl⟩, .inl (.required _)⟩, ⟨.inr ⟨_, rfl⟩, .inl (.required _)⟩,
      ⟨.inr ⟨_, rfl⟩, .inl (.oneOf ["Seconds", "Timestamp", "SecondsPath", "TimestampPath"])⟩,
      .inr ⟨_, rfl⟩, ⟨.inr ⟨_, rfl⟩, .inl (.required _)⟩,
      ⟨.inr ⟨_, rfl⟩, .inl (.anyOf ["Iterator", "ItemProcessor"])⟩⟩
  exact hall own hown keyword hkeyword

theorem holds_map (kind : Kind) (entries others : Entries) :
    kind.holds (.map entries) = kind.holds (.map others) := by
  cases kind <;> rfl

theorem holds_list (kind : Kind) (items others : List Value) :
    kind.holds (.list items) = kind.holds (.list others) := by
  cases kind <;> rfl

theorem alike_requiredOne (hx : fields.find? key = some x) (name : String) :
    Alike (.all [.required [name]]) (.map fields) (.map (fields.insert (.str key) y)) :=
  alike_all (List.forall_mem_singleton.mpr (alike_required [name] hx))

theorem AsksKeys.alike {keyword : Keyword} (h : AsksKeys keyword) (hx : fields.find? key = some x) :
    KeywordAlike keyword (.map fields) (.map (fields.insert (.str key) y)) := by
  cases h with
  | required names => exact alike_required names hx
  | oneOf names =>
    refine alike_oneOf fun alternative hmem => ?_
    obtain ⟨name, -, rfl⟩ := List.mem_map.mp hmem
    exact alike_requiredOne hx name
  | anyOf names =>
    refine alike_anyOf fun schema hmem => ?_
    obtain ⟨name, -, rfl⟩ := List.mem_map.mp hmem
    exact alike_requiredOne hx name

theorem alike_whenType {type : String} {keywords : List Keyword} (hx : fields.find? key = some x)
    (hkey : key ≠ "Type")
    (h : Alike (.all keywords) (.map fields) (.map (fields.insert (.str key) y))) :
    Alike (whenType type keywords) (.map fields) (.map (fields.insert (.str key) y)) := by
  have htest : Alike (.all [.properties [("Type", .all [.const (.str type)])], .required ["Type"]])
      (.map fields) (.map (fields.insert (.str key) y)) := by
    refine alike_all (List.forall_mem_cons.mpr ⟨alike_properties hx ?_,
      List.forall_mem_singleton.mpr (alike_required ["Type"] hx)⟩)
    intro field hfield hname
    rw [List.mem_singleton.mp hfield] at hname
    exact absurd hname.symm hkey
  exact alike_all (List.forall_mem_singleton.mpr (alike_conditional htest h))

/-- The schema of states does not tell two states apart that differ under one key only, if the
schemas for the key do not tell apart what stands there. -/
theorem alike_stateShape (hx : fields.find? key = some x) (hkey : key ≠ "Type")
    (h : ∀ schema ∈ schemasOf key, Alike schema x y) :
    Alike stateShape (.map fields) (.map (fields.insert (.str key) y)) := by
  rw [stateShape_eq]
  refine alike_all ?_
  simp only [List.forall_mem_cons, List.not_mem_nil, false_implies, implies_true, and_true]
  refine ⟨alike_type _ fun kind => holds_map kind _ _, alike_properties hx ?_,
    alike_required _ hx, alike_allOf ?_⟩
  · rintro ⟨name, schema⟩ hmem rfl
    exact h schema (mem_schemasOf_iff.mpr (.inl hmem))
  · intro schema hmem
    obtain ⟨⟨type, keywords⟩, hown, rfl⟩ := List.mem_map.mp hmem
    refine alike_whenType hx hkey (alike_all fun keyword hkeyword => ?_)
    rcases asksKeys_or_properties hown hkeyword with hasks | ⟨properties, rfl⟩
    · exact hasks.alike hx
    · refine alike_properties hx ?_
      rintro ⟨name, schema⟩ hmem rfl
      exact h schema (mem_schemasOf_iff.mpr (.inr ⟨_, hown, _, hkeyword, hmem⟩))

/-! ## Findings about a state that changes -/

theorem find?_insert_of_ne (h : name ≠ key) :
    (fields.insert (.str key) y).find? name = fields.find? name := by
  rw [Entries.find?_insert, if_neg h]

theorem textAt_insert_of_ne (h : name ≠ key) :
    textAt (fields.insert (.str key) y) name = textAt fields name := by
  rw [textAt, textAt, find?_insert_of_ne h]

theorem listAt_insert_of_ne (h : name ≠ key) :
    listAt (fields.insert (.str key) y) name = listAt fields name := by
  rw [listAt, listAt, find?_insert_of_ne h]

theorem contains_insert_of_ne (h : name ≠ key) :
    (fields.insert (.str key) y).contains name = fields.contains name := by
  rw [Entries.contains, Entries.contains, find?_insert_of_ne h]

/-- The keys that the linter reads of a state besides those of definitions in it. -/
def graphKeys : List String := ["Type", "Next", "End", "Default", "Choices", "Catch"]

theorem ne_of_notMem_graphKeys (hkey : key ∉ graphKeys) (h : name ∈ graphKeys) : name ≠ key := by
  rintro rfl
  exact hkey h

theorem continuationFindings_insert (hkey : key ∉ graphKeys) :
    continuationFindings name path (fields.insert (.str key) y) =
      continuationFindings name path fields := by
  have hne (read : String) (h : read ∈ graphKeys) : read ≠ key := ne_of_notMem_graphKeys hkey h
  rw [continuationFindings, continuationFindings, textAt_insert_of_ne (hne "Type" (by decide)),
    contains_insert_of_ne (hne "Next" (by decide)), contains_insert_of_ne (hne "End" (by decide)),
    find?_insert_of_ne (hne "End" (by decide))]

theorem targetFindings_insert (hkey : key ∉ graphKeys) :
    targetFindings declared name path (fields.insert (.str key) y) =
      targetFindings declared name path fields := by
  have hne (read : String) (h : read ∈ graphKeys) : read ≠ key := ne_of_notMem_graphKeys hkey h
  simp only [targetFindings, transitions, textAt_insert_of_ne (hne "Type" (by decide)),
    textAt_insert_of_ne (hne "Next" (by decide)), contains_insert_of_ne (hne "Next" (by decide)),
    textAt_insert_of_ne (hne "Default" (by decide)),
    contains_insert_of_ne (hne "Default" (by decide)),
    listAt_insert_of_ne (hne "Choices" (by decide)), listAt_insert_of_ne (hne "Catch" (by decide))]

/-- A state is judged by the names of the states around it, not by these states. -/
theorem stateFindings_congr (h : ∀ target, declared.contains target = other.contains target)
    (v : Value) : stateFindings declared name path v = stateFindings other name path v := by
  cases v with
  | map fields =>
    have htargets : targetFindings declared name path fields =
        targetFindings other name path fields := by
      simp only [targetFindings, h]
    rw [stateFindings, stateFindings, htargets]
  | anchored _ v => rw [stateFindings, stateFindings, stateFindings_congr h v]
  | again _ | atom _ | list _ | tuple _ | set _ => rw [stateFindings.eq_def, stateFindings.eq_def]

/-- Wherever nothing is found in a state, nothing is found in the other one. -/
def Preserves (state new : Entries) : Prop :=
  ∀ declared name path, stateFindings declared name path (.map state) = [] →
    stateFindings declared name path (.map new) = []

theorem shapeFindings_alike {schema : Schema} (h : Alike schema v w) :
    shapeFindings schema path v = [] ↔ shapeFindings schema path w = [] := by
  rw [shapeFindings, shapeFindings, List.map_eq_nil_iff, List.map_eq_nil_iff, report_eq_nil_iff,
    report_eq_nil_iff]
  exact (h .none {}).clean

/-- A change away from the graph, of which the schema has nothing to say. -/
theorem preserves_insert (hx : state.find? key = some x) (hkey : key ∉ graphKeys)
    (h : ∀ schema ∈ schemasOf key, Alike schema x y)
    (hwithin : ∀ path, withinFindings state (textAt state "Type") path = [] →
      withinFindings (state.insert (.str key) y) (textAt state "Type") path = []) :
    Preserves state (state.insert (.str key) y) := by
  intro declared name path hstate
  obtain ⟨hshape, ⟨hcontinuation, htargets⟩, hnested⟩ := stateFindings_map_eq_nil_iff.mp hstate
  have htype : "Type" ≠ key := ne_of_notMem_graphKeys hkey List.mem_cons_self
  refine stateFindings_map_eq_nil_iff.mpr ⟨?_, ⟨?_, ?_⟩, ?_⟩
  · exact (shapeFindings_alike (alike_stateShape hx htype.symm h)).mp hshape
  · rw [continuationFindings_insert hkey, hcontinuation]
  · rw [targetFindings_insert hkey, htargets]
  · rw [textAt_insert_of_ne htype]
    exact hwithin path hnested

/-! ## States in definitions -/

/-- A definition with another state in the place of one of its states. -/
def withState (fields states : Entries) (i : Nat) (k : Atom) (new : Entries) : Value :=
  .map (fields.insert (.str "States") (.map (states.set i (k, .map new))))

theorem contains_iff_mem_keys {entries : Entries} :
    entries.contains name = true ↔ .str name ∈ entries.keys := by
  rw [← not_iff_not, Bool.not_eq_true, Entries.contains_eq_false_iff, Entries.find?_eq_none_iff]

theorem set_eq_self {α : Type} {as : List α} {a : α} (h : as[i]? = some a) : as.set i a = as := by
  obtain ⟨hi, rfl⟩ := List.getElem?_eq_some_iff.mp h
  exact List.set_getElem_self hi

/-- A state in the place of another keeps its name. -/
theorem contains_set (h : states[i]? = some (k, v)) (target : String) :
    Entries.contains (states.set i (k, w)) target = states.contains target := by
  have hkey : states.keys[i]? = some k := by
    rw [Entries.keys, List.getElem?_map, h]
    rfl
  have hkeys : Entries.keys (states.set i (k, w)) = states.keys := by
    rw [Entries.keys, List.map_set]
    exact set_eq_self hkey
  rw [Bool.eq_iff_iff, contains_iff_mem_keys, contains_iff_mem_keys, hkeys]

theorem find?_insert_self : (fields.insert (.str key) y).find? key = some y := by
  rw [Entries.find?_insert, if_pos rfl]

/-- The schema of definitions asks of states no more than how many there are. -/
theorem alike_definitionShape (hstates : fields.find? "States" = some (.map states))
    (entry : Atom × Value) :
    Alike definitionShape (.map fields)
      (.map (fields.insert (.str "States") (.map (states.set i entry)))) := by
  have hshape : Alike (.all [.type [.object], .minProperties 1]) (.map states)
      (.map (states.set i entry)) := by
    refine alike_all ?_
    simp only [List.forall_mem_cons, List.not_mem_nil, false_implies, implies_true, and_true]
    refine ⟨alike_type _ fun kind => holds_map kind _ _, alike_minProperties 1 ?_⟩
    exact congrArg some List.length_set.symm
  refine alike_all ?_
  simp only [List.forall_mem_cons, List.not_mem_nil, false_implies, implies_true, and_true]
  refine ⟨alike_type _ fun kind => holds_map kind _ _, alike_properties hstates ?_,
    alike_required _ hstates⟩
  simp only [List.forall_mem_cons, List.not_mem_nil, false_implies, implies_true, and_true]
  refine ⟨fun h => absurd h (by decide), fun h => absurd h (by decide), fun _ => hshape,
    fun h => absurd h (by decide), fun h => absurd h (by decide)⟩

theorem startFindings_withState (hstates : fields.find? "States" = some (.map states))
    (hstate : states[i]? = some (k, v)) :
    startFindings path (fields.insert (.str "States") (.map (states.set i (k, w)))) =
      startFindings path fields := by
  have hstart : "StartAt" ≠ "States" := by decide
  simp only [startFindings, hstates, find?_insert_self, textAt_insert_of_ne hstart,
    Option.bind_some, Value.entries?, Value.bare, Option.getD_some, contains_set hstate]

/-- A definition stays accepted if a state in it gives way to one that is as good. -/
theorem definitionFindings_withState (hstates : fields.find? "States" = some (.map states))
    (hstate : states[i]? = some (k, .map state)) (hpreserves : Preserves state new)
    (h : definitionFindings path (.map fields) = []) :
    definitionFindings path (withState fields states i k new) = [] := by
  obtain ⟨hshape, hstart, hwalk⟩ := definitionFindings_map_eq_nil_iff.mp h
  have hnames (target : String) :
      Entries.contains (states.set i (k, .map new)) target = states.contains target :=
    contains_set hstate target
  rw [statesFindings_eq hstates, declaredFindings, eachStateFindings_eq_nil_iff_forall] at hwalk
  refine definitionFindings_map_eq_nil_iff.mpr ⟨?_, ?_, ?_⟩
  · exact (shapeFindings_alike (alike_definitionShape hstates _)).mp hshape
  · exact (startFindings_withState hstates hstate).trans hstart
  · rw [statesFindings_eq find?_insert_self, declaredFindings, eachStateFindings_eq_nil_iff_forall]
    intro entry hentry
    rw [stateFindings_congr hnames]
    rcases List.mem_or_eq_of_mem_set hentry with hold | rfl
    · exact hwalk entry hold
    · exact hpreserves _ _ _ (hwalk _ (List.mem_of_getElem? hstate))

/-! ## Definitions in states that change -/

/-- A definition in a state gives way to another one. -/
inductive HoldsInstead (w w' : Value) (state : Entries) : (key : String) → Entries → Prop
  | branch {branches : List Value} {i : Nat} : state.find? "Type" = some (.str "Parallel") →
      state.find? "Branches" = some (.list branches) → branches[i]? = some w →
      HoldsInstead w w' state "Branches"
        (state.insert (.str "Branches") (.list (branches.set i w')))
  | item {key : String} : state.find? "Type" = some (.str "Map") →
      key ∈ ["ItemProcessor", "Iterator"] → state.find? key = some w →
      HoldsInstead w w' state key (state.insert (.str key) w')

theorem HoldsInstead.heldUnder (h : HoldsInstead w w' state key new) : HeldUnder state key w := by
  cases h with
  | branch htype hbranches hw => exact .branch htype hbranches rfl (List.mem_of_getElem? hw)
  | item htype hkey hw => exact .item htype hkey hw

theorem HoldsInstead.heldUnder_new (h : HoldsInstead w w' state key new) :
    HeldUnder new key w' := by
  cases h with
  | branch htype hbranches hw =>
    obtain ⟨hi, -⟩ := List.getElem?_eq_some_iff.mp hw
    exact .branch ((find?_insert_of_ne (by decide)).trans htype) find?_insert_self rfl
      (List.mem_set hi _)
  | item htype hkey hw =>
    have hne : "Type" ≠ key := by
      rintro rfl
      simp at hkey
    exact .item ((find?_insert_of_ne hne).trans htype) hkey find?_insert_self

theorem HoldsInstead.isVisited (h : HoldsInstead w w' state key new)
    (hvisited : IsVisited state key) :
    IsVisited new key := by
  intro hkey
  cases h with
  | branch => exact absurd hkey (by decide)
  | item _ _ hw =>
    rw [contains_insert hw]
    exact hvisited hkey

/-- One state of a definition, at any depth, gives way to another, where the states in between hold
definitions under keys as `p` says. -/
inductive Exchanges (p : Entries → String → Prop) (state new : Entries) : Value → Value → Prop
  | own {fields states : Entries} {i : Nat} {k : Atom} :
      fields.find? "States" = some (.map states) → states[i]? = some (k, .map state) →
      Exchanges p state new (.map fields) (withState fields states i k new)
  | nested {fields states outer outer' : Entries} {i : Nat} {k : Atom} {key : String}
      {w w' : Value} : fields.find? "States" = some (.map states) →
      states[i]? = some (k, .map outer) → HoldsInstead w w' outer key outer' → p outer key →
      Exchanges p state new w w' →
      Exchanges p state new (.map fields) (withState fields states i k outer')

variable {p : Entries → String → Prop}

theorem Exchanges.holds_eq (h : Exchanges p state new v w) (kind : Kind) :
    kind.holds v = kind.holds w := by
  cases h with
  | own => exact holds_map kind _ _
  | nested => exact holds_map kind _ _

theorem itemKey_insert (hw : state.find? key = some w) :
    itemKey (state.insert (.str key) w') = itemKey state := by
  rw [itemKey, itemKey, contains_insert hw]

/-- What stands under the key that is not visited may change. -/
theorem nestedFindings_insert_of_ne (hkey : key ∈ ["ItemProcessor", "Iterator"])
    (hw : state.find? key = some w) (hne : itemKey state ≠ key) :
    nestedFindings (itemKey state) path (state.insert (.str key) w') =
      nestedFindings (itemKey state) path state := by
  have hheld : state.contains key = true := by
    rw [Entries.contains, hw]
    rfl
  have hsome : state.contains "Iterator" = true ∨ state.contains "ItemProcessor" = true := by
    rcases List.mem_cons.mp hkey with rfl | hkey
    · exact .inr hheld
    · exact .inl (List.mem_singleton.mp hkey ▸ hheld)
  obtain ⟨u, hu⟩ := find?_itemKey hsome
  have hu' : (state.insert (.str key) w').find? (itemKey state) = some u :=
    (find?_insert_of_ne hne).trans hu
  rw [nestedFindings_eq hu, nestedFindings_eq hu']

/-- The definition that is visited changes, or it stays. -/
theorem nestedFindings_insert (hkey : key ∈ ["ItemProcessor", "Iterator"])
    (hw : state.find? key = some w)
    (hfindings : definitionFindings "$" w = [] → definitionFindings "$" w' = [])
    (h : nestedFindings (itemKey state) path state = []) :
    nestedFindings (itemKey state) path (state.insert (.str key) w') = [] := by
  by_cases hsame : itemKey state = key
  · rw [hsame, nestedFindings_eq hw, definitionFindings_eq_nil_iff w _ "$"] at h
    rw [hsame, nestedFindings_eq find?_insert_self, definitionFindings_eq_nil_iff w' _ "$"]
    exact hfindings h
  · exact (nestedFindings_insert_of_ne hkey hw hsame).trans h

/-- A state stays accepted if a definition in it gives way to one that is as good. -/
theorem preserves_holdsInstead (h : HoldsInstead w w' state key new)
    (hkinds : ∀ kind : Kind, kind.holds w = kind.holds w')
    (hfindings : definitionFindings "$" w = [] → definitionFindings "$" w' = []) :
    Preserves state new := by
  cases h with
  | @branch branches i htype hbranches hw =>
    refine preserves_insert hbranches (by decide) ?_ fun path hwithin => ?_
    · refine List.forall_mem_singleton.mpr (alike_all ?_)
      simp only [List.forall_mem_cons, List.not_mem_nil, false_implies, implies_true, and_true]
      exact ⟨alike_type _ fun kind => holds_list kind _ _, alike_items hw (alike_ofKind _ hkinds),
        alike_minItems 1 (congrArg some List.length_set.symm)⟩
    · rw [textAt_eq htype, withinFindings, branchesFindings_eq hbranches, branchListFindings,
        eachBranchFindings_eq_nil_iff_forall] at hwithin
      rw [textAt_eq htype, withinFindings, branchesFindings_eq find?_insert_self,
        branchListFindings, eachBranchFindings_eq_nil_iff_forall]
      intro branch hbranch
      rcases List.mem_or_eq_of_mem_set hbranch with hold | rfl
      · exact hwithin branch hold
      · exact hfindings (hwithin w (List.mem_of_getElem? hw))
  | item htype hkey hw =>
    have hschemas : schemasOf key = [.ofKind .object] ∧ key ∉ graphKeys := by
      rcases List.mem_cons.mp hkey with rfl | hkey
      · exact ⟨rfl, by decide⟩
      · obtain rfl := List.mem_singleton.mp hkey
        exact ⟨rfl, by decide⟩
    refine preserves_insert hw hschemas.2 ?_ fun path hwithin => ?_
    · rw [hschemas.1]
      exact List.forall_mem_singleton.mpr (alike_ofKind _ hkinds)
    · rw [textAt_eq htype, withinFindings] at hwithin ⊢
      rw [itemKey_insert hw]
      exact nestedFindings_insert hkey hw hfindings hwithin

/-- By induction on the depth: a definition stays accepted if a state in it gives way to one that is
as good. -/
theorem definitionFindings_of_exchanges (h : Exchanges p state new v w)
    (hpreserves : Preserves state new) (haccepted : definitionFindings "$" v = []) :
    definitionFindings "$" w = [] := by
  induction h with
  | own hstates hstate => exact definitionFindings_withState hstates hstate hpreserves haccepted
  | nested hstates hstate hholds _ hinner ih =>
    exact definitionFindings_withState hstates hstate
      (preserves_holdsInstead hholds hinner.holds_eq ih) haccepted

/-! ## Iterators that are not visited -/

/-- Next to an `ItemProcessor`, an `Iterator` may be any mapping. -/
theorem preserves_iterator {held others : Entries} (htype : state.find? "Type" = some (.str "Map"))
    (hprocessor : state.contains "ItemProcessor" = true)
    (hheld : state.find? "Iterator" = some (.map held)) :
    Preserves state (state.insert (.str "Iterator") (.map others)) := by
  have hkey : itemKey state = "ItemProcessor" := by rw [itemKey, if_pos hprocessor]
  have hne : itemKey state ≠ "Iterator" := by
    rw [hkey]
    decide
  refine preserves_insert hheld (by decide) ?_ fun path hwithin => ?_
  · exact List.forall_mem_singleton.mpr (alike_ofKind _ fun kind => holds_map kind _ _)
  · rw [textAt_eq htype, withinFindings] at hwithin ⊢
    rw [itemKey_insert hheld]
    exact (nestedFindings_insert_of_ne (by decide) hheld hne).trans hwithin

/-- Where `IsVisited` fails nothing is asked of a definition: an accepted one stays accepted with
any mapping in the place of the `Iterator`. -/
theorem report_exchanges_iterator {definition definition' document document' : Value}
    {held others : Entries} (hstands : StandsFor definition document)
    (haccepted : report definition = .ok []) (htype : state.find? "Type" = some (.str "Map"))
    (hprocessor : state.contains "ItemProcessor" = true)
    (hheld : state.find? "Iterator" = some (.map held))
    (hexchanges : Exchanges (fun _ _ => True) state
      (state.insert (.str "Iterator") (.map others)) document document')
    (hstands' : StandsFor definition' document') (hreadable : excess? definition' = none) :
    report definition' = .ok [] := by
  have hclean := definitionFindings_of_report hstands haccepted
  have hpreserves : Preserves state (state.insert (.str "Iterator") (.map others)) :=
    preserves_iterator htype hprocessor hheld
  rw [report_of_standsFor hstands' hreadable,
    definitionFindings_of_exchanges hexchanges hpreserves hclean]

/-! ## States that a definition has -/

/-- A definition has a state, by itself or in a definition that is nested in it. -/
inductive HasState (p : Entries → String → Prop) (state : Entries) : Value → Prop
  | own {fields states : Entries} {k : Atom} : fields.find? "States" = some (.map states) →
      (k, .map state) ∈ states → HasState p state (.map fields)
  | nested {v w : Value} : NestedBy p v w → HasState p state w → HasState p state v

/-- The linter has nothing against any state that it visits in an accepted definition. -/
theorem stateFindings_of_hasState (h : HasState IsVisited state v)
    (haccepted : definitionFindings "$" v = []) :
    ∃ declared name path, stateFindings declared name path (.map state) = [] := by
  induction h with
  | own hstates hmem =>
    obtain ⟨-, -, hwalk⟩ := definitionFindings_map_eq_nil_iff.mp haccepted
    rw [statesFindings_eq hstates, declaredFindings, eachStateFindings_eq_nil_iff_forall] at hwalk
    exact ⟨_, _, _, hwalk _ hmem⟩
  | nested hnested _ ih => exact ih (definitionFindings_of_nestedBy hnested haccepted)

theorem Exchanges.hasState (h : Exchanges p state new v w) : HasState p state v := by
  induction h with
  | own hstates hstate => exact .own hstates (List.mem_of_getElem? hstate)
  | nested hstates hstate hholds hp _ ih =>
    exact .nested (.held rfl hstates rfl (List.mem_of_getElem? hstate) rfl hholds.heldUnder hp) ih

theorem Exchanges.hasState_new (h : Exchanges IsVisited state new v w) :
    HasState IsVisited new w := by
  induction h with
  | own _ hstate =>
    obtain ⟨hi, -⟩ := List.getElem?_eq_some_iff.mp hstate
    exact .own find?_insert_self (List.mem_set hi _)
  | nested _ hstate hholds hvisited _ ih =>
    obtain ⟨hi, -⟩ := List.getElem?_eq_some_iff.mp hstate
    exact .nested (.held rfl find?_insert_self rfl (List.mem_set hi _) rfl hholds.heldUnder_new
      (hholds.isVisited hvisited)) ih

end FlowTemplate.Lint
