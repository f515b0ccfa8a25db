import FlowTemplate.Lint.Graph
import FlowTemplate.Proofs.Definition.RoundTrip
import FlowTemplate.Proofs.Definition.Sites
import FlowTemplate.Proofs.Json.Reread
/-!
# The graph of states in the text of a definition

What of a definition makes up its graph of states is a matter of where it stands: the start and the
states of a machine, the type and the targets of a state, its rules and the machines nested in it.
The text of a definition has the same graph as long as extraction leaves the containers of the graph
alone, and no longer: an intrinsic among them, which may be a mapping of states with a state called
`Ref`, becomes a placeholder.
-/

namespace FlowTemplate.Intrinsic

/-- What a part of a definition is to its graph. -/
inductive Role where
  | machine
  | states
  | state
  /-- The choice rules or the catchers of a state. -/
  | rules
  | rule
  | branches
  /-- A name, type or target, and whatever stands in its place. -/
  | label
  deriving DecidableEq

/-- The keys of a mapping whose values belong to the graph, and what these values are. -/
def Role.fields : Role → List (String × Role)
  | .machine => [("StartAt", .label), ("States", .states)]
  | .state => [("Type", .label), ("Next", .label), ("End", .label), ("Default", .label),
      ("Choices", .rules), ("Catch", .rules), ("Branches", .branches), ("Iterator", .machine),
      ("ItemProcessor", .machine)]
  | .rule => [("Next", .label)]
  | _ => []

/-- What stands under a key of a mapping, if it belongs to the graph. -/
def Role.child? (role : Role) (k : Atom) : Option Role :=
  match role with
  | .states => some .state
  | .label => some .label
  | role => (role.fields.find? fun (name, _) => k == .str name).map (·.2)

/-- What the items of a list are, if they belong to the graph. -/
def Role.item? : Role → Option Role
  | .rules => some .rule
  | .branches => some .machine
  | .label => some .label
  | _ => none

mutual

/-- A value without what does not belong to the graph. -/
def graph (role : Role) : Value → Value
  | .list items => .list (graphItems role items)
  | .map entries => .map (graphEntries role entries)
  | v => v

def graphItems (role : Role) : List Value → List Value
  | [] => []
  | v :: rest => match role.item? with
    | some r => graph r v :: graphItems role rest
    | none => graphItems role rest

def graphEntries (role : Role) : List (Atom × Value) → List (Atom × Value)
  | [] => []
  | (k, v) :: rest => match role.child? k with
    | some r => (k, graph r v) :: graphEntries role rest
    | none => graphEntries role rest

end

/-- The graph goes through the second value: the first one itself, or a part that belongs to its
graph. Extraction only goes into lists and mappings. -/
inductive Visits : Role → Value → Value → Prop
  | here {role : Role} {v : Value} : Visits role v v
  | item {role r : Role} {items : List Value} {v w : Value} (isItem : role.item? = some r)
      (listed : v ∈ items) (below : Visits r v w) : Visits role (.list items) w
  | entry {role r : Role} {entries : Entries} {k : Atom} {v w : Value}
      (isChild : role.child? k = some r) (stands : (k, v) ∈ entries.underTexts)
      (below : Visits r v w) : Visits role (.map entries) w

/-- The graph goes through no intrinsic. -/
def HasOpenGraph (role : Role) (v : Value) : Prop :=
  ∀ w, Visits role v w → isIntrinsic w = false

/-! ## Filled trees -/

/-- The second value is the first one with texts in the places of its outermost intrinsics. -/
def IsFilled (v w : Value) : Prop :=
  ∃ texts : List String, texts.length = (outermost v).length ∧ w = fill v (texts.map .str)

theorem forall₂_fillItems {items : List Value} {texts : List String}
    (h : texts.length = (outermostItems items).length) :
    List.Forall₂ IsFilled items (fillItems items (texts.map .str)) := by
  induction items generalizing texts with
  | nil => exact .nil
  | cons v rest ih =>
    rw [outermostItems, List.length_append] at h
    rw [fillItems, ← List.map_take, ← List.map_drop]
    refine .cons ⟨_, ?_, rfl⟩ (ih ?_)
    · rw [List.length_take]
      omega
    · rw [List.length_drop]
      omega

theorem related_fillEntries {entries : Entries} {texts : List String}
    (h : texts.length = (outermostEntries entries).length) :
    Entries.Related IsFilled entries (fillEntries entries (texts.map .str)) := by
  induction entries generalizing texts with
  | nil => exact .nil
  | cons entry rest ih =>
    obtain ⟨k, v⟩ := entry
    rw [outermostEntries, List.length_append] at h
    rw [fillEntries, ← List.map_take, ← List.map_drop]
    refine .cons ⟨rfl, _, ?_, rfl⟩ (ih ?_)
    · change _ = (outermost v).length
      rw [List.length_take]
      omega
    · rw [List.length_drop]
      omega

/-! ## The graph of a container and the graphs of its parts -/

/-- Filling keeps the graph of a value exactly if the graph goes through no intrinsic. -/
def KeepsGraph (v w : Value) : Prop :=
  ∀ role, graph role w.reread = graph role v.reread ↔ HasOpenGraph role v

theorem graphItems_eq_iff {role : Role} {items others : List Value}
    (h : List.Forall₂ KeepsGraph items others) :
    graphItems role (others.map Value.reread) = graphItems role (items.map Value.reread) ↔
      ∀ v ∈ items, ∀ r, role.item? = some r → HasOpenGraph r v := by
  induction h with
  | nil => simp
  | @cons v w items others hv _ ih =>
    rw [List.map_cons, List.map_cons, graphItems, graphItems, List.forall_mem_cons, ← ih]
    cases role.item? with
    | none => simp
    | some r => simp [hv r]

theorem graphEntries_eq_iff {role : Role} {entries others : Entries}
    (h : Entries.Related KeepsGraph entries others) :
    graphEntries role (others.map fun (k, v) => (k, v.reread)) =
        graphEntries role (entries.map fun (k, v) => (k, v.reread)) ↔
      ∀ entry ∈ entries, ∀ r, role.child? entry.1 = some r → HasOpenGraph r entry.2 := by
  induction h with
  | nil => simp
  | @cons entry other entries others hentry _ ih =>
    obtain ⟨k, v⟩ := entry
    obtain ⟨k', w⟩ := other
    obtain ⟨hkeys, hv⟩ := hentry
    dsimp only at hkeys hv
    subst hkeys
    rw [List.map_cons, List.map_cons, graphEntries, graphEntries, List.forall_mem_cons, ← ih]
    cases role.child? k with
    | none => simp
    | some r => simp [hv r]

variable {role : Role} {v w : Value}

theorem hasOpenGraph_list {items : List Value} : HasOpenGraph role (.list items) ↔
    ∀ v ∈ items, ∀ r, role.item? = some r → HasOpenGraph r v := by
  constructor
  · exact fun h v hv r hr w hw => h w (.item hr hv hw)
  · intro h w hw
    cases hw with
    | here => rfl
    | item isItem listed below => exact h _ listed _ isItem w below

theorem hasOpenGraph_map {entries : Entries} (hopen : isIntrinsic (.map entries) = false) :
    HasOpenGraph role (.map entries) ↔
      ∀ entry ∈ entries.underTexts, ∀ r, role.child? entry.1 = some r → HasOpenGraph r entry.2 := by
  constructor
  · exact fun h entry hentry r hr w hw => h w (.entry hr hentry hw)
  · intro h w hw
    cases hw with
    | here => exact hopen
    | entry isChild stands below => exact h _ stands _ isChild w below

/-- An intrinsic has become a text, which has no parts. -/
theorem keepsGraph_of_isIntrinsic (hv : isIntrinsic v = true) (h : IsFilled v w) :
    KeepsGraph v w := by
  intro role
  have hclosed : ¬ HasOpenGraph role v := fun hopen => by
    rw [hopen v .here] at hv
    cases hv
  obtain ⟨texts, hlength, rfl⟩ := h
  rw [outermost_of_isIntrinsic hv] at hlength
  obtain ⟨text, rfl⟩ := List.length_eq_one_iff.mp hlength
  rw [List.map_singleton, fill_of_isIntrinsic hv]
  cases v with
  | map entries =>
    refine iff_of_false (fun heq => ?_) hclosed
    rw [Value.reread_map] at heq
    cases heq
  | _ => cases hv

/-- Putting texts in the places of intrinsics keeps the graph exactly if it goes through none. -/
theorem keepsGraph_of_isFilled (v w : Value) (h : IsFilled v w) : KeepsGraph v w := by
  induction v using Value.parts_induction generalizing w with
  | h v ih =>
    by_cases hv : isIntrinsic v = true
    · exact keepsGraph_of_isIntrinsic hv h
    · obtain ⟨texts, hlength, rfl⟩ := h
      intro role
      rw [Bool.not_eq_true] at hv
      rw [outermost_of_parts hv] at hlength
      cases v with
      | list items =>
        have hitems : List.Forall₂ KeepsGraph items (fillItems items (texts.map .str)) :=
          ((List.forall₂_and_left _ _).mpr ⟨ih, forall₂_fillItems hlength⟩).imp
            fun x y h => h.1 y h.2
        rw [fill, Value.reread, Value.reread, Value.rereadItems_eq, Value.rereadItems_eq, graph,
          graph, Value.list.injEq, graphItems_eq_iff hitems, hasOpenGraph_list]
      | map entries =>
        rw [Value.parts, ← outermostEntries_eq] at hlength
        have hkept : ∀ entry ∈ Entries.underTexts entries, ∀ w, IsFilled entry.2 w →
            KeepsGraph entry.2 w := by
          intro entry hentry w hw
          obtain ⟨k, hmem⟩ := Entries.mem_of_underTexts hentry
          exact ih entry.2 (List.mem_map.mpr ⟨_, hmem, rfl⟩) w hw
        have hentries : Entries.Related KeepsGraph (Entries.underTexts entries)
            (Entries.underTexts (fillEntries entries (texts.map .str))) :=
          ((List.forall₂_and_left _ _).mpr
            ⟨hkept, (related_fillEntries hlength).underTexts⟩).imp
            fun x y h => ⟨h.2.1, h.1 y.2 h.2.2⟩
        rw [fill, hv, if_neg Bool.false_ne_true, Value.reread_map, Value.reread_map, graph, graph,
          Value.map.injEq, graphEntries_eq_iff hentries, hasOpenGraph_map hv]
      | _ =>
        refine iff_of_true rfl fun w hw => ?_
        cases hw
        rfl

theorem isFilled_placeholders {names : List String} (h : names.length = (outermost v).length) :
    IsFilled v (fill v (placeholders names)) := by
  refine ⟨names.map placeholder, by rwa [List.length_map], ?_⟩
  rw [List.map_map]
  rfl

end FlowTemplate.Intrinsic

namespace FlowTemplate.DefinitionString

open FlowTemplate.Computation Intrinsic

variable {σ ε : Type}

/-- Assembling fails for nothing but the lack of JSON text. -/
theorem hasJson_of_assemble (style : Json.Style) (resolve : Value → Value) (tree : Value)
    (pairs : List Parameter) : match assemble style resolve tree pairs with
      | .ok _ => tree.jsonFault [] = none
      | .error m => m = .noJson ∧ tree.hasJson = false := by
  unfold assemble Value.json? Value.toJson Value.hasJson
  cases tree.jsonFault [] with
  | some fault => exact ⟨rfl, rfl⟩
  | none =>
    dsimp only [Except.toOption]
    by_cases h : pairs.isEmpty = true
    · rw [if_pos h]
    · rw [if_neg h]

/-- The text of a mapping is read as a document with the graph of the mapping exactly if this graph
goes through no intrinsic. Both are as JSON has them, with texts for keys and lists for tuples. A
text is had unless the generator fails or there is something without JSON text outside of the
intrinsics. -/
theorem run_build_graph (indent : Option Int) (next : Generator σ ε) (resolve : Value → Value)
    (entries : Entries) (s : σ) :
    match (build (.indented indent) next resolve (.map entries)).run s with
    | (.ok built, _) => ∃ document, Json.parse built.text = .ok document ∧
        (graph .machine document = graph .machine (Value.map entries).reread ↔
          HasOpenGraph .machine (.map entries))
    | (.error (.generator e), s') =>
      (draws next (outermost (.map entries)).length).run s = (.error e, s')
    | (.error (.misfit m), s') => m = .noJson ∧ ∃ names, next.Issues s names s' ∧
        (fill (.map entries) (placeholders names)).hasJson = false := by
  rw [run_build_map]
  rcases hdraws : (draws next (outermost (.map entries)).length).run s with ⟨e | names, s'⟩
  · rfl
  · have hfilled := isFilled_placeholders (length_of_draws hdraws)
    have hjson := hasJson_of_assemble (.indented indent) resolve
      (fill (.map entries) (placeholders names)) (names.zip (outermost (.map entries)))
    dsimp only
    cases hbuilt : assemble (.indented indent) resolve (fill (.map entries) (placeholders names))
        (names.zip (outermost (.map entries))) with
    | error m =>
      rw [hbuilt] at hjson
      exact ⟨hjson.1, names, issues_of_draws hdraws, hjson.2⟩
    | ok built =>
      rw [hbuilt] at hjson
      refine ⟨_, ?_, keepsGraph_of_isFilled _ _ hfilled .machine⟩
      rw [(eq_of_assemble hbuilt).1]
      exact Json.parse_render_reread rfl hjson

/-- The graph of what is read of the text of a mapping, if there is one. -/
def printedGraph (entries : Entries) : Option Value :=
  let built := (build (.indented (some 2)) Counter.next id (.map entries)).run
    (.create 10 Counter.defaultHead)
  built.1.toOption.bind fun built => (Json.parse built.text).toOption.map (graph .machine)

/-- A machine whose only state is called like the key of a reference. -/
def stateCalledRef : Entries :=
  [(.str "StartAt", .str "Ref"),
    (.str "States", .object [("Ref", .object [("Type", .str "Succeed")])])]

/-- A machine with a state under a number. -/
def stateUnderNumber : Entries :=
  [(.str "StartAt", .str "A"),
    (.str "States", .map [(.str "A", .object [("Type", .str "Succeed")]),
      (.int 1, .object [("Type", .str "Succeed")])])]

/-- The linter accepts both machines. In the text of the one the states are a placeholder, in the
text of the other a state has another name. -/
theorem run_build_graph_stateCalledRef :
    (Lint.accepts (.map stateCalledRef) = true ∧
      printedGraph stateCalledRef = some (.object
        [("StartAt", .str "Ref"), ("States", .str (placeholder "smParam001"))]) ∧
      printedGraph stateCalledRef ≠ some (graph .machine (.map stateCalledRef))) ∧
    Lint.accepts (.map stateUnderNumber) = true ∧
      printedGraph stateUnderNumber = some (.object [("StartAt", .str "A"),
        ("States", .object [("A", .object [("Type", .str "Succeed")]),
          ("1", .object [("Type", .str "Succeed")])])]) ∧
      printedGraph stateUnderNumber ≠ some (graph .machine (.map stateUnderNumber)) := by
  decide +kernel

end FlowTemplate.DefinitionString
