import FlowTemplate.Proofs.Computation
import FlowTemplate.Proofs.Lint.Root
/-!
# A walk that takes nothing for granted

The linter reads a definition behind its schemas, where it takes for granted that keys are there and
that values are of the right kind. Here is the same walk with every such access checked, the schemas
tried to their end, and a limit on the levels of definitions in definitions. It refuses no document
for its shape: what the schemas let pass has everything that is read, and the levels it needs are
bounded by the depth of the document.
-/

namespace FlowTemplate

/-! ## The depth of a document -/

namespace Value

mutual

/-- How many containers stand in one another. -/
def depth : Value → Nat
  | .atom _ | .again _ => 0
  | .set _ => 1
  | .list items | .tuple items => itemsDepth items + 1
  | .map entries => entriesDepth entries + 1
  | .anchored _ v => depth v

def itemsDepth : List Value → Nat
  | [] => 0
  | v :: rest => max (depth v) (itemsDepth rest)

def entriesDepth : List (Atom × Value) → Nat
  | [] => 0
  | (_, v) :: rest => max (depth v) (entriesDepth rest)

end

theorem depth_le_itemsDepth {items : List Value} {v : Value} (h : v ∈ items) :
    v.depth ≤ itemsDepth items := by
  induction items with
  | nil => cases h
  | cons w rest ih =>
    rw [itemsDepth]
    rcases List.mem_cons.mp h with rfl | h
    · exact Nat.le_max_left _ _
    · exact (ih h).trans (Nat.le_max_right _ _)

theorem depth_le_entriesDepth {entries : Entries} {entry : Atom × Value} (h : entry ∈ entries) :
    entry.2.depth ≤ entriesDepth entries := by
  induction entries with
  | nil => cases h
  | cons first rest ih =>
    rw [entriesDepth]
    rcases List.mem_cons.mp h with rfl | h
    · exact Nat.le_max_left _ _
    · exact (ih h).trans (Nat.le_max_right _ _)

theorem depth_lt_of_mem {entries : Entries} {entry : Atom × Value} (h : entry ∈ entries) :
    entry.2.depth < (Value.map entries).depth := by
  rw [depth]
  exact Nat.lt_succ_of_le (depth_le_entriesDepth h)

theorem depth_lt_of_find? {entries : Entries} {key : String} {v : Value}
    (h : entries.find? key = some v) : v.depth < (Value.map entries).depth :=
  depth_lt_of_mem (Entries.mem_of_find? h)

end Value

namespace Lint

open Schema FlowTemplate.Computation

theorem Nests.depth_lt {fields : Entries} {type : String} {v : Value} (h : Nests fields type v) :
    v.depth < (Value.map fields).depth := by
  cases h with
  | @branch branches _ _ hbranches hv =>
    have hitem : v.depth < (Value.list branches).depth := by
      rw [Value.depth]
      exact Nat.lt_succ_of_le (Value.depth_le_itemsDepth hv)
    exact hitem.trans (Value.depth_lt_of_find? hbranches)
  | processor _ hv => exact Value.depth_lt_of_find? hv
  | iterator _ _ hv => exact Value.depth_lt_of_find? hv

theorem StandsFor.unique {definition document other : Value} (h : StandsFor definition document)
    (h' : StandsFor definition other) : document = other := by
  cases h with
  | text hparse =>
    cases h' with
    | text hparse' => exact Except.ok.inj (hparse.symm.trans hparse')
    | value hnot => exact absurd rfl (hnot _)
  | value hnot =>
    cases h' with
    | text => exact absurd rfl (hnot _)
    | value => rfl

theorem StandsFor.hasNumbers {definition document : Value} (h : StandsFor definition document)
    (hv : definition.hasNumbers = false) : document.hasNumbers = false := by
  cases h with
  | text hparse => exact Value.hasNumbers_of_isTree (Json.isTree_parse hparse)
  | value => exact hv

/-- A definition stands for a document unless it is a text that is no JSON. -/
theorem standsFor_or_notJson (definition : Value) : (∃ document, StandsFor definition document) ∨
    ∃ text e, definition = .str text ∧ Json.parse text = .error e := by
  by_cases htext : ∃ text, definition = .str text
  · obtain ⟨text, rfl⟩ := htext
    cases hparse : Json.parse text with
    | ok document => exact .inl ⟨document, .text hparse⟩
    | error e => exact .inr ⟨text, e, rfl, hparse⟩
  · exact .inl ⟨definition, .value fun text heq => htext ⟨text, heq⟩⟩

/-! ## Accesses that can fail -/

/-- Why a walk does not come to its end. -/
inductive Refusal where
  /-- A key that is read is not there. -/
  | absent (key : String)
  /-- A value that is read is not of the kind that it has to be. -/
  | unfit (kind : Kind)
  /-- A value cannot be held against a schema to the end. -/
  | fault (fault : Fault)
  /-- A text has too much of something to be read. -/
  | excess (excess : Json.Excess)
  /-- Definitions are nested deeper than the walk may go. -/
  | tooDeep

namespace Checked

def read {α : Type} (kind : Kind) : Option α → Except Refusal α
  | some a => .ok a
  | none => .error (.unfit kind)

def text (v : Value) : Except Refusal String := read .string v.str?

def items (v : Value) : Except Refusal (List Value) := read .array (items? v)

def mapping (v : Value) : Except Refusal Entries := read .object v.entries?

/-- What stands under a key that has to be there. -/
def demand (fields : Entries) (key : String) : Except Refusal Value :=
  match fields.find? key with
  | some v => .ok v
  | none => .error (.absent key)

/-- The findings about the shape of a value. -/
def shape (schema : Schema) (path : String) (v : Value) : Except Refusal (List Finding) :=
  match (check .none {} schema v).violations? with
  | .ok violations => .ok ((lines path violations).map fun line => ⟨.shape line, path⟩)
  | .error fault => .error (.fault fault)

/-- Looks behind the shape of a value if there is nothing to say about the shape. -/
def behindShape (schema : Schema) (path : String) (v : Value)
    (look : Except Refusal (List Finding)) : Except Refusal (List Finding) := do
  let findings ← shape schema path v
  if findings.isEmpty then look else return findings

/-! ## The walk -/

/-- The target under a key that need not be there, with its path. -/
def targetUnder (path : String) (fields : Entries) (key : String) :
    Except Refusal (List (String × String)) :=
  match fields.find? key with
  | none => return []
  | some v => do return [(← text v, s!"{path}.{key}")]

/-- The targets under `Next` in the items of a list, each with its path. -/
def targetsIn (path key : String) (v : Value) : Except Refusal (List (String × String)) := do
  (← items v).zipIdx.mapM fun (item, i) => do
    let next ← demand (← mapping item) "Next"
    return (← text next, s!"{path}.{key}[{i}].Next")

/-- The targets that only a `Choice` state has. -/
def choiceTargets (type path : String) (fields : Entries) :
    Except Refusal (List (String × String)) :=
  if type == "Choice" then do
    let default ← targetUnder path fields "Default"
    let rules ← targetsIn path "Choices" (← demand fields "Choices")
    return default ++ rules
  else return []

/-- The targets after failures. -/
def catchTargets (path : String) (fields : Entries) : Except Refusal (List (String × String)) :=
  match fields.find? "Catch" with
  | none => return []
  | some v => targetsIn path "Catch" v

/-- The transitions of a state of some type, as targets with the paths at which they stand. -/
def transitions (type path : String) (fields : Entries) :
    Except Refusal (List (String × String)) := do
  let next ← targetUnder path fields "Next"
  let choices ← choiceTargets type path fields
  let catchers ← catchTargets path fields
  return next ++ choices ++ catchers

/-- The findings about the definitions in a state of some type. -/
def within (walk : String → Value → Except Refusal (List Finding)) (type path : String)
    (fields : Entries) : Except Refusal (List Finding) :=
  match type with
  | "Parallel" => do
    let branches ← items (← demand fields "Branches")
    let found ← branches.zipIdx.mapM fun (branch, i) => walk s!"{path}.Branches[{i}]" branch
    return found.flatten
  | "Map" => do walk (path ++ "." ++ itemKey fields) (← demand fields (itemKey fields))
  | _ => return []

/-- The findings about a state behind its shape. -/
def stateGraph (walk : String → Value → Except Refusal (List Finding)) (declared : Entries)
    (name path : String) (v : Value) : Except Refusal (List Finding) := do
  let fields ← mapping v
  let type ← text (← demand fields "Type")
  let targets ← transitions type path fields
  let nested ← within walk type path fields
  return continuationFindings name path fields ++ targets.flatMap (missing declared name) ++ nested

/-- The findings about a definition behind its shape. -/
def graph (walk : String → Value → Except Refusal (List Finding)) (path : String) (v : Value) :
    Except Refusal (List Finding) := do
  let fields ← mapping v
  let states ← mapping (← demand fields "States")
  let start ← text (← demand fields "StartAt")
  let starts := if states.contains start then [] else [⟨.unknownStart start, path ++ ".StartAt"⟩]
  let found ← states.mapM fun (k, state) =>
    let place := path ++ ".States." ++ Literal.displayAtom k
    behindShape stateShape place state
      (stateGraph walk states (Literal.displayAtom k) place state)
  return starts ++ found.flatten

/-- The findings about a definition at a path that has no more than some levels. -/
def walk : (levels : Nat) → (path : String) → Value → Except Refusal (List Finding)
  | 0, _, _ => .error .tooDeep
  | levels + 1, path, v => behindShape definitionShape path v (graph (walk levels) path v)

/-- The findings about a definition, which may be written as JSON text. -/
def findings (levels : Nat) (definition : Value) : Except Refusal (List Finding) :=
  match definition with
  | .atom (.str text) => match Json.parse text with
    | .ok v => walk levels "$" v
    | .error e => return [⟨.notJson e.message, "$"⟩]
  | v => walk levels "$" v

/-- The findings about a definition that can be read. -/
def report (levels : Nat) (definition : Value) : Except Refusal (List Finding) :=
  match excess? definition with
  | some e => .error (.excess e)
  | none => findings levels definition

/-! ## Accesses that succeed -/

variable {fields declared : Entries} {type name path key : String} {v : Value}
  {look : String → Value → Except Refusal (List Finding)}

theorem demand_of_find? (h : fields.find? key = some v) : demand fields key = .ok v := by
  rw [demand, h]

theorem text_str (s : String) : text (.str s) = .ok s := rfl

theorem items_list (vs : List Value) : items (.list vs) = .ok vs := rfl

theorem mapping_map (fields : Entries) : mapping (.map fields) = .ok fields := rfl

/-- A schema that is tried to its end gives the findings about the shape. -/
theorem shape_eq {schema : Schema} {p : Value → Prop} (h : Ensures schema p) (path : String)
    (v : Value) : shape schema path v = .ok (shapeFindings schema path v) := by
  rw [shape, (h .none {} v).violations?]
  rfl

theorem behindShape_eq {schema : Schema} {p : Value → Prop} (h : Ensures schema p)
    {look : Except Refusal (List Finding)} {found : List Finding}
    (hclean : shapeFindings schema path v = [] → look = .ok found)
    (hdirty : shapeFindings schema path v ≠ [] → found = shapeFindings schema path v) :
    behindShape schema path v look = .ok found := by
  rw [behindShape, bind_of_ok (shape_eq h path v)]
  by_cases hshape : shapeFindings schema path v = []
  · rw [if_pos (List.isEmpty_iff.mpr hshape), hclean hshape]
  · rw [if_neg fun hempty => hshape (List.isEmpty_iff.mp hempty), hdirty hshape]
    rfl

/-! ## The walk comes to its end -/

/-- The target that a state has under a key, with its path. -/
def targetsAt (path : String) (fields : Entries) (key : String) : List (String × String) :=
  if fields.contains key = true then [(textAt fields key, s!"{path}.{key}")] else []

theorem targetUnder_eq (path : String) (h : ∀ v, fields.find? key = some v → IsText v) :
    targetUnder path fields key = .ok (targetsAt path fields key) := by
  rw [targetUnder, targetsAt, Entries.contains]
  cases hfind : fields.find? key with
  | none => rfl
  | some v =>
    obtain ⟨s, rfl⟩ := h v hfind
    dsimp only
    rw [bind_of_ok (text_str s), textAt_eq hfind]
    rfl

theorem targetsIn_eq (path key : String) {vs : List Value} (h : ∀ v ∈ vs, IsTransition v) :
    targetsIn path key (.list vs) = .ok (nextTargets key path vs) := by
  rw [targetsIn, bind_of_ok (items_list vs), mapM_of_ok (g := fun part =>
    ((part.1.entries?.map fun fields => textAt fields "Next").getD "",
      s!"{path}.{key}[{part.2}].Next"))]
  · rw [nextTargets, List.mapIdx_eq_zipIdx_map]
  · rintro ⟨item, i⟩ hmem
    obtain ⟨rule, next, rfl, hnext⟩ := (h item (List.fst_mem_of_mem_zipIdx hmem)).exists_next
    dsimp only
    rw [bind_of_ok (mapping_map rule), bind_of_ok (demand_of_find? hnext),
      bind_of_ok (text_str next), text_next hnext]
    rfl

theorem choiceTargets_eq (path : String) (h : ReadsOwn fields type) :
    choiceTargets type path fields =
      .ok (if type == "Choice" then targetsAt path fields "Default" ++
        nextTargets "Choices" path (listAt fields "Choices") else []) := by
  rw [choiceTargets]
  by_cases htype : type = "Choice"
  · subst htype
    have hown : HasFields ["Choices"] _ fields := h
    obtain ⟨v, hfind, rules, rfl, hrules⟩ := hown.find? (p := IsListOf IsTransition)
      List.mem_cons_self List.mem_cons_self
    have hdefault := targetUnder_eq path (hown.rules ("Default", IsText) (by simp))
    rw [if_pos (beq_self_eq_true _), if_pos (beq_self_eq_true _), bind_of_ok hdefault,
      bind_of_ok (demand_of_find? hfind), bind_of_ok (targetsIn_eq path "Choices" hrules),
      listAt_eq hfind]
    rfl
  · have hother : ¬ (type == "Choice") = true := fun heq => htype (beq_iff_eq.mp heq)
    rw [if_neg hother, if_neg hother]
    rfl

theorem catchTargets_eq (path : String)
    (h : ∀ v, fields.find? "Catch" = some v → IsListOf IsTransition v) :
    catchTargets path fields = .ok (nextTargets "Catch" path (listAt fields "Catch")) := by
  rw [catchTargets]
  cases hfind : fields.find? "Catch" with
  | none => rw [listAt_eq_nil hfind]; rfl
  | some v =>
    obtain ⟨catchers, rfl, hcatchers⟩ := h v hfind
    rw [listAt_eq hfind]
    exact targetsIn_eq path "Catch" hcatchers

theorem transitions_eq (path : String) (h : ReadsState fields type) :
    transitions type path fields = .ok (Lint.transitions path fields) := by
  have hnext := targetUnder_eq path (h.common.rules ("Next", IsText) (by simp [stateRules]))
  have hcatch := catchTargets_eq path
    (h.common.rules ("Catch", IsListOf IsTransition) (by simp [stateRules]))
  rw [transitions, bind_of_ok hnext, bind_of_ok (choiceTargets_eq path h.own), bind_of_ok hcatch,
    Lint.transitions, textAt_eq h.ofType]
  rfl

/-- The definitions in a state, if the walk finds in each of them what the linter finds there. -/
theorem within_eq (path : String) (h : ReadsState fields type)
    (hlook : ∀ w, Nests fields type w → ∀ path, look path w = .ok (definitionFindings path w)) :
    within look type path fields = .ok (withinFindings fields type path) := by
  by_cases hparallel : type = "Parallel"
  · subst hparallel
    obtain ⟨branches, hfind⟩ := h.branches
    rw [within, bind_of_ok (demand_of_find? hfind), bind_of_ok (items_list branches),
      bind_of_ok (mapM_of_ok _ fun part hpart =>
        hlook part.1 (.branch rfl hfind (List.fst_mem_of_mem_zipIdx hpart)) _),
      withinFindings, branchesFindings_eq hfind, branchListFindings, eachBranchFindings_eq,
      List.mapIdx_eq_zipIdx_map]
    simp only [Nat.zero_add]
    rfl
  by_cases hmap : type = "Map"
  · subst hmap
    obtain ⟨w, hfind⟩ := h.processor
    rw [within, bind_of_ok (demand_of_find? hfind), hlook w (nests_map_iff.mpr hfind),
      withinFindings, nestedFindings_eq hfind]
  · rw [withinFindings.eq_3 _ _ _ hparallel hmap, within.eq_3 _ _ _ _ hparallel hmap]
    rfl

/-- A state that its schema has nothing against has everything that the walk reads. -/
theorem stateGraph_eq (path : String) (hv : v.hasNumbers = false)
    (hshape : shapeFindings stateShape path v = [])
    (hlook : ∀ w, w.depth < v.depth → w.hasNumbers = false →
      ∀ path, look path w = .ok (definitionFindings path w)) :
    stateGraph look declared name path v = .ok (stateFindings declared name path v) := by
  have hviolations := (report_eq_nil_iff stateShape path v).mp (List.map_eq_nil_iff.mp hshape)
  obtain ⟨fields, type, rfl, hreads⟩ := reads_state hv hviolations
  have hwithin := within_eq path hreads fun w hw => hlook w hw.depth_lt (hw.hasNumbers hv)
  rw [stateGraph, bind_of_ok (mapping_map fields), bind_of_ok (demand_of_find? hreads.ofType),
    bind_of_ok (text_str type), bind_of_ok (transitions_eq path hreads), bind_of_ok hwithin,
    stateFindings_map hviolations hreads.ofType, targetFindings_eq, List.append_assoc]
  rfl

/-- Where there is something to say about the shape of a state, nothing else is said. -/
theorem stateFindings_of_shape (hv : v.hasNumbers = false)
    (h : shapeFindings stateShape path v ≠ []) :
    stateFindings declared name path v = shapeFindings stateShape path v := by
  cases v with
  | map fields =>
    rw [stateFindings]
    split
    · exact absurd ‹_› h
    · rfl
  | atom _ | list _ | tuple _ | set _ => rw [stateFindings.eq_def]
  | anchored | again => cases hv

theorem definitionFindings_of_shape (hv : v.hasNumbers = false)
    (h : shapeFindings definitionShape path v ≠ []) :
    definitionFindings path v = shapeFindings definitionShape path v := by
  cases v with
  | map fields =>
    rw [definitionFindings]
    split
    · exact absurd ‹_› h
    · rfl
  | atom _ | list _ | tuple _ | set _ => rw [definitionFindings.eq_def]
  | anchored | again => cases hv

/-- A definition that its schema has nothing against has everything that the walk reads. -/
theorem graph_eq (path : String) (hv : v.hasNumbers = false)
    (hshape : shapeFindings definitionShape path v = [])
    (hlook : ∀ w, w.depth < v.depth → w.hasNumbers = false →
      ∀ path, look path w = .ok (definitionFindings path w)) :
    graph look path v = .ok (definitionFindings path v) := by
  have hviolations := (report_eq_nil_iff definitionShape path v).mp (List.map_eq_nil_iff.mp hshape)
  obtain ⟨fields, start, states, rfl, hstart, hstates⟩ := reads_definition hv hviolations
  have hstate : ∀ entry ∈ states,
      behindShape stateShape (path ++ ".States." ++ Literal.displayAtom entry.1) entry.2
        (stateGraph look states (Literal.displayAtom entry.1)
          (path ++ ".States." ++ Literal.displayAtom entry.1) entry.2) =
      .ok (stateFindings states (Literal.displayAtom entry.1)
        (path ++ ".States." ++ Literal.displayAtom entry.1) entry.2) := by
    intro entry hentry
    have hnumbers := (Value.entriesHaveNumbers_eq_false_iff states).mp
      (Value.hasNumbers_of_find? hv hstates) entry hentry
    have hdepth : entry.2.depth < (Value.map fields).depth :=
      (Value.depth_lt_of_mem hentry).trans (Value.depth_lt_of_find? hstates)
    refine behindShape_eq ensures_stateShape (fun hclean => ?_) (stateFindings_of_shape hnumbers)
    exact stateGraph_eq _ hnumbers hclean fun w hw => hlook w (hw.trans hdepth)
  rw [graph, bind_of_ok (mapping_map fields), bind_of_ok (demand_of_find? hstates),
    bind_of_ok (mapping_map states), bind_of_ok (demand_of_find? hstart),
    bind_of_ok (text_str start), bind_of_ok (mapM_of_ok states hstate), definitionFindings, hshape]
  dsimp only
  rw [startFindings, textAt_eq hstart, hstates, statesFindings_eq hstates, declaredFindings,
    eachStateFindings_eq_flatten]
  rfl

/-- By induction on the levels: the walk that checks everything finds what the linter finds. -/
theorem walk_eq (levels : Nat) : ∀ (path : String) (v : Value), v.hasNumbers = false →
    v.depth < levels → walk levels path v = .ok (definitionFindings path v) := by
  induction levels with
  | zero => exact fun _ _ _ h => absurd h (Nat.not_lt_zero _)
  | succ levels ih =>
    intro path v hv hdepth
    rw [walk]
    refine behindShape_eq ensures_definitionShape (fun hclean => ?_)
      (definitionFindings_of_shape hv)
    refine graph_eq path hv hclean fun w hw hnumbers path => ih path w hnumbers ?_
    omega

/-! ## The linter comes to its end -/

theorem findings_of_standsFor {definition document : Value}
    (hstands : StandsFor definition document) (levels : Nat) :
    findings levels definition = walk levels "$" document := by
  cases hstands with
  | text hparse => rw [findings, hparse]
  | value hnot =>
    unfold findings
    split
    · exact absurd rfl (hnot _)
    · rfl

/-- The linter comes to its end with every document, whatever is wrong with it: each access is to a
key that is there and to a value of the right kind, no schema breaks off, and no more levels are
needed than the document is deep. Only a text may be refused that has too much of something. -/
theorem report_refuses_only_excess {definition : Value} (hv : definition.hasNumbers = false) :
    (∀ e, excess? definition = some e → ∀ levels, report levels definition = .error (.excess e)) ∧
    (excess? definition = none → ∃ found enough, Lint.report definition = .ok found ∧
      (∀ document, StandsFor definition document → enough ≤ document.depth + 1) ∧
      ∀ levels, enough ≤ levels → report levels definition = .ok found) := by
  constructor
  · intro e he levels
    rw [report, he]
  · intro hread
    rcases standsFor_or_notJson definition with ⟨document, hstands⟩ | ⟨text, e, rfl, hparse⟩
    · refine ⟨definitionFindings "$" document, document.depth + 1,
        Lint.report_of_standsFor hstands hread, ?_, ?_⟩
      · intro other hother
        rw [hstands.unique hother]
      · intro levels henough
        rw [report, hread]
        exact (findings_of_standsFor hstands levels).trans
          (walk_eq levels "$" document (hstands.hasNumbers hv) henough)
    · refine ⟨[⟨.notJson e.message, "$"⟩], 0, ?_, ?_, ?_⟩
      · rw [Lint.report, hread, Lint.findings, hparse]
      · intro document hdocument
        exact Nat.zero_le _
      · intro levels _
        rw [report, hread, findings, hparse]
        rfl

theorem report_oneBranch_levels : oneBranch.hasNumbers = false ∧ excess? oneBranch = none ∧
    ∃ enough ≤ 8, ∀ levels, enough ≤ levels → report levels oneBranch = .ok [] := by
  have hstands : StandsFor oneBranch oneBranch := .value (by
    intro text
    simp [oneBranch, Value.object])
  have haccepted : Lint.report oneBranch = .ok [] := by decide +kernel
  obtain ⟨found, enough, hreport, hdepth, hchecked⟩ :=
    (report_refuses_only_excess (show oneBranch.hasNumbers = false from rfl)).2 rfl
  rw [haccepted] at hreport
  obtain rfl := Except.ok.inj hreport
  exact ⟨rfl, rfl, enough, hdepth oneBranch hstands, hchecked⟩

end Checked

end Lint

end FlowTemplate
