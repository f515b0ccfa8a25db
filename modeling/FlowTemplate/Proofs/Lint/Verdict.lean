import FlowTemplate.Lint.Graph
import FlowTemplate.Proofs.Json.Tree
import FlowTemplate.Proofs.Lint.Shape
/-!
# The verdict of the linter

The linter has nothing to say about a definition exactly if the definition is well formed. Each kind
of finding is absent exactly if one of the conditions of well-formedness holds, under the conditions
whose findings are looked for before; nested definitions go by induction on the size of the
document.
-/

namespace FlowTemplate.Lint

open Schema

variable {fields declared : Entries} {type name path key : String} {v : Value}

/-! ## Fields -/

theorem shapeFindings_eq_nil_iff {schema : Schema} {p : Value → Prop} (h : Decides schema p)
    (path : String) (hv : v.isTree = true) : shapeFindings schema path v = [] ↔ p v := by
  rw [shapeFindings, List.map_eq_nil_iff, report_eq_nil_iff, accepts_iff h hv]

theorem textAt_eq {s : String} (h : fields.find? key = some (.str s)) : textAt fields key = s := by
  rw [textAt, h]
  rfl

theorem listAt_eq {items : List Value} (h : fields.find? key = some (.list items)) :
    listAt fields key = items := by
  rw [listAt, h]
  rfl

theorem listAt_eq_nil (h : fields.find? key = none) : listAt fields key = [] := by
  rw [listAt, h]
  rfl

/-! ## Starts and continuations -/

theorem startFindings_eq_nil_iff {start : String} {states : Entries}
    (hstart : fields.find? "StartAt" = some (.str start))
    (hstates : fields.find? "States" = some (.map states)) :
    startFindings path fields = [] ↔ states.contains start = true := by
  rw [startFindings, textAt_eq hstart, hstates]
  change (if states.contains start = true then _ else _) = [] ↔ _
  split <;> simp_all

theorem continuationFindings_eq_nil_iff (htype : fields.find? "Type" = some (.str type)) :
    continuationFindings name path fields = [] ↔ Continues fields type := by
  have hterminal : terminalTypes.contains type = true ↔
      type = "Choice" ∨ type = "Succeed" ∨ type = "Fail" := by
    simp [terminalTypes]
  have hends : (fields.find? "End" == some (.bool true)) = true ↔
      fields.find? "End" = some (.bool true) := beq_iff_eq
  rw [continuationFindings, textAt_eq htype, Continues]
  simp only [hterminal]
  split
  · cases fields.contains "Next" <;> cases fields.contains "End" <;> simp
  · rw [exactlyOne_pair, ← hends]
    cases fields.contains "Next" <;> cases fields.find? "End" == some (.bool true) <;> simp

/-! ## Targets -/

theorem targetFindings_eq_nil_iff : targetFindings declared name path fields = [] ↔
    ∀ target place, (target, place) ∈ transitions path fields →
      declared.contains target = true := by
  rw [targetFindings, List.filterMap_eq_nil_iff]
  constructor
  · intro h target place hmem
    have hnone : (if declared.contains target = true then none else _) = none := h _ hmem
    by_contra hnot
    rw [if_neg hnot] at hnone
    cases hnone
  · rintro h ⟨target, place⟩ hmem
    exact if_pos (h target place hmem)

/-- A mapping with a text under `Next`. -/
def SaysNext (v : Value) : Prop :=
  ∃ (rule : Entries) (next : String), v = .map rule ∧ rule.find? "Next" = some (.str next)

theorem saysNext_of_isRecord {needed : List String} {rules : Rules} (hneeded : "Next" ∈ needed)
    (hrule : ("Next", IsText) ∈ rules) (h : IsRecord needed rules v) : SaysNext v := by
  obtain ⟨rule, rfl, hfields⟩ := h
  obtain ⟨w, hw, next, rfl⟩ := hfields.find? hneeded hrule
  exact ⟨rule, next, rfl, hw⟩

theorem IsListOf.mono {p q : Value → Prop} (hpq : ∀ v, p v → q v) (h : IsListOf p v) :
    IsListOf q v := by
  obtain ⟨items, rfl, hitems⟩ := h
  exact ⟨items, rfl, fun w hw => hpq w (hitems w hw)⟩

/-- The transitions that stand in the items of a list lead to what is under `Next` in them. -/
theorem mem_nextTargets_iff {items : List Value} {target : String}
    (h : ∀ item ∈ items, SaysNext item) :
    (∃ place, (target, place) ∈ nextTargets key path items) ↔
      ∃ rule : Entries, .map rule ∈ items ∧ rule.find? "Next" = some (.str target) := by
  have hitem {rule : Entries} {next : String} (hnext : rule.find? "Next" = some (.str next)) :
      ((Value.map rule).entries?.map fun fields => textAt fields "Next").getD "" = next :=
    textAt_eq hnext
  constructor
  · rintro ⟨place, hmem⟩
    obtain ⟨i, hi, heq⟩ := List.mem_mapIdx.mp hmem
    obtain ⟨rule, next, hrule, hnext⟩ := h _ (List.getElem_mem hi)
    rw [hrule, hitem hnext] at heq
    obtain ⟨rfl, -⟩ := Prod.mk.inj heq
    exact ⟨rule, hrule ▸ List.getElem_mem hi, hnext⟩
  · rintro ⟨rule, hmem, hnext⟩
    obtain ⟨i, hi, hrule⟩ := List.mem_iff_getElem.mp hmem
    refine ⟨s!"{path}.{key}[{i}].Next", List.mem_mapIdx.mpr ⟨i, hi, ?_⟩⟩
    rw [hrule, hitem hnext]

theorem mem_listAt_targets_iff {target : String}
    (h : ∀ v, fields.find? key = some v → IsListOf SaysNext v) :
    (∃ place, (target, place) ∈ nextTargets key path (listAt fields key)) ↔
      ∃ (items : List Value) (rule : Entries), fields.find? key = some (.list items) ∧
        .map rule ∈ items ∧ rule.find? "Next" = some (.str target) := by
  cases hfind : fields.find? key with
  | none => simp [listAt_eq_nil hfind, nextTargets]
  | some v =>
    obtain ⟨items, rfl, hitems⟩ := h v hfind
    rw [listAt_eq hfind, mem_nextTargets_iff hitems]
    simp

theorem mem_transitionAt_iff {target place : String}
    (h : ∀ v, fields.find? key = some v → IsText v) :
    (∃ place', (target, place') ∈
      if fields.contains key = true then [(textAt fields key, place)] else []) ↔
      fields.find? key = some (.str target) := by
  cases hfind : fields.find? key with
  | none => simp [Entries.contains, hfind]
  | some v =>
    obtain ⟨s, rfl⟩ := h v hfind
    simp [Entries.contains, hfind, textAt_eq hfind, eq_comm]

theorem leadsTo_iff {target : String} : LeadsTo fields type target ↔
    (fields.find? "Next" = some (.str target) ∨
      (type = "Choice" ∧ (fields.find? "Default" = some (.str target) ∨
        ∃ (rules : List Value) (rule : Entries), fields.find? "Choices" = some (.list rules) ∧
          .map rule ∈ rules ∧ rule.find? "Next" = some (.str target)))) ∨
      ∃ (catchers : List Value) (catcher : Entries),
        fields.find? "Catch" = some (.list catchers) ∧ .map catcher ∈ catchers ∧
          catcher.find? "Next" = some (.str target) := by
  constructor
  · intro h
    cases h with
    | next hnext => exact .inl (.inl hnext)
    | default htype hdefault => exact .inl (.inr ⟨htype, .inl hdefault⟩)
    | choice htype hrules hrule hnext =>
      exact .inl (.inr ⟨htype, .inr ⟨_, _, hrules, hrule, hnext⟩⟩)
    | catcher hcatchers hcatcher hnext => exact .inr ⟨_, _, hcatchers, hcatcher, hnext⟩
  · rintro ((hnext | ⟨htype, hdefault | ⟨rules, rule, hrules, hrule, hnext⟩⟩) |
      ⟨catchers, catcher, hcatchers, hcatcher, hnext⟩)
    · exact .next hnext
    · exact .default htype hdefault
    · exact .choice htype hrules hrule hnext
    · exact .catcher hcatchers hcatcher hnext

/-- The transitions of a state that fits its schema. -/
theorem mem_transitions_iff (htype : fields.find? "Type" = some (.str type))
    (hcommon : CommonFields fields) (hown : OwnFields fields type) {target : String} :
    (∃ place, (target, place) ∈ transitions path fields) ↔ LeadsTo fields type target := by
  have hnext : ∀ v, fields.find? "Next" = some v → IsText v := fun v hv => by
    obtain ⟨s, rfl, -⟩ := hcommon.rules ("Next", IsName) (by simp [commonRules]) v hv
    exact ⟨s, rfl⟩
  have hcatch : ∀ v, fields.find? "Catch" = some v → IsListOf SaysNext v := fun v hv =>
    (hcommon.rules ("Catch", IsListOf IsCatcher) (by simp [commonRules]) v hv).mono
      fun w => saysNext_of_isRecord (by simp) (by simp)
  rw [transitions, textAt_eq htype, leadsTo_iff]
  simp only [List.mem_append, exists_or, mem_transitionAt_iff hnext,
    mem_listAt_targets_iff hcatch]
  refine or_congr_left (or_congr_right ?_)
  by_cases hchoice : type = "Choice"
  · subst hchoice
    have hdefault : ∀ v, fields.find? "Default" = some v → IsText v :=
      hown.rules ("Default", IsText) (by simp)
    have hchoices : ∀ v, fields.find? "Choices" = some v → IsListOf SaysNext v := fun v hv => by
      obtain ⟨items, rfl, -, hitems⟩ :=
        hown.rules ("Choices", IsNonEmptyListOf IsChoiceRule) (by simp) v hv
      exact ⟨items, rfl, fun w hw => saysNext_of_isRecord (by simp) (by simp) (hitems w hw)⟩
    simp only [BEq.rfl, if_true, List.mem_append, exists_or, mem_transitionAt_iff hdefault,
      mem_listAt_targets_iff hchoices, true_and]
  · simp [hchoice]

/-! ## Nested definitions -/

/-- The linter judges a definition as it should, wherever it stands. -/
def Judged (v : Value) : Prop := ∀ path, definitionFindings path v = [] ↔ WellFormed v

/-- A walk over fields that stops at a name looks at what stands under the name. -/
theorem walk_eq {walk : Entries → List Finding} {look : Value → List Finding}
    (hcons : ∀ k w rest, walk ((k, w) :: rest) = if k == .str key then look w else walk rest)
    (h : fields.find? key = some v) : walk fields = look v := by
  induction fields with
  | nil => cases h
  | cons entry rest ih =>
    obtain ⟨k, w⟩ := entry
    rw [Entries.find?_cons] at h
    rw [hcons]
    by_cases hk : k = .str key
    · rw [if_pos hk] at h
      rw [if_pos (beq_iff_eq.mpr hk), Option.some.inj h]
    · rw [if_neg hk] at h
      rw [if_neg (mt beq_iff_eq.mp hk), ih h]

theorem statesFindings_eq (h : fields.find? "States" = some v) :
    statesFindings path fields = declaredFindings path v :=
  walk_eq (fun _ _ _ => by rw [statesFindings]) h

theorem branchesFindings_eq (h : fields.find? "Branches" = some v) :
    branchesFindings path fields = branchListFindings path v :=
  walk_eq (fun _ _ _ => by rw [branchesFindings]) h

theorem nestedFindings_eq (h : fields.find? key = some v) :
    nestedFindings key path fields = definitionFindings (path ++ "." ++ key) v :=
  walk_eq (fun _ _ _ => by rw [nestedFindings]) h

theorem eachBranchFindings_eq_nil_iff {branches : List Value} (h : ∀ w ∈ branches, Judged w)
    (index : Nat) :
    eachBranchFindings path index branches = [] ↔ ∀ w ∈ branches, WellFormed w := by
  induction branches generalizing index with
  | nil => simp [eachBranchFindings]
  | cons branch rest ih =>
    obtain ⟨hbranch, hrest⟩ := List.forall_mem_cons.mp h
    rw [eachBranchFindings, List.append_eq_nil_iff, hbranch, ih hrest, List.forall_mem_cons]

theorem eachStateFindings_eq_flatten (declared : Entries) (path : String) (states : Entries) :
    eachStateFindings declared path states = (states.map fun entry =>
      stateFindings declared (Literal.displayAtom entry.1)
        (path ++ ".States." ++ Literal.displayAtom entry.1) entry.2).flatten := by
  induction states with
  | nil => rfl
  | cons entry rest ih => rw [eachStateFindings, ih, List.map_cons, List.flatten_cons]

theorem eachStateFindings_eq_nil_iff {states : Entries}
    (h : ∀ entry ∈ states, ∀ name path,
      stateFindings declared name path entry.2 = [] ↔ WellFormedState declared entry.2) :
    eachStateFindings declared path states = [] ↔
      ∀ entry ∈ states, WellFormedState declared entry.2 := by
  rw [eachStateFindings_eq_flatten, List.flatten_eq_nil_iff, List.forall_mem_map]
  exact forall₂_congr fun entry hentry => h entry hentry _ _

theorem nests_parallel_iff {branches : List Value}
    (h : fields.find? "Branches" = some (.list branches)) :
    Nests fields "Parallel" v ↔ v ∈ branches := by
  constructor
  · intro hnests
    cases hnests with
    | branch _ hbranches hv =>
      rw [h] at hbranches
      cases hbranches
      exact hv
    | processor htype => exact absurd htype (by decide)
    | iterator htype => exact absurd htype (by decide)
  · exact .branch rfl h

theorem itemKey_of_processor (h : fields.find? "ItemProcessor" = some v) :
    itemKey fields = "ItemProcessor" := by
  rw [itemKey, Entries.contains, h]
  rfl

theorem itemKey_of_none (h : fields.find? "ItemProcessor" = none) :
    itemKey fields = "Iterator" := by
  rw [itemKey, Entries.contains, h]
  rfl

theorem nests_map_iff : Nests fields "Map" v ↔ fields.find? (itemKey fields) = some v := by
  cases hprocessor : fields.find? "ItemProcessor" with
  | none =>
    rw [itemKey_of_none hprocessor]
    refine ⟨fun hnests => ?_, .iterator rfl hprocessor⟩
    cases hnests with
    | branch htype => exact absurd htype (by decide)
    | processor _ h => cases hprocessor.symm.trans h
    | iterator _ _ h => exact h
  | some w =>
    rw [itemKey_of_processor hprocessor]
    refine ⟨fun hnests => ?_, .processor rfl⟩
    cases hnests with
    | branch htype => exact absurd htype (by decide)
    | processor _ h => exact h
    | iterator _ h => cases hprocessor.symm.trans h

theorem find?_itemKey
    (h : fields.contains "Iterator" = true ∨ fields.contains "ItemProcessor" = true) :
    ∃ w, fields.find? (itemKey fields) = some w := by
  rw [itemKey]
  split
  · exact Option.isSome_iff_exists.mp ‹_›
  · exact Option.isSome_iff_exists.mp (h.resolve_right ‹_›)

/-- What the linter says about the definitions nested in a state of a type. -/
theorem nestedIn_eq_nil_iff (hown : OwnFields fields type)
    (h : ∀ w, Nests fields type w → Judged w) :
    (match type with
      | "Parallel" => branchesFindings path fields
      | "Map" => nestedFindings (itemKey fields) path fields
      | _ => []) = [] ↔ ∀ w, Nests fields type w → WellFormed w := by
  split
  · obtain ⟨w, hfind, branches, rfl, -⟩ := hown.find? (p := IsNonEmptyListOf IsMapping)
      List.mem_cons_self List.mem_cons_self
    simp only [nests_parallel_iff hfind] at h ⊢
    rw [branchesFindings_eq hfind, branchListFindings, eachBranchFindings_eq_nil_iff h]
  · simp only [nests_map_iff] at h ⊢
    obtain ⟨w, hfind⟩ := find?_itemKey hown.2
    rw [nestedFindings_eq hfind, h w hfind]
    simp [hfind]
  · rename_i hparallel hmap
    refine iff_of_true rfl fun w hnests => ?_
    cases hnests with
    | branch htype => exact absurd htype hparallel
    | processor htype => exact absurd htype hmap
    | iterator htype => exact absurd htype hmap

theorem Nests.sizeOf_lt (h : Nests fields type v) : sizeOf v < sizeOf (Value.map fields) := by
  cases h with
  | branch _ hbranches hv =>
    have hlist := Value.sizeOf_lt_of_find? hbranches
    have hitem := List.sizeOf_lt_of_mem hv
    rw [Value.list.sizeOf_spec] at hlist
    omega
  | processor _ hv => exact Value.sizeOf_lt_of_find? hv
  | iterator _ _ hv => exact Value.sizeOf_lt_of_find? hv

theorem Nests.isTree (h : Nests fields type v) (htree : (Value.map fields).isTree = true) :
    v.isTree = true := by
  cases h with
  | branch _ hbranches hv =>
    exact (Value.isTree_list _).mp (Value.isTree_of_find? htree hbranches) v hv
  | processor _ hv => exact Value.isTree_of_find? htree hv
  | iterator _ _ hv => exact Value.isTree_of_find? htree hv

/-! ## States -/

theorem wellFormedState_map_iff (htype : fields.find? "Type" = some (.str type))
    (hcommon : CommonFields fields) (hown : OwnFields fields type) :
    WellFormedState declared (.map fields) ↔
      (Continues fields type ∧
        ∀ target, LeadsTo fields type target → declared.contains target = true) ∧
        ∀ w, Nests fields type w → WellFormed w := by
  constructor
  · intro h
    cases h with
    | @state _ _ other hother _ _ hcontinues htargets hnested =>
      obtain rfl : type = other := by simpa [htype] using hother
      exact ⟨⟨hcontinues, htargets⟩, hnested⟩
  · rintro ⟨⟨hcontinues, htargets⟩, hnested⟩
    exact .state htype hcommon hown hcontinues htargets hnested

theorem shape_of_wellFormedState (h : WellFormedState declared v) :
    ∃ (fields : Entries) (type : String), v = .map fields ∧
      fields.find? "Type" = some (.str type) ∧ CommonFields fields ∧ OwnFields fields type := by
  cases h with
  | state htype hcommon hown => exact ⟨_, _, rfl, htype, hcommon, hown⟩

theorem targets_declared_iff (htype : fields.find? "Type" = some (.str type))
    (hcommon : CommonFields fields) (hown : OwnFields fields type) :
    targetFindings declared name path fields = [] ↔
      ∀ target, LeadsTo fields type target → declared.contains target = true := by
  rw [targetFindings_eq_nil_iff]
  refine forall_congr' fun target => ?_
  rw [← mem_transitions_iff htype hcommon hown, forall_exists_index]

/-- Findings about the shape are not passed over. -/
theorem shapeFindings_of_stateFindings (hv : v.isTree = true)
    (h : stateFindings declared name path v = []) : shapeFindings stateShape path v = [] := by
  cases v, hv using Value.tree_cases with
  | atom a hv => rwa [stateFindings.eq_def] at h
  | list items hv => rwa [stateFindings.eq_def] at h
  | map fields hv =>
    rw [stateFindings] at h
    split at h
    · assumption
    · assumption

/-- The linter judges a state as it should if it does so for all that is smaller. -/
theorem stateFindings_eq_nil_iff (hv : v.isTree = true)
    (h : ∀ w, sizeOf w < sizeOf v → w.isTree = true → Judged w) :
    stateFindings declared name path v = [] ↔ WellFormedState declared v := by
  have hshape := shapeFindings_eq_nil_iff decides_stateShape path hv
  by_cases hclean : shapeFindings stateShape path v = []
  · obtain ⟨fields, type, rfl, htype, hcommon, hown⟩ := hshape.mp hclean
    rw [stateFindings, hclean]
    dsimp only
    rw [textAt_eq htype, List.append_eq_nil_iff, List.append_eq_nil_iff,
      continuationFindings_eq_nil_iff htype, targets_declared_iff htype hcommon hown,
      wellFormedState_map_iff htype hcommon hown]
    exact and_congr_right' (nestedIn_eq_nil_iff hown fun w hnests =>
      h w hnests.sizeOf_lt (hnests.isTree hv))
  · exact iff_of_false (fun hnil => hclean (shapeFindings_of_stateFindings hv hnil))
      fun hstate => hclean (hshape.mpr (shape_of_wellFormedState hstate))

/-! ## Definitions -/

theorem wellFormed_map_iff {start : String} {states : Entries} (hfields : DefinitionFields fields)
    (hstart : fields.find? "StartAt" = some (.str start))
    (hstates : fields.find? "States" = some (.map states)) :
    WellFormed (.map fields) ↔ states.contains start = true ∧
      ∀ entry ∈ states, WellFormedState states entry.2 := by
  constructor
  · intro h
    cases h with
    | definition _ hstart' hstates' hstarts heach =>
      rw [hstart] at hstart'
      rw [hstates] at hstates'
      cases hstart'
      cases hstates'
      exact ⟨hstarts, heach⟩
  · rintro ⟨hstarts, heach⟩
    exact .definition hfields hstart hstates hstarts heach

theorem shape_of_wellFormed (h : WellFormed v) :
    ∃ fields, v = .map fields ∧ DefinitionFields fields := by
  cases h with
  | definition hfields => exact ⟨_, rfl, hfields⟩

theorem shapeFindings_of_definitionFindings (hv : v.isTree = true)
    (h : definitionFindings path v = []) : shapeFindings definitionShape path v = [] := by
  cases v, hv using Value.tree_cases with
  | atom a hv => rwa [definitionFindings.eq_def] at h
  | list items hv => rwa [definitionFindings.eq_def] at h
  | map fields hv =>
    rw [definitionFindings] at h
    split at h
    · assumption
    · assumption

/-- The linter has nothing to say about a definition exactly if it is well formed. -/
theorem judged (v : Value) (hv : v.isTree = true) : Judged v := by
  induction hsize : sizeOf v using Nat.strong_induction_on generalizing v with
  | _ n ih =>
  subst hsize
  intro path
  have hshape := shapeFindings_eq_nil_iff decides_definitionShape path hv
  by_cases hclean : shapeFindings definitionShape path v = []
  · obtain ⟨fields, rfl, hfields⟩ := hshape.mp hclean
    obtain ⟨w, hstart, start, rfl, -⟩ := hfields.find? (p := IsName) (by simp)
      (List.mem_cons_of_mem _ List.mem_cons_self)
    obtain ⟨w, hstates, states, rfl, -⟩ := hfields.find? (p := IsNonEmptyMapping) (by simp)
      (List.mem_cons_of_mem _ (List.mem_cons_of_mem _ List.mem_cons_self))
    have hstatesTree := Value.isTree_of_find? hv hstates
    have heach : ∀ entry ∈ states, ∀ name path,
        stateFindings states name path entry.2 = [] ↔ WellFormedState states entry.2 :=
      fun entry hentry name path =>
        stateFindings_eq_nil_iff ((Value.isTree_map states).mp hstatesTree entry hentry).2
          fun w hw htree => ih _ (hw.trans ((Value.sizeOf_lt_of_mem hentry).trans
            (Value.sizeOf_lt_of_find? hstates))) w htree rfl
    rw [definitionFindings, hclean]
    dsimp only
    rw [List.append_eq_nil_iff, startFindings_eq_nil_iff hstart hstates, statesFindings_eq hstates,
      declaredFindings, eachStateFindings_eq_nil_iff heach,
      wellFormed_map_iff hfields hstart hstates]
  · exact iff_of_false (fun hnil => hclean (shapeFindings_of_definitionFindings hv hnil))
      fun hformed => hclean (hshape.mpr (shape_of_wellFormed hformed))

/-- A definition stands for a document: a text for what is written in it, and everything else for
itself. -/
inductive StandsFor : (definition document : Value) → Prop
  | text {text : String} {v : Value} : Json.parse text = .ok v → StandsFor (.str text) v
  | value {v : Value} : (∀ text, v ≠ .str text) → StandsFor v v

theorem findings_eq_nil_iff {definition : Value} (hv : definition.isTree = true) :
    findings definition = [] ↔ ∃ v, StandsFor definition v ∧ WellFormed v := by
  rw [findings.eq_def]
  split
  · rename_i text
    cases hparse : Json.parse text with
    | ok v =>
      refine (judged v (Json.isTree_parse hparse) "$").trans ⟨fun h => ⟨v, .text hparse, h⟩, ?_⟩
      rintro ⟨w, hw, hformed⟩
      cases hw with
      | text hw => exact Except.ok.inj (hparse.symm.trans hw) ▸ hformed
      | value hnot => exact absurd rfl (hnot text)
    | error e =>
      refine iff_of_false (List.cons_ne_nil _ _) ?_
      rintro ⟨w, hw, -⟩
      cases hw with
      | text hw => cases hparse.symm.trans hw
      | value hnot => exact absurd rfl (hnot text)
  · rename_i hnot
    refine (judged definition hv "$").trans ⟨fun h => ⟨definition, .value hnot, h⟩, ?_⟩
    rintro ⟨w, hw, hformed⟩
    cases hw with
    | text => exact absurd rfl (hnot _)
    | value => exact hformed

/-- A definition that can be read gets a verdict, which is that it is valid exactly if it stands for
a well-formed document. -/
theorem report_verdict {definition : Value} (hv : definition.isTree = true) :
    (∀ e, excess? definition = some e → report definition = .error e) ∧
    (excess? definition = none → ∃ found, report definition = .ok found ∧
      (found = [] ↔ ∃ v, StandsFor definition v ∧ WellFormed v)) := by
  constructor
  · intro e he
    rw [report, he]
  · intro hnone
    refine ⟨findings definition, ?_, findings_eq_nil_iff hv⟩
    rw [report, hnone]

/-- A definition whose one state runs a branch that waits for a second. -/
def oneBranch : Value :=
  .object [
    ("StartAt", .str "Both"),
    ("States", .object [
      ("Both", .object [
        ("Type", .str "Parallel"),
        ("Branches", .list [.object [
          ("StartAt", .str "Rest"),
          ("States", .object [
            ("Rest", .object [
              ("Type", .str "Wait"), ("Seconds", .int 1), ("End", .bool true)])])]]),
        ("End", .bool true)])])]

theorem report_verdict_oneBranch : oneBranch.isTree = true ∧ excess? oneBranch = none ∧
    ∃ v, StandsFor oneBranch v ∧ WellFormed v := by
  have htree : oneBranch.isTree = true := by decide
  obtain ⟨found, hreport, hverdict⟩ := (report_verdict htree).2 rfl
  have hfindings : findings oneBranch = [] := by decide +kernel
  have hnone : report oneBranch = .ok [] := congrArg Except.ok hfindings
  rw [hnone] at hreport
  exact ⟨htree, rfl, hverdict.mp (Except.ok.inj hreport).symm⟩

end FlowTemplate.Lint
