import FlowTemplate.Proofs.Lint.Verdict
import FlowTemplate.Proofs.Schema.Ensures
/-!
# Documents that fit their schemas

A definition and a state that the schemas of the linter have nothing against hold what the walk over
the graph reads: a start, states, and a target wherever one may stand. Unlike what the schemas
decide, this holds of documents with any keys and atoms, as long as no container stands in several
places.
-/

namespace FlowTemplate.Lint

open Schema

/-- The property holds unless there are numbers in front of containers. -/
def Unnumbered (p : Value → Prop) (v : Value) : Prop := v.hasNumbers = false → p v

variable {fields : Entries} {v : Value} {p : Value → Prop} {keywords : List Keyword}

/-! ## Values without numbers -/

theorem find?_unique {key : String} (hv : fields.find? key = some v)
    (hw : fields.find? key = some w) : v = w :=
  Option.some.inj (hv.symm.trans hw)

theorem ensures_unnumbered_text : Ensures (.ofKind .string) (Unnumbered IsText) :=
  (ensures_ofKind .string).imp fun v h hv => by
    obtain ⟨s, hs⟩ := Kind.holds_string.mp h
    rw [Value.bare_of_hasNumbers hv] at hs
    exact ⟨s, hs⟩

/-- A text about which something more is asked. -/
theorem ensures_unnumbered_textWith {keyword : Keyword} (h : KeywordEnsures keyword p) :
    Ensures (.all [.type [.string], keyword]) (Unnumbered IsText) :=
  (ensures_all (.cons (ensures_type [.string]) (.cons h .nil))).imp fun v hall hv => by
    obtain ⟨kind, hkind, hholds⟩ := hall _ List.mem_cons_self
    rw [List.mem_singleton.mp hkind] at hholds
    obtain ⟨s, hs⟩ := Kind.holds_string.mp hholds
    rw [Value.bare_of_hasNumbers hv] at hs
    exact ⟨s, hs⟩

theorem unnumbered_listOf (htype : ∃ kind ∈ [Kind.array], kind.holds v = true)
    (hitems : ∀ items, items? v = some items → ∀ w ∈ items, Unnumbered p w) :
    Unnumbered (IsListOf p) v := by
  intro hv
  obtain ⟨kind, hkind, hholds⟩ := htype
  rw [List.mem_singleton.mp hkind] at hholds
  obtain ⟨items, hlist⟩ := Kind.holds_array.mp hholds
  have heq : v = .list items := by
    rw [items?, Value.bare_of_hasNumbers hv] at hlist
    cases v with
    | list others => cases hlist; rfl
    | _ => cases hlist
  subst heq
  exact ⟨items, rfl, fun w hw =>
    hitems items hlist w hw ((Value.itemsHaveNumbers_eq_false_iff items).mp hv w hw)⟩

theorem ensures_unnumbered_listOf (h : Ensures (.all keywords) (Unnumbered p)) :
    Ensures (.all [.type [.array], .items 0 (.all keywords)]) (Unnumbered (IsListOf p)) :=
  (ensures_all (.cons (ensures_type [.array]) (.cons (ensures_items h) .nil))).imp fun _ hall =>
    unnumbered_listOf (hall _ List.mem_cons_self)
      (hall _ (List.mem_cons_of_mem _ List.mem_cons_self))

theorem ensures_unnumbered_nonEmptyListOf (h : Ensures (.all keywords) (Unnumbered p)) :
    Ensures (.all [.type [.array], .items 0 (.all keywords), .minItems 1])
      (Unnumbered (IsListOf p)) :=
  (ensures_all (.cons (ensures_type [.array]) (.cons (ensures_items h)
    (.cons (ensures_minItems 1) .nil)))).imp fun _ hall =>
    unnumbered_listOf (hall _ List.mem_cons_self)
      (hall _ (List.mem_cons_of_mem _ List.mem_cons_self))

/-- Fields follow rules, where the values have no numbers. -/
abbrev unnumberedRules (rules : Rules) : Rules := rules.map fun rule => (rule.1, Unnumbered rule.2)

theorem hasFields_of_unnumbered {needed : List String} {rules : Rules}
    (hv : (Value.map fields).hasNumbers = false)
    (hrules : ∀ rule ∈ unnumberedRules rules, ∀ w, fields.find? rule.1 = some w → rule.2 w)
    (hneeded : ∀ name ∈ needed, fields.contains name = true) : HasFields needed rules fields :=
  ⟨hneeded, fun _ hrule w hw =>
    hrules _ (List.mem_map_of_mem hrule) w hw (Value.hasNumbers_of_find? hv hw)⟩

/-- Fields and the names that are needed, without a word on what has them. -/
theorem ensures_unnumbered_fields {properties : List (String × Schema)} {rules : Rules}
    (h : List.Forall₂ FieldEnsures properties (unnumberedRules rules)) (needed : List String) :
    Ensures (.all [.properties properties, .required needed])
      (Unnumbered (OnMapping (HasFields needed rules))) :=
  (ensures_all (.cons (ensures_properties h) (.cons (ensures_required needed) .nil))).imp
    fun v hall hv entries heq => by
      subst heq
      exact hasFields_of_unnumbered hv (hall _ List.mem_cons_self entries rfl)
        (hall _ (List.mem_cons_of_mem _ List.mem_cons_self) entries rfl)

theorem ensures_unnumbered_record {properties : List (String × Schema)} {rules : Rules}
    (h : List.Forall₂ FieldEnsures properties (unnumberedRules rules)) (needed : List String) :
    Ensures (.all [.type [.object], .properties properties, .required needed])
      (Unnumbered (IsRecord needed rules)) :=
  (ensures_all (.cons (ensures_type [.object]) (.cons (ensures_properties h)
    (.cons (ensures_required needed) .nil)))).imp fun v hall hv => by
    obtain ⟨kind, hkind, hholds⟩ := hall _ List.mem_cons_self
    rw [List.mem_singleton.mp hkind] at hholds
    obtain ⟨entries, hentries⟩ := Kind.holds_object.mp hholds
    have hrules := hall _ (List.mem_cons_of_mem _ List.mem_cons_self) entries hentries
    have hneeded := hall _ (List.mem_cons_of_mem _ (List.mem_cons_of_mem _ List.mem_cons_self))
      entries hentries
    obtain rfl := Value.eq_map_of_entries? hv hentries
    exact ⟨entries, rfl, hasFields_of_unnumbered hv hrules hneeded⟩

/-- Any value. -/
def IsAnything (_ : Value) : Prop := True

theorem fieldEnsures_anything {schema : Schema} {q : Value → Prop} (h : Ensures schema q)
    (name : String) : FieldEnsures (name, schema) (name, Unnumbered IsAnything) :=
  (h.imp (q := Unnumbered IsAnything) fun _ _ _ => trivial).field name

/-! ## The schemas that say nothing about the graph -/

theorem ensures_path : Ensures path fun _ => True :=
  (ensures_all (.cons (ensures_type [.string, .null]) .nil)).imp fun _ _ => trivial

theorem ensures_count (least : Int) : Ensures (count least) fun _ => True :=
  (ensures_all (.cons (ensures_type [.integer]) (.cons (ensures_minimum least) .nil))).imp
    fun _ _ => trivial

theorem ensures_seconds : Ensures seconds fun _ => True :=
  (ensures_either (.cons (ensures_count 0) (.cons (ensures_any .object) .nil))).imp
    fun _ _ => trivial

theorem ensures_textOrIntrinsic : Ensures textOrIntrinsic fun _ => True :=
  (ensures_either (.cons (ensures_any .string) (.cons (ensures_any .object) .nil))).imp
    fun _ _ => trivial

theorem ensures_errorNames : Ensures errorNames fun _ => True :=
  (ensures_all (.cons (ensures_type [.array]) (.cons (ensures_items (ensures_any .string))
    (.cons (ensures_minItems 1) .nil)))).imp fun _ _ => trivial

theorem ensures_retrier : Ensures retrier fun _ => True := by
  have hrate := ensures_all (.cons (ensures_type [.number]) (.cons (ensures_minimum 1) .nil))
  have hfields := ensures_properties
    (.cons (ensures_errorNames.field "ErrorEquals") (.cons ((ensures_count 1).field "IntervalSeconds")
      (.cons ((ensures_count 0).field "MaxAttempts") (.cons (hrate.field "BackoffRate") .nil))))
  exact (ensures_all (.cons (ensures_type [.object]) (.cons hfields
    (.cons (ensures_required ["ErrorEquals"]) .nil)))).imp fun _ _ => trivial

/-! ## Definitions and states -/

/-- The fields of a definition that the walk reads. -/
def definitionRules : Rules := [
  ("Comment", IsAnything),
  ("StartAt", IsText),
  ("States", IsMapping),
  ("Version", IsAnything),
  ("TimeoutSeconds", IsAnything)]

/-- A mapping with a text under `Next`. -/
def IsTransition : Value → Prop := IsRecord ["Next"] [("Next", IsText)]

/-- The fields that the walk reads of states of all types. -/
def stateRules : Rules := [
  ("Type", IsText),
  ("Comment", IsAnything),
  ("Next", IsText),
  ("End", IsAnything),
  ("InputPath", IsAnything),
  ("OutputPath", IsAnything),
  ("ResultPath", IsAnything),
  ("Parameters", IsAnything),
  ("ResultSelector", IsAnything),
  ("Retry", IsAnything),
  ("Catch", IsListOf IsTransition),
  ("TimeoutSeconds", IsAnything),
  ("HeartbeatSeconds", IsAnything)]

/-- The fields that the walk reads of states of one type. -/
def ReadsOwn (fields : Entries) : (type : String) → Prop
  | "Choice" =>
    HasFields ["Choices"] [("Choices", IsListOf IsTransition), ("Default", IsText)] fields
  | "Parallel" => HasFields ["Branches"] [("Branches", IsListOf IsMapping)] fields
  | "Map" => HasFields [] [("Iterator", IsMapping), ("ItemProcessor", IsMapping)] fields ∧
    (fields.contains "Iterator" = true ∨ fields.contains "ItemProcessor" = true)
  | _ => True

theorem ensures_unnumbered_mapping : Ensures (.ofKind .object) (Unnumbered IsMapping) :=
  (ensures_ofKind .object).imp fun v h hv => by
    obtain ⟨entries, hentries⟩ := Kind.holds_object.mp h
    exact ⟨entries, Value.eq_map_of_entries? hv hentries⟩

theorem ensures_choiceRule : Ensures choiceRule (Unnumbered IsTransition) :=
  ensures_unnumbered_record (.cons (ensures_unnumbered_text.field "Next") .nil) ["Next"]

theorem HasFields.mono {needed some : List String} {rules others : Rules}
    (h : HasFields needed rules fields) (hneeded : some ⊆ needed) (hrules : others ⊆ rules) :
    HasFields some others fields :=
  ⟨fun name hname => h.needed name (hneeded hname), fun rule hrule => h.rules rule (hrules hrule)⟩

theorem ensures_catcher : Ensures catcher (Unnumbered IsTransition) := by
  have hrecord : Ensures catcher (Unnumbered (IsRecord ["ErrorEquals", "Next"]
      [("ErrorEquals", IsAnything), ("Next", IsText), ("ResultPath", IsAnything)])) :=
    ensures_unnumbered_record (.cons (fieldEnsures_anything ensures_errorNames _)
      (.cons (ensures_unnumbered_text.field _) (.cons (fieldEnsures_anything ensures_path _) .nil))) _
  refine hrecord.imp fun v h hv => ?_
  obtain ⟨entries, rfl, hfields⟩ := h hv
  exact ⟨entries, rfl, hfields.mono (by simp) (by simp)⟩

theorem ensures_definitionShape :
    Ensures definitionShape (Unnumbered (IsRecord ["StartAt", "States"] definitionRules)) := by
  have hstates : Ensures (.all [.type [.object], .minProperties 1]) (Unnumbered IsMapping) :=
    (ensures_all (.cons (ensures_type [.object]) (.cons (ensures_minProperties 1) .nil))).imp
      fun v hall hv => by
        obtain ⟨kind, hkind, hholds⟩ := hall _ List.mem_cons_self
        rw [List.mem_singleton.mp hkind] at hholds
        obtain ⟨entries, hentries⟩ := Kind.holds_object.mp hholds
        exact ⟨entries, Value.eq_map_of_entries? hv hentries⟩
  exact ensures_unnumbered_record (.cons (fieldEnsures_anything ensures_unnumbered_text _)
    (.cons ((ensures_unnumbered_textWith (ensures_minLength 1)).field _)
      (.cons (hstates.field _) (.cons (fieldEnsures_anything ensures_unnumbered_text _)
        (.cons (fieldEnsures_anything (ensures_count 0) _) .nil))))) _

theorem ensures_commonFields :
    List.Forall₂ FieldEnsures commonFields (unnumberedRules stateRules) := by
  have htype : Ensures (.all [.enum (stateTypes.map .str)]) (Unnumbered IsText) :=
    (ensures_all (.cons (ensures_enum stateTypes) .nil)).imp fun v hall hv => by
      obtain ⟨s, -, hs⟩ := hall _ List.mem_cons_self
      rw [Value.bare_of_hasNumbers hv] at hs
      exact ⟨s, hs⟩
  have hretriers : Ensures (.all [.type [.array], .items 0 retrier]) fun _ => True :=
    (ensures_all (.cons (ensures_type [.array])
      (.cons (ensures_items ensures_retrier) .nil))).imp fun _ _ => trivial
  exact .cons (htype.field _) <| .cons (fieldEnsures_anything ensures_unnumbered_text _) <|
    .cons ((ensures_unnumbered_textWith (ensures_minLength 1)).field _) <|
    .cons (fieldEnsures_anything (ensures_any .boolean) _) <|
    .cons (fieldEnsures_anything ensures_path _) <|
    .cons (fieldEnsures_anything ensures_path _) <|
    .cons (fieldEnsures_anything ensures_path _) <|
    .cons (fieldEnsures_anything (ensures_any .object) _) <|
    .cons (fieldEnsures_anything (ensures_any .object) _) <|
    .cons (fieldEnsures_anything hretriers _) <|
    .cons ((ensures_unnumbered_listOf ensures_catcher).field _) <|
    .cons (fieldEnsures_anything ensures_seconds _) <|
    .cons (fieldEnsures_anything ensures_seconds _) .nil

/-- The value is a mapping of a type. -/
def IsOfType (type : String) (v : Value) : Prop :=
  ∃ entries : Entries, v = .map entries ∧ entries.find? "Type" = some (.str type)

theorem ensures_whenType {q : Value → Prop} (type : String) (h : Ensures (.all keywords) q) :
    Ensures (whenType type keywords) fun v => IsOfType type v → q v := by
  have hconst : Ensures (.all [.const (.str type)]) fun _ => True := by
    have hkeyword : KeywordEnsures (.const (.str type)) fun _ => True := by
      intro e scope covered v
      rw [checkKeyword]
      split
      · exact Report.ensures_clean trivial
      · exact Report.ensures_fail _
    exact (ensures_all (.cons hkeyword .nil)).imp fun _ _ => trivial
  have htest : Ensures (.all [.properties [("Type", .all [.const (.str type)])],
      .required ["Type"]]) fun _ => True :=
    (ensures_all (.cons (ensures_properties (.cons (hconst.field _) .nil))
      (.cons (ensures_required ["Type"]) .nil))).imp fun _ _ => trivial
  have hpass : ∀ e scope v, IsOfType type v → (check e scope (.all [.properties
      [("Type", .all [.const (.str type)])], .required ["Type"]]) v).violations = [] := by
    rintro e scope v ⟨entries, rfl, htype⟩
    have hsame : (Value.str type).sameMeaning (.str type) = true := (sameMeaning_str type _).mpr rfl
    simp [check, checkKeywords, checkKeyword, checkFields, fieldPart, Value.entries?, Value.bare,
      htype, inParts, Report.ofParts, inPart, hsame, Report.under, Report.andThen, Report.clean,
      checkRequired, lacking, Entries.contains]
  exact (ensures_all (.cons (ensures_conditional htest hpass h) .nil)).imp fun v hall =>
    hall _ List.mem_cons_self

theorem ensures_choice : Ensures (.all choice) (Unnumbered (OnMapping (ReadsOwn · "Choice"))) :=
  ensures_unnumbered_fields (.cons ((ensures_unnumbered_nonEmptyListOf ensures_choiceRule).field _)
    (.cons (ensures_unnumbered_text.field _) .nil)) ["Choices"]

theorem ensures_parallel :
    Ensures (.all parallel) (Unnumbered (OnMapping (ReadsOwn · "Parallel"))) :=
  ensures_unnumbered_fields
    (.cons ((ensures_unnumbered_nonEmptyListOf ensures_unnumbered_mapping).field _) .nil)
    ["Branches"]

theorem ensures_mapOver : Ensures (.all mapOver) (Unnumbered (OnMapping (ReadsOwn · "Map"))) := by
  have hholds (name : String) : Ensures (.all [.required [name]]) fun v =>
      ∀ entries, v.entries? = some entries → entries.contains name = true :=
    (ensures_all (.cons (ensures_required [name]) .nil)).imp fun v hall entries hentries =>
      hall _ List.mem_cons_self entries hentries name List.mem_cons_self
  have hfields : List.Forall₂ FieldEnsures _ (unnumberedRules
      [("Iterator", IsMapping), ("ItemProcessor", IsMapping), ("MaxConcurrency", IsAnything)]) :=
    .cons (ensures_unnumbered_mapping.field _) (.cons (ensures_unnumbered_mapping.field _)
      (.cons (fieldEnsures_anything (ensures_count 0) _) .nil))
  refine (ensures_all (.cons (ensures_properties hfields) (.cons (ensures_anyOf
    (.cons (hholds "Iterator") (.cons (hholds "ItemProcessor") .nil))) .nil))).imp ?_
  intro v hall hv entries heq
  subst heq
  have hrules : HasFields [] _ entries :=
    hasFields_of_unnumbered hv (hall _ List.mem_cons_self entries rfl) (by simp)
  obtain ⟨p, hp, hone⟩ := hall _ (List.mem_cons_of_mem _ List.mem_cons_self)
  refine ⟨hrules.mono (by simp) (by simp), ?_⟩
  rcases List.mem_cons.mp hp with rfl | hp
  · exact .inl (hone entries rfl)
  · obtain rfl := List.mem_singleton.mp hp
    exact .inr (hone entries rfl)

theorem ensures_task : Ensures (.all task) fun _ => True :=
  (ensures_all (.cons (ensures_properties (.cons (ensures_textOrIntrinsic.field "Resource") .nil))
    (.cons (ensures_required ["Resource"]) .nil))).imp fun _ _ => trivial

theorem ensures_fails : Ensures (.all fail) fun _ => True :=
  (ensures_all (.cons (ensures_properties (.cons ((ensures_any .string).field "Error")
    (.cons ((ensures_any .string).field "Cause") .nil))) .nil)).imp fun _ _ => trivial

theorem ensures_wait : Ensures (.all wait) fun _ => True := by
  have hholding (name : String) : Ensures (holding name).2 fun _ => True :=
    (ensures_all (.cons (ensures_required [name]) .nil)).imp fun _ _ => trivial
  have hfields := ensures_properties (.cons (ensures_seconds.field "Seconds")
    (.cons ((ensures_any .string).field "Timestamp")
      (.cons ((ensures_any .string).field "SecondsPath")
        (.cons ((ensures_any .string).field "TimestampPath") .nil))))
  refine (ensures_all (.cons hfields (.cons (ensures_oneOf ?_) .nil))).imp fun _ _ => trivial
  intro alternative halternative
  simp only [List.mem_cons, List.not_mem_nil, or_false] at halternative
  rcases halternative with rfl | rfl | rfl | rfl <;> exact hholding _

/-- What the walk reads of a state. -/
structure ReadsState (fields : Entries) (type : String) : Prop where
  ofType : fields.find? "Type" = some (.str type)
  common : HasFields ["Type"] stateRules fields
  own : ReadsOwn fields type

/-- The branches of a `Parallel` state are a list. -/
theorem ReadsState.branches (h : ReadsState fields "Parallel") :
    ∃ branches, fields.find? "Branches" = some (.list branches) := by
  obtain ⟨v, hfind, branches, rfl, -⟩ := HasFields.find? (p := IsListOf IsMapping) h.own
    List.mem_cons_self List.mem_cons_self
  exact ⟨branches, hfind⟩

/-- A `Map` state holds something under the key that is visited. -/
theorem ReadsState.processor (h : ReadsState fields "Map") :
    ∃ w, fields.find? (itemKey fields) = some w :=
  find?_itemKey h.own.2

theorem ensures_stateShape : Ensures stateShape
    (Unnumbered fun v => ∃ fields type, v = .map fields ∧ ReadsState fields type) := by
  have htypes := ensures_allOf
    (.cons (ensures_whenType "Task" ensures_task) (.cons (ensures_whenType "Choice" ensures_choice)
      (.cons (ensures_whenType "Wait" ensures_wait) (.cons (ensures_whenType "Fail" ensures_fails)
        (.cons (ensures_whenType "Parallel" ensures_parallel)
          (.cons (ensures_whenType "Map" ensures_mapOver) .nil))))))
  refine (ensures_all (.cons (ensures_type [.object]) (.cons (ensures_properties ensures_commonFields)
    (.cons (ensures_required ["Type"]) (.cons htypes .nil))))).imp fun v hall hv => ?_
  simp only [List.mem_cons, List.not_mem_nil, or_false, forall_eq_or_imp, forall_eq,
    exists_eq_left] at hall
  obtain ⟨hkind, hrules, hneeded, -, hchoice, -, -, hparallel, hmap⟩ := hall
  obtain ⟨fields, hfields⟩ := Kind.holds_object.mp hkind
  obtain rfl := Value.eq_map_of_entries? hv hfields
  have hcommon : HasFields ["Type"] stateRules fields :=
    hasFields_of_unnumbered hv (hrules fields rfl) (by simpa using hneeded fields rfl)
  obtain ⟨w, htype, type, rfl⟩ := hcommon.find? (p := IsText) List.mem_cons_self List.mem_cons_self
  refine ⟨fields, type, rfl, htype, hcommon, ?_⟩
  unfold ReadsOwn
  split
  · exact hchoice ⟨fields, rfl, htype⟩ hv fields rfl
  · exact hparallel ⟨fields, rfl, htype⟩ hv fields rfl
  · exact hmap ⟨fields, rfl, htype⟩ hv fields rfl
  · trivial

theorem reads_definition (hv : v.hasNumbers = false) (h : definitionShape.violations v = []) :
    ∃ (fields : Entries) (start : String) (states : Entries), v = .map fields ∧
      fields.find? "StartAt" = some (.str start) ∧ fields.find? "States" = some (.map states) := by
  obtain ⟨fields, rfl, hfields⟩ := (ensures_definitionShape .none {} v).holds h hv
  obtain ⟨-, hstart, start, rfl⟩ := hfields.find? (p := IsText) List.mem_cons_self
    (List.mem_cons_of_mem _ List.mem_cons_self)
  obtain ⟨-, hstates, states, rfl⟩ := hfields.find? (p := IsMapping)
    (List.mem_cons_of_mem _ List.mem_cons_self)
    (List.mem_cons_of_mem _ (List.mem_cons_of_mem _ List.mem_cons_self))
  exact ⟨fields, start, states, rfl, hstart, hstates⟩

theorem reads_state (hv : v.hasNumbers = false) (h : stateShape.violations v = []) :
    ∃ (fields : Entries) (type : String), v = .map fields ∧ ReadsState fields type :=
  (ensures_stateShape .none {} v).holds h hv

/-! ## Documents -/

mutual

/-- The schemas of the linter accept a definition and all states and definitions that the linter
visits from there. -/
inductive Fits : Value → Prop
  | definition {v : Value} (shape : definitionShape.accepts v = true)
      (each : ∀ fields states : Entries, v = .map fields →
        fields.find? "States" = some (.map states) → ∀ entry ∈ states, FitsState entry.2) : Fits v

inductive FitsState : Value → Prop
  | state {v : Value} (shape : stateShape.accepts v = true)
      (nested : ∀ (fields : Entries) (type : String) (w : Value), v = .map fields →
        fields.find? "Type" = some (.str type) → Nests fields type w → Fits w) : FitsState v

end

theorem Nests.hasNumbers (h : Nests fields type v) (hv : (Value.map fields).hasNumbers = false) :
    v.hasNumbers = false := by
  cases h with
  | branch _ hbranches hmem =>
    exact (Value.itemsHaveNumbers_eq_false_iff _).mp (Value.hasNumbers_of_find? hv hbranches) v hmem
  | processor _ h => exact Value.hasNumbers_of_find? hv h
  | iterator _ _ h => exact Value.hasNumbers_of_find? hv h

theorem fits_iff : Fits v ↔ definitionShape.accepts v = true ∧
    ∀ fields states : Entries, v = .map fields → fields.find? "States" = some (.map states) →
      ∀ entry ∈ states, FitsState entry.2 :=
  ⟨fun h => by cases h with | definition shape each => exact ⟨shape, each⟩,
    fun h => .definition h.1 h.2⟩

theorem fitsState_iff : FitsState v ↔ stateShape.accepts v = true ∧
    ∀ (fields : Entries) (type : String) (w : Value), v = .map fields →
      fields.find? "Type" = some (.str type) → Nests fields type w → Fits w :=
  ⟨fun h => by cases h with | state shape nested => exact ⟨shape, nested⟩,
    fun h => .state h.1 h.2⟩

theorem fits_map {states : Entries} (hshape : definitionShape.accepts (.map fields) = true)
    (hstates : fields.find? "States" = some (.map states))
    (heach : ∀ entry ∈ states, FitsState entry.2) : Fits (.map fields) := by
  refine .definition hshape fun others states' heq hstates' => ?_
  cases Value.map.inj heq
  cases find?_unique hstates hstates'
  exact heach

theorem fitsState_parallel {branches : List Value}
    (hshape : stateShape.accepts (.map fields) = true)
    (htype : fields.find? "Type" = some (.str "Parallel"))
    (hbranches : fields.find? "Branches" = some (.list branches))
    (heach : ∀ w ∈ branches, Fits w) : FitsState (.map fields) := by
  refine .state hshape fun others type w heq htype' hnests => ?_
  cases Value.map.inj heq
  cases find?_unique htype htype'
  exact heach w ((nests_parallel_iff hbranches).mp hnests)

theorem fitsState_pass (hshape : stateShape.accepts (.map fields) = true)
    (htype : fields.find? "Type" = some (.str "Pass")) : FitsState (.map fields) := by
  refine .state hshape fun others type w heq htype' hnests => ?_
  cases Value.map.inj heq
  cases find?_unique htype htype'
  cases hnests with
  | branch htype => exact absurd htype (by decide)
  | processor htype => exact absurd htype (by decide)
  | iterator htype => exact absurd htype (by decide)

end FlowTemplate.Lint
