import FlowTemplate.Proofs.Lint.Exchange
/-!
# Intrinsics in the place of texts

An accepted definition stays accepted when the resource of a task gives way to an intrinsic. Every
other text of a state that names no state and no error has to stay a text: the schema of states asks
for one, and an intrinsic is none.
-/

namespace FlowTemplate.Lint

open Schema

variable {fields state new : Entries} {type name : String} {schema : Schema} {x : Value}
  {e : Surroundings} {scope : Scope}

/-! ## What the schema of states asks of a field -/

/-- What a state of a type has under a name is held against a schema. -/
inductive HeldAgainst (type name : String) (schema : Schema) : Prop
  | common : (name, schema) ∈ commonFields → HeldAgainst type name schema
  | own {keywords : List Keyword} {keyword : Keyword} : (type, keywords) ∈ ownKeywords →
      keyword ∈ keywords → (name, schema) ∈ fieldsOf keyword → HeldAgainst type name schema

/-- A state of a type passes the test for the type. -/
theorem passes_typeTest (htype : fields.find? "Type" = some (.str type)) :
    (check e scope (.all [.properties [("Type", .all [.const (.str type)])], .required ["Type"]])
      (.map fields)).Passes := by
  have hsame : (Value.str type).sameMeaning (.str type) = true := (sameMeaning_str type _).mpr rfl
  constructor <;>
  simp [check, checkKeywords, checkKeyword, checkFields, fieldPart, Value.entries?, Value.bare,
    htype, inParts, Report.ofParts, inPart, hsame, Report.under, Report.andThen, Report.clean,
    checkRequired, lacking, Entries.contains]

theorem passes_of_fieldsOf {keyword : Keyword} {covered : Unit → Except Fault (List Step)}
    (h : (checkKeyword e scope covered keyword (.map fields)).Passes)
    (hmem : (name, schema) ∈ fieldsOf keyword) (hx : fields.find? name = some x) :
    (check e scope schema x).Passes := by
  cases keyword with
  | properties fields => exact passes_of_properties h hmem hx
  | _ => cases hmem

/-- What a state that passes has under a name passes the schema for the name. -/
theorem HeldAgainst.passes (h : HeldAgainst type name schema)
    (hstate : (check e scope stateShape (.map fields)).Passes)
    (htype : fields.find? "Type" = some (.str type)) (hx : fields.find? name = some x) :
    (check e scope schema x).Passes := by
  rw [stateShape_eq] at hstate
  cases h with
  | common hmem =>
    obtain ⟨covered, hcommon⟩ := passes_of_all hstate (List.mem_cons_of_mem _ List.mem_cons_self)
    exact passes_of_properties hcommon hmem hx
  | @own keywords keyword hown hkeyword hmem =>
    obtain ⟨covered, hall⟩ := passes_of_all hstate (List.mem_cons_of_mem _
      (List.mem_cons_of_mem _ (List.mem_cons_of_mem _ List.mem_cons_self)))
    have hwhen := passes_of_allOf hall (List.mem_map_of_mem hown)
    obtain ⟨covered, hcondition⟩ := passes_of_all hwhen List.mem_cons_self
    have hyes := passes_of_conditional hcondition (passes_typeTest htype)
    obtain ⟨covered, hkeyword⟩ := passes_of_all hyes hkeyword
    exact passes_of_fieldsOf hkeyword hmem hx

/-! ## Texts and mappings -/

/-- The schema lets no text pass. -/
def RefusesTexts (schema : Schema) : Prop :=
  ∀ e scope text, ¬ (check e scope schema (.str text)).Passes

/-- The schema lets no mapping pass. -/
def RefusesMappings (schema : Schema) : Prop :=
  ∀ e scope fields, ¬ (check e scope schema (.map fields)).Passes

variable {kinds : List Kind} {keywords : List Keyword}

theorem refusesTexts_of_type (h : Kind.string ∉ kinds) :
    RefusesTexts (.all (.type kinds :: keywords)) := by
  intro e scope text hpasses
  obtain ⟨kind, hkind, hholds⟩ := holds_of_passes hpasses
  cases kind with
  | string => exact h hkind
  | _ => cases hholds

theorem refusesMappings_of_type (h : Kind.object ∉ kinds) :
    RefusesMappings (.all (.type kinds :: keywords)) := by
  intro e scope fields hpasses
  obtain ⟨kind, hkind, hholds⟩ := holds_of_passes hpasses
  cases kind with
  | object => exact h hkind
  | _ => cases hholds

theorem refusesTexts_seconds : RefusesTexts seconds := by
  intro e scope text hpasses
  obtain ⟨covered, hany⟩ := passes_of_all hpasses List.mem_cons_self
  obtain ⟨schema, hschema, hone⟩ := passes_of_anyOf hany
  rcases List.mem_cons.mp hschema with rfl | hschema
  · exact refusesTexts_of_type (by decide) e scope text hone
  · obtain rfl := List.mem_singleton.mp hschema
    exact refusesTexts_of_type (by decide) e scope text hone

/-- The names under which a state has its type and the names of other states. -/
def structuralNames : List String := ["Type", "Next", "Default"]

/-- A field that is structural, or that cannot hold both a text and a mapping. -/
def Separates (field : String × Schema) : Prop :=
  field.1 ∈ structuralNames ∨ RefusesTexts field.2 ∨ RefusesMappings field.2

theorem Separates.texts {name : String} (h : Kind.string ∉ kinds) :
    Separates (name, .all (.type kinds :: keywords)) :=
  .inr (.inl (refusesTexts_of_type h))

theorem Separates.mappings {name : String} (h : Kind.object ∉ kinds) :
    Separates (name, .all (.type kinds :: keywords)) :=
  .inr (.inr (refusesMappings_of_type h))

theorem separates_seconds (name : String) : Separates (name, seconds) :=
  .inr (.inl refusesTexts_seconds)

theorem separates_commonFields : ∀ field ∈ commonFields, Separates field := by
  simp only [commonFields, List.forall_mem_cons, List.not_mem_nil, false_implies, implies_true,
    and_true]
  exact ⟨.inl (by decide), .mappings (by decide), .inl (by decide), .mappings (by decide),
    .mappings (by decide), .mappings (by decide), .mappings (by decide), .texts (by decide),
    .texts (by decide), .mappings (by decide), .mappings (by decide), separates_seconds _,
    separates_seconds _⟩

/-- The resource of a task is the only field of a state that may be a text or a mapping. -/
theorem separates_or_resource : ∀ own ∈ ownKeywords, ∀ keyword ∈ own.2, ∀ field ∈ fieldsOf keyword,
    Separates field ∨ own.1 = "Task" ∧ field = ("Resource", textOrIntrinsic) := by
  simp only [ownKeywords, task, choice, wait, fail, parallel, mapOver, fieldsOf,
    List.forall_mem_cons, List.not_mem_nil, false_implies, implies_true, and_true]
  exact ⟨.inr trivial, ⟨.inl (.mappings (by decide)), .inl (.inl (by decide))⟩,
    ⟨.inl (separates_seconds _), .inl (.mappings (by decide)), .inl (.mappings (by decide)),
      .inl (.mappings (by decide))⟩,
    ⟨.inl (.mappings (by decide)), .inl (.mappings (by decide))⟩, .inl (.mappings (by decide)),
    ⟨.inl (.texts (by decide)), .inl (.texts (by decide)), .inl (.texts (by decide))⟩⟩

theorem HeldAgainst.separates (h : HeldAgainst type name schema) :
    Separates (name, schema) ∨ type = "Task" ∧ name = "Resource" ∧ schema = textOrIntrinsic := by
  cases h with
  | common hmem => exact .inl (separates_commonFields _ hmem)
  | own hown hkeyword hmem =>
    refine (separates_or_resource _ hown _ hkeyword _ hmem).imp_right fun h => ⟨h.1, ?_⟩
    exact Prod.mk.inj h.2

theorem alike_textOrIntrinsic (text : String) (fields : Entries) :
    Alike textOrIntrinsic (.str text) (.map fields) := by
  intro e scope
  refine Report.agrees_of_passes ?_ ?_ <;> constructor <;>
  simp [textOrIntrinsic, Schema.either, Schema.ofKind, check, checkKeywords, checkKeyword,
    anyAccepts, expect, Kind.holds, Value.bare, Report.violations?, Report.ofAnswer, Report.clean,
    Report.andThen, Report.fail]

/-! ## A text that gives way -/

/-- In a state of a type, a text that the schema of states speaks of and that is not structural
gives way to another value. -/
inductive GivesWay (type : String) (state : Entries) (v : Value) : (name : String) → Entries → Prop
  | field {name text : String} {schema : Schema} : HeldAgainst type name schema →
      name ∉ structuralNames → state.find? name = some (.str text) →
      GivesWay type state v name (state.insert (.str name) v)
  | catcher {catchers : List Value} {held : Entries} {i : Nat} {text : String} :
      state.find? "Catch" = some (.list catchers) → catchers[i]? = some (.map held) →
      held.find? "ResultPath" = some (.str text) →
      GivesWay type state v "ResultPath" (state.insert (.str "Catch")
        (.list (catchers.set i (.map (held.insert (.str "ResultPath") v)))))

theorem HeldAgainst.type_eq_task (h : HeldAgainst type "Resource" schema) : type = "Task" := by
  have hcommon : ∀ field ∈ commonFields, field.1 ≠ "Resource" := by decide
  have hown : ∀ own ∈ ownKeywords, ∀ keyword ∈ own.2, ∀ field ∈ fieldsOf keyword,
      field.1 = "Resource" → own.1 = "Task" := by decide
  cases h with
  | common hmem => exact absurd rfl (hcommon _ hmem)
  | own hkeywords hkeyword hmem => exact hown _ hkeywords _ hkeyword _ hmem rfl

/-- A task stays accepted with an intrinsic for a resource. -/
theorem preserves_resource (htype : state.find? "Type" = some (.str type))
    (hname : name = "Resource") (h : GivesWay type state (.map fields) name new) :
    Preserves state new := by
  cases h with
  | @field _ text schema hheld _ htext =>
    subst hname
    obtain rfl := hheld.type_eq_task
    refine preserves_insert htext (by decide) ?_ fun path _ => ?_
    · exact List.forall_mem_singleton.mpr (alike_textOrIntrinsic text fields)
    · rw [textAt_eq htype, withinFindings.eq_3 _ _ _ (by decide) (by decide)]
  | catcher => exact absurd hname (by decide)

theorem passes_of_stateFindings {declared : Entries} {path : String}
    (h : stateFindings declared name path (.map state) = []) :
    (check .none {} stateShape (.map state)).Passes := by
  obtain ⟨hshape, -⟩ := stateFindings_map_eq_nil_iff.mp h
  exact ⟨(ensures_stateShape .none {} _).fault,
    (report_eq_nil_iff stateShape path _).mp (List.map_eq_nil_iff.mp hshape)⟩

/-- A catcher with a mapping for a path in it does not pass. -/
theorem not_passes_catcher {held : Entries} (hheld : held.find? "ResultPath" = some (.map fields)) :
    ¬ (check e scope catcher (.map held)).Passes := by
  intro hpasses
  obtain ⟨covered, hfields⟩ := passes_of_all hpasses (List.mem_cons_of_mem _ List.mem_cons_self)
  have hpath := passes_of_properties hfields
    (List.mem_cons_of_mem _ (List.mem_cons_of_mem _ List.mem_cons_self)) hheld
  exact refusesMappings_of_type (by decide) _ _ _ hpath

/-- No state in which a text gave way to an intrinsic passes along with the state as it was, unless
the text is the resource of a task. -/
theorem GivesWay.not_passes (h : GivesWay type state (.map fields) name new)
    (hname : name ≠ "Resource") (htype : state.find? "Type" = some (.str type))
    (hstate : (check e scope stateShape (.map state)).Passes) :
    ¬ (check e scope stateShape (.map new)).Passes := by
  intro hnew
  cases h with
  | field hheld hstructural htext =>
    have hne : "Type" ≠ name := by
      rintro rfl
      exact hstructural List.mem_cons_self
    have hold := hheld.passes hstate htype htext
    have hmapping := hheld.passes hnew ((find?_insert_of_ne hne).trans htype) find?_insert_self
    rcases hheld.separates with (hnamed | htexts | hmappings) | ⟨-, hresource, -⟩
    · exact hstructural hnamed
    · exact htexts _ _ _ hold
    · exact hmappings _ _ _ hmapping
    · exact hname hresource
  | catcher _ hheld _ =>
    have hcatchers : HeldAgainst type "Catch" (.all [.type [.array], .items 0 Lint.catcher]) :=
      .common (by simp [commonFields])
    have hlist := hcatchers.passes hnew ((find?_insert_of_ne (by decide)).trans htype)
      find?_insert_self
    obtain ⟨covered, hitems⟩ := passes_of_all hlist (List.mem_cons_of_mem _ List.mem_cons_self)
    obtain ⟨hi, -⟩ := List.getElem?_eq_some_iff.mp hheld
    exact not_passes_catcher find?_insert_self (passes_of_items hitems (List.mem_set hi _))

/-- Where a text of a state gives way to a mapping, as every intrinsic is one, the definition stays
accepted if the text is the resource of a task; if it is any other text of a state that the linter
visits, the definition is accepted no more. -/
theorem report_givesWay {definition definition' document document' : Value}
    (hstands : StandsFor definition document) (haccepted : report definition = .ok [])
    (htype : state.find? "Type" = some (.str type))
    (hgives : GivesWay type state (.map fields) name new)
    (hstands' : StandsFor definition' document') (hreadable : excess? definition' = none) :
    (name = "Resource" → Exchanges (fun _ _ => True) state new document document' →
      report definition' = .ok []) ∧
    (name ≠ "Resource" → Exchanges IsVisited state new document document' →
      report definition' ≠ .ok []) := by
  have hclean := definitionFindings_of_report hstands haccepted
  constructor
  · rintro rfl hexchanges
    rw [report_of_standsFor hstands' hreadable,
      definitionFindings_of_exchanges hexchanges (preserves_resource htype rfl hgives) hclean]
  · intro hname hexchanges haccepted'
    have hclean' := definitionFindings_of_report hstands' haccepted'
    obtain ⟨_, _, _, hstate⟩ := stateFindings_of_hasState hexchanges.hasState hclean
    obtain ⟨_, _, _, hnew⟩ := stateFindings_of_hasState hexchanges.hasState_new hclean'
    exact hgives.not_passes hname htype (passes_of_stateFindings hstate)
      (passes_of_stateFindings hnew)

/-- A task with two texts that may be replaced. -/
def commentedTask : Entries := [
  (.str "Type", .str "Task"), (.str "Resource", .str "arn"), (.str "Comment", .str "works"),
  (.str "End", .bool true)]

def commentedStates : Entries := [(.str "Work", .map commentedTask)]

def commentedFields : Entries := [
  (.str "StartAt", .str "Work"), (.str "States", .map commentedStates)]

/-- The definition of the task, with an intrinsic for one of its texts. -/
def workWith (name : String) : Value :=
  withState commentedFields commentedStates 0 (.str "Work")
    (commentedTask.insert (.str name) (.single "Ref" (.str "Worker")))

theorem report_givesWay_task : report (.map commentedFields) = .ok [] ∧
    report (workWith "Resource") = .ok [] ∧ report (workWith "Comment") ≠ .ok [] := by
  have hvalue (fields : Entries) : StandsFor (.map fields) (.map fields) :=
    .value fun text heq => by cases heq
  have haccepted : report (.map commentedFields) = .ok [] := by decide +kernel
  have hresource : HeldAgainst "Task" "Resource" textOrIntrinsic :=
    .own List.mem_cons_self List.mem_cons_self List.mem_cons_self
  have hcomment : HeldAgainst "Task" "Comment" (.ofKind .string) :=
    .common (List.mem_cons_of_mem _ List.mem_cons_self)
  refine ⟨haccepted, ?_, ?_⟩
  · exact (report_givesWay (hvalue commentedFields) haccepted rfl
      (.field hresource (by decide) rfl) (hvalue _) rfl).1 rfl (.own rfl rfl)
  · exact (report_givesWay (hvalue commentedFields) haccepted rfl
      (.field hcomment (by decide) rfl) (hvalue _) rfl).2 (by decide) (.own rfl rfl)

/-- An intrinsic is not accepted for the cause of a failure. -/
theorem not_report_intrinsic : ¬ ∀ (definition document document' : Value) (state new : Entries)
    (type name : String) (x : Value), StandsFor definition document → report definition = .ok [] →
      state.find? "Type" = some (.str type) → GivesWay type state (.single "Ref" x) name new →
      Exchanges (fun _ _ => True) state new document document' →
      report document' = .ok [] := by
  intro h
  let state : Entries := [(.str "Type", .str "Fail"), (.str "Cause", .str "lost")]
  let states : Entries := [(.str "A", .map state)]
  let fields : Entries := [(.str "StartAt", .str "A"), (.str "States", .map states)]
  have hstands : StandsFor (.map fields) (.map fields) := .value fun text heq => by cases heq
  have haccepted : report (.map fields) = .ok [] := by decide +kernel
  have hfail : ("Fail", fail) ∈ ownKeywords := by simp [ownKeywords]
  have hcause : HeldAgainst "Fail" "Cause" (.ofKind .string) :=
    .own hfail List.mem_cons_self (List.mem_cons_of_mem _ List.mem_cons_self)
  have hrefused : report (withState fields states 0 (.str "A")
      (state.insert (.str "Cause") (.single "Ref" (.str "Message")))) ≠ .ok [] := by decide +kernel
  exact hrefused (h (.map fields) (.map fields) _ state _ "Fail" "Cause" (.str "Message") hstands
    haccepted rfl (.field hcause (by decide) rfl) (.own rfl rfl))

end FlowTemplate.Lint
