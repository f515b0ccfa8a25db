import FlowTemplate.Proofs.Lint.Exchange
import FlowTemplate.Proofs.Reference.Spelling
/-!
# Linting and the spelling of addresses

No schema for definitions or states speaks of the key of an address, and the graph of a definition
is read from other keys, too. So whether anything is found in a definition does not depend on how
the addresses in it are spelled. What is found may quote them.
-/

namespace FlowTemplate

namespace Schema

/-! ## Schemas that overlook the spelling -/

/-- A schema does not tell a value from the same value with addresses as pairs. -/
def Overlooks (schema : Schema) : Prop := ∀ v, Alike schema v v.paired

def KeywordOverlooks (keyword : Keyword) : Prop := ∀ v, KeywordAlike keyword v v.paired

variable {keyword : Keyword} {keywords : List Keyword} {schemas : List Schema}
  {fields : List (String × Schema)}

theorem holds_paired (kind : Kind) (v : Value) : kind.holds v = kind.holds v.paired :=
  Value.paired_cases (P := fun v w => kind.holds v = kind.holds w) (fun _ => rfl)
    (fun _ => by cases kind <;> rfl) (fun _ => by cases kind <;> rfl) v

theorem overlooks_all (h : ∀ keyword ∈ keywords, KeywordOverlooks keyword) :
    Overlooks (.all keywords) :=
  fun v => alike_all fun keyword hkeyword => h keyword hkeyword v

theorem KeywordOverlooks.alone (h : KeywordOverlooks keyword) : Overlooks (.all [keyword]) :=
  overlooks_all (List.forall_mem_singleton.mpr h)

theorem KeywordOverlooks.and {second : Keyword} (h : KeywordOverlooks keyword)
    (hsecond : KeywordOverlooks second) : Overlooks (.all [keyword, second]) :=
  overlooks_all (List.forall_mem_cons.mpr ⟨h, List.forall_mem_singleton.mpr hsecond⟩)

theorem overlooks_type (kinds : List Kind) : KeywordOverlooks (.type kinds) :=
  fun v => alike_type kinds fun kind => holds_paired kind v

theorem overlooks_ofKind (kind : Kind) : Overlooks (.ofKind kind) :=
  fun v => alike_ofKind kind fun kind => holds_paired kind v

theorem overlooks_minItems (n : Nat) : KeywordOverlooks (.minItems n) := by
  refine fun v => alike_minItems n ?_
  refine Value.paired_cases (P := fun v w => itemCount? v = itemCount? w) (fun _ => rfl) ?_ ?_ v
  · exact fun items => congrArg some (List.length_map _).symm
  · exact fun entries => rfl

theorem overlooks_minProperties (n : Nat) : KeywordOverlooks (.minProperties n) := by
  refine fun v => alike_minProperties n ?_
  refine Value.paired_cases (P := fun v w => entryCount? v = entryCount? w) (fun _ => rfl) ?_ ?_ v
  · exact fun items => rfl
  · intro entries
    have hlength : entries.paired.keys.length = entries.keys.length := by rw [Value.keys_paired]
    rw [Entries.keys, Entries.keys, List.length_map, List.length_map] at hlength
    exact congrArg some hlength.symm

theorem overlooks_minLength (n : Nat) : KeywordOverlooks (.minLength n) := by
  intro v e scope covered covered'
  have htext : textLength? v = textLength? v.paired :=
    Value.paired_cases (P := fun v w => textLength? v = textLength? w) (fun _ => rfl)
      (fun _ => rfl) (fun _ => rfl) v
  rw [checkKeyword, checkKeyword, htext]
  exact agrees_atLeast n _

theorem overlooks_minimum (bound : Atom) : KeywordOverlooks (.minimum bound) := by
  intro v e scope covered covered'
  have hnumber : numberOf? v = numberOf? v.paired :=
    Value.paired_cases (P := fun v w => numberOf? v = numberOf? w) (fun _ => rfl)
      (fun _ => rfl) (fun _ => rfl) v
  rw [checkKeyword, checkKeyword, compare, compare, hnumber]
  split
  · exact Report.agrees_expect _ _ _ _ _
  · exact .refl _

theorem sameMeaning_paired (a : Atom) (v : Value) :
    (Value.atom a).sameMeaning v = (Value.atom a).sameMeaning v.paired := by
  refine Value.paired_cases
    (P := fun v w => (Value.atom a).sameMeaning v = (Value.atom a).sameMeaning w) (fun _ => rfl)
    ?_ ?_ v
  · intro items
    simp only [Value.sameMeaning, Value.bare]
  · intro entries
    simp only [Value.sameMeaning, Value.bare]

theorem overlooks_enum (atoms : List Atom) : KeywordOverlooks (.enum (atoms.map .atom)) := by
  intro v e scope covered covered'
  rw [checkKeyword, checkKeyword, List.any_map, List.any_map]
  have hany : (fun w : Value => w.sameMeaning v) ∘ Value.atom =
      (fun w : Value => w.sameMeaning v.paired) ∘ Value.atom :=
    funext fun a => sameMeaning_paired a v
  rw [hany]
  exact Report.agrees_expect _ _ _ _ _

theorem overlooks_const (a : Atom) : KeywordOverlooks (.const (.atom a)) := by
  intro v e scope covered covered'
  rw [checkKeyword, checkKeyword, sameMeaning_paired a v]
  exact .refl _

theorem overlooks_required (names : List String) : KeywordOverlooks (.required names) := by
  intro v e scope covered covered'
  have hlacking : lacking names v = lacking names v.paired := by
    refine Value.paired_cases (P := fun v w => lacking names v = lacking names w) (fun _ => rfl)
      (fun _ => rfl) ?_ v
    intro entries
    refine List.filter_congr fun name _ => ?_
    rw [Value.contains_paired]
  rw [checkKeyword, checkKeyword, checkRequired, checkRequired, hlacking]
  exact .refl _

theorem overlooks_items (h : Overlooks (.all keywords)) :
    KeywordOverlooks (.items 0 (.all keywords)) := by
  intro v e scope covered covered'
  rw [checkKeyword_items, checkKeyword_items]
  refine Value.paired_cases (P := fun v w => (inParts (check e scope (.all keywords))
    (itemParts 0 v)).Agrees (inParts (check e scope (.all keywords)) (itemParts 0 w)))
    (fun _ => .refl _) ?_ (fun _ => .refl _) v
  intro items
  refine agrees_inParts ?_
  rw [map_itemParts, map_itemParts, List.forall₂_map_right_iff]
  exact List.forall₂_same.mpr fun item _ => h item e scope

/-- The key of an address is none of the fields that a schema speaks of. -/
theorem overlooks_properties
    (h : ∀ field ∈ fields, field.1 ≠ "Fn::GetAtt" ∧ Overlooks field.2) :
    KeywordOverlooks (.properties fields) := by
  intro v e scope covered covered'
  rw [checkKeyword, checkKeyword]
  refine Value.paired_cases (P := fun v w =>
    (checkFields e scope fields v).Agrees (checkFields e scope fields w)) (fun _ => .refl _) ?_ ?_ v
  · intro items
    induction fields with
    | nil => rw [checkFields, checkFields]; exact .refl _
    | cons field rest ih =>
      obtain ⟨-, hrest⟩ := List.forall_mem_cons.mp h
      rw [checkFields, checkFields]
      exact (Report.Agrees.refl _).andThen (ih hrest)
  · intro entries
    induction fields with
    | nil => rw [checkFields, checkFields]; exact .refl _
    | cons field rest ih =>
      obtain ⟨⟨hname, hfield⟩, hrest⟩ := List.forall_mem_cons.mp h
      obtain ⟨name, schema⟩ := field
      rw [checkFields, checkFields, fieldPart_map, fieldPart_map, Value.find?_paired hname]
      refine Report.Agrees.andThen ?_ (ih hrest)
      cases entries.find? name with
      | none => exact .refl _
      | some w => exact agrees_inParts (.cons (hfield w e scope) .nil)

theorem overlooks_allOf (h : ∀ schema ∈ schemas, Overlooks schema) :
    KeywordOverlooks (.allOf schemas) :=
  fun v => alike_allOf fun schema hschema => h schema hschema v

theorem overlooks_conditional {test yes : Schema} (htest : Overlooks test) (hyes : Overlooks yes) :
    KeywordOverlooks (.conditional test yes .always) :=
  fun v => alike_conditional (htest v) (hyes v)

theorem overlooks_anyOf (h : ∀ schema ∈ schemas, Overlooks schema) :
    KeywordOverlooks (.anyOf schemas) :=
  fun v => alike_anyOf fun schema hschema => h schema hschema v

theorem Overlooks.or {first second : Schema} (h : Overlooks first) (hsecond : Overlooks second) :
    Overlooks (.either [first, second]) :=
  (overlooks_anyOf (List.forall_mem_cons.mpr ⟨h, List.forall_mem_singleton.mpr hsecond⟩)).alone

end Schema

namespace Lint

open Schema

/-! ## The schemas of definitions and states -/

theorem overlooks_textOrIntrinsic : Overlooks textOrIntrinsic :=
  (overlooks_ofKind .string).or (overlooks_ofKind .object)

theorem overlooks_path : Overlooks path := (overlooks_type _).alone

theorem overlooks_count (least : Int) : Overlooks (count least) :=
  (overlooks_type _).and (overlooks_minimum _)

theorem overlooks_seconds : Overlooks seconds :=
  (overlooks_count 0).or (overlooks_ofKind .object)

theorem overlooks_texts : Overlooks (.all [.type [.string], .minLength 1]) :=
  (overlooks_type _).and (overlooks_minLength 1)

theorem overlooks_list {keywords : List Keyword} (h : Overlooks (.all keywords)) :
    Overlooks (.all [.type [.array], .items 0 (.all keywords)]) :=
  (overlooks_type _).and (overlooks_items h)

theorem overlooks_nonEmptyList {keywords : List Keyword} (h : Overlooks (.all keywords)) :
    Overlooks (.all [.type [.array], .items 0 (.all keywords), .minItems 1]) := by
  refine overlooks_all ?_
  simp only [List.forall_mem_cons, List.not_mem_nil, false_implies, implies_true, and_true]
  exact ⟨overlooks_type _, overlooks_items h, overlooks_minItems 1⟩

theorem overlooks_errorNames : Overlooks errorNames :=
  overlooks_nonEmptyList (overlooks_ofKind .string)

/-- A mapping with certain fields and names. -/
theorem overlooks_record {fields : List (String × Schema)} {names : List String}
    (hkeys : ∀ field ∈ fields, field.1 ≠ "Fn::GetAtt") (h : ∀ field ∈ fields, Overlooks field.2) :
    Overlooks (.all [.type [.object], .properties fields, .required names]) := by
  refine overlooks_all ?_
  simp only [List.forall_mem_cons, List.not_mem_nil, false_implies, implies_true, and_true]
  exact ⟨overlooks_type _, overlooks_properties fun field hfield =>
    ⟨hkeys field hfield, h field hfield⟩, overlooks_required names⟩

theorem overlooks_retrier : Overlooks retrier := by
  have hrate : Overlooks (.all [.type [.number], .minimum (.int 1)]) :=
    (overlooks_type _).and (overlooks_minimum _)
  refine overlooks_record (by decide) ?_
  simp only [List.forall_mem_cons, List.not_mem_nil, false_implies, implies_true, and_true]
  exact ⟨overlooks_errorNames, overlooks_count 1, overlooks_count 0, hrate⟩

theorem overlooks_catcher : Overlooks catcher := by
  refine overlooks_record (by decide) ?_
  simp only [List.forall_mem_cons, List.not_mem_nil, false_implies, implies_true, and_true]
  exact ⟨overlooks_errorNames, overlooks_ofKind .string, overlooks_path⟩

theorem overlooks_choiceRule : Overlooks choiceRule := by
  refine overlooks_record (by decide) ?_
  simp only [List.forall_mem_cons, List.not_mem_nil, false_implies, implies_true, and_true]
  exact overlooks_ofKind .string

theorem overlooks_commonFields : ∀ field ∈ commonFields, Overlooks field.2 := by
  have htypes : Overlooks (.all [.enum (stateTypes.map .str)]) := by
    have henum := (overlooks_enum (stateTypes.map .str)).alone
    rwa [List.map_map] at henum
  simp only [commonFields, List.forall_mem_cons, List.not_mem_nil, false_implies, implies_true,
    and_true]
  exact ⟨htypes, overlooks_ofKind .string, overlooks_texts, overlooks_ofKind .boolean,
    overlooks_path, overlooks_path, overlooks_path, overlooks_ofKind .object,
    overlooks_ofKind .object, overlooks_list overlooks_retrier, overlooks_list overlooks_catcher,
    overlooks_seconds, overlooks_seconds⟩

theorem overlooks_ownFields :
    ∀ own ∈ ownKeywords, ∀ keyword ∈ own.2, ∀ field ∈ fieldsOf keyword, Overlooks field.2 := by
  simp only [ownKeywords, task, choice, wait, fail, parallel, mapOver, fieldsOf,
    List.forall_mem_cons, List.not_mem_nil, false_implies, implies_true, and_true]
  exact ⟨overlooks_textOrIntrinsic,
    ⟨overlooks_nonEmptyList overlooks_choiceRule, overlooks_ofKind .string⟩,
    ⟨overlooks_seconds, overlooks_ofKind .string, overlooks_ofKind .string,
      overlooks_ofKind .string⟩,
    ⟨overlooks_ofKind .string, overlooks_ofKind .string⟩,
    overlooks_nonEmptyList (overlooks_ofKind .object),
    ⟨overlooks_ofKind .object, overlooks_ofKind .object, overlooks_count 0⟩⟩

theorem AsksKeys.overlooks {keyword : Keyword} (h : AsksKeys keyword) :
    KeywordOverlooks keyword := by
  have hone (name : String) : Overlooks (.all [.required [name]]) :=
    (overlooks_required [name]).alone
  cases h with
  | required names => exact overlooks_required names
  | oneOf names =>
    refine fun v => alike_oneOf fun alternative hmem => ?_
    obtain ⟨name, -, rfl⟩ := List.mem_map.mp hmem
    exact hone name v
  | anyOf names =>
    refine overlooks_anyOf fun schema hmem => ?_
    obtain ⟨name, -, rfl⟩ := List.mem_map.mp hmem
    exact hone name

theorem overlooks_whenType {type : String} {keywords : List Keyword}
    (h : Overlooks (.all keywords)) : Overlooks (whenType type keywords) := by
  have htype : Overlooks (.all [.const (.str type)]) := (overlooks_const _).alone
  have htest : Overlooks
      (.all [.properties [("Type", .all [.const (.str type)])], .required ["Type"]]) := by
    refine KeywordOverlooks.and (overlooks_properties ?_) (overlooks_required ["Type"])
    exact List.forall_mem_singleton.mpr ⟨show "Type" ≠ "Fn::GetAtt" by decide, htype⟩
  exact (overlooks_conditional htest h).alone

theorem overlooks_stateShape : Overlooks stateShape := by
  have hcommon : ∀ field ∈ commonFields, field.1 ≠ "Fn::GetAtt" := by decide
  have hown : ∀ own ∈ ownKeywords, ∀ keyword ∈ own.2, ∀ field ∈ fieldsOf keyword,
      field.1 ≠ "Fn::GetAtt" := by decide
  rw [stateShape_eq]
  refine overlooks_all ?_
  simp only [List.forall_mem_cons, List.not_mem_nil, false_implies, implies_true, and_true]
  refine ⟨overlooks_type _, overlooks_properties fun field hfield =>
    ⟨hcommon field hfield, overlooks_commonFields field hfield⟩, overlooks_required _,
    overlooks_allOf fun schema hmem => ?_⟩
  obtain ⟨own, howns, rfl⟩ := List.mem_map.mp hmem
  refine overlooks_whenType (overlooks_all fun keyword hkeyword => ?_)
  rcases asksKeys_or_properties howns hkeyword with hasks | ⟨fields, rfl⟩
  · exact hasks.overlooks
  · exact overlooks_properties fun field hfield => ⟨hown own howns _ hkeyword field hfield,
      overlooks_ownFields own howns _ hkeyword field hfield⟩

theorem overlooks_definitionShape : Overlooks definitionShape := by
  have hstates : Overlooks (.all [.type [.object], .minProperties 1]) :=
    (overlooks_type _).and (overlooks_minProperties 1)
  refine overlooks_record (by decide) ?_
  simp only [List.forall_mem_cons, List.not_mem_nil, false_implies, implies_true, and_true]
  exact ⟨overlooks_ofKind .string, overlooks_texts, hstates, overlooks_ofKind .string,
    overlooks_count 0⟩

/-! ## What the linter reads of the graph -/

variable {fields declared : Entries} {name path key : String} {v : Value}

theorem textAt_paired (h : key ≠ "Fn::GetAtt") : textAt fields.paired key = textAt fields key := by
  rw [textAt, textAt, Value.find?_paired h]
  cases fields.find? key with
  | none => rfl
  | some w => exact congrArg (Option.getD · "") (Reference.str?_paired w)

theorem find?_paired_eq_some_atom (h : key ≠ "Fn::GetAtt") {a : Atom} :
    fields.paired.find? key = some (.atom a) ↔ fields.find? key = some (.atom a) := by
  rw [Value.find?_paired h, Option.map_eq_some_iff]
  constructor
  · rintro ⟨w, hw, hpaired⟩
    rw [hw, Value.eq_atom_of_paired hpaired]
  · intro hfind
    exact ⟨_, hfind, Value.paired_atom a⟩

/-- The states that a state or a choice names are named by texts. -/
theorem nextTargets_paired (key path : String) (items : List Value) :
    nextTargets key path (items.map Value.paired) = nextTargets key path items := by
  have hnext (item : Value) : (item.paired.entries?.map fun fields => textAt fields "Next") =
      item.entries?.map fun fields => textAt fields "Next" := by
    refine Value.paired_cases (P := fun v w => (w.entries?.map fun fields => textAt fields "Next") =
      v.entries?.map fun fields => textAt fields "Next") (fun _ => rfl) (fun _ => rfl) ?_ item
    intro entries
    exact congrArg some (textAt_paired (by decide))
  refine List.ext_getElem (by simp [nextTargets]) fun i hi hi' => ?_
  simp only [nextTargets, List.getElem_mapIdx, List.getElem_map, hnext]

theorem nextTargets_listAt_paired (h : key ≠ "Fn::GetAtt") (shown path : String) :
    nextTargets shown path (listAt fields.paired key) =
      nextTargets shown path (listAt fields key) := by
  rw [listAt, listAt, Value.find?_paired h]
  cases fields.find? key with
  | none => rfl
  | some w =>
    rw [Option.map_some]
    cases w with
    | list items =>
      rw [Value.paired_list]
      exact nextTargets_paired shown path items
    | map entries =>
      rw [Value.paired_map]
      rfl
    | _ => rw [Value.paired.eq_def]

theorem transitions_paired (path : String) (fields : Entries) :
    transitions path fields.paired = transitions path fields := by
  have htext (key : String) (h : key ≠ "Fn::GetAtt") :
      textAt fields.paired key = textAt fields key := textAt_paired h
  have hlist (key : String) (h : key ≠ "Fn::GetAtt") (shown path : String) :
      nextTargets shown path (listAt fields.paired key) =
        nextTargets shown path (listAt fields key) := nextTargets_listAt_paired h shown path
  simp only [transitions, Value.contains_paired, htext "Type" (by decide),
    htext "Next" (by decide), htext "Default" (by decide), hlist "Choices" (by decide),
    hlist "Catch" (by decide)]

theorem targetFindings_paired : targetFindings declared name path fields.paired =
    targetFindings declared name path fields := by
  rw [targetFindings, targetFindings, transitions_paired]

theorem continuationFindings_paired : continuationFindings name path fields.paired =
    continuationFindings name path fields := by
  have hends : (fields.paired.find? "End" == some (.bool true)) =
      (fields.find? "End" == some (.bool true)) := by
    rw [Bool.eq_iff_iff, beq_iff_eq, beq_iff_eq]
    exact find?_paired_eq_some_atom (by decide)
  have htype : textAt fields.paired "Type" = textAt fields "Type" := textAt_paired (by decide)
  simp only [continuationFindings, htype, hends, Value.contains_paired]

theorem startFindings_paired : startFindings path fields.paired = startFindings path fields := by
  have hstart : textAt fields.paired "StartAt" = textAt fields "StartAt" :=
    textAt_paired (by decide)
  have hdeclared (target : String) :
      Entries.contains (((fields.paired.find? "States").bind Value.entries?).getD []) target =
        Entries.contains (((fields.find? "States").bind Value.entries?).getD []) target := by
    rw [Value.find?_paired (by decide)]
    cases fields.find? "States" with
    | none => rfl
    | some w =>
      refine Value.paired_cases (P := fun v w => Entries.contains (w.entries?.getD []) target =
        Entries.contains (v.entries?.getD []) target) (fun _ => rfl) (fun _ => rfl) ?_ w
      intro states
      exact Value.contains_paired states target
  simp only [startFindings, hstart, hdeclared]

theorem itemKey_paired : itemKey fields.paired = itemKey fields := by
  rw [itemKey, itemKey, Value.contains_paired]

/-! ## Findings -/

/-- The spelling makes no difference to whether anything is found in a definition. -/
def OverlooksIn (v : Value) : Prop :=
  definitionFindings "$" v.paired = [] ↔ definitionFindings "$" v = []

theorem OverlooksIn.at (h : OverlooksIn v) (path path' : String) :
    definitionFindings path v.paired = [] ↔ definitionFindings path' v = [] := by
  rw [definitionFindings_eq_nil_iff v.paired path "$", definitionFindings_eq_nil_iff v path' "$"]
  exact h

theorem shapeFindings_paired {schema : Schema} (h : Overlooks schema) (path : String) (v : Value) :
    shapeFindings schema path v.paired = [] ↔ shapeFindings schema path v = [] :=
  (shapeFindings_alike (h v)).symm

/-- A walk over fields that stops at a name finds nothing if the name is not there. -/
theorem walk_eq_nil {walk : Entries → List Finding} {look : Value → List Finding}
    (hnil : walk [] = [])
    (hcons : ∀ k w rest, walk ((k, w) :: rest) = if k == .str key then look w else walk rest)
    (h : fields.find? key = none) : walk fields = [] := by
  induction fields with
  | nil => exact hnil
  | cons entry rest ih =>
    obtain ⟨k, w⟩ := entry
    rw [Entries.find?_cons] at h
    by_cases hk : k = .str key
    · rw [if_pos hk] at h
      cases h
    · rw [if_neg hk] at h
      rw [hcons, if_neg (mt beq_iff_eq.mp hk), ih h]

/-- A walk over fields that stops at a name finds something in one spelling if it does in the
other, given that this is so for what stands there. -/
theorem walk_paired {walk : Entries → List Finding} (look : Value → List Finding)
    (hnil : walk [] = [])
    (hcons : ∀ k w rest, walk ((k, w) :: rest) = if k == .str key then look w else walk rest)
    (hkey : key ≠ "Fn::GetAtt")
    (hlook : ∀ w, fields.find? key = some w → (look w.paired = [] ↔ look w = [])) :
    walk fields.paired = [] ↔ walk fields = [] := by
  have hpaired : fields.paired.find? key = (fields.find? key).map Value.paired :=
    Value.find?_paired hkey
  cases hfind : fields.find? key with
  | none =>
    rw [hfind] at hpaired
    rw [walk_eq_nil hnil hcons hfind, walk_eq_nil hnil hcons hpaired]
  | some w =>
    rw [hfind] at hpaired
    rw [walk_eq hcons hfind, walk_eq hcons hpaired]
    exact hlook w hfind

theorem branchListFindings_paired (h : ∀ w ∈ v.parts, OverlooksIn w) :
    branchListFindings path v.paired = [] ↔ branchListFindings path v = [] := by
  cases v with
  | list branches =>
    rw [Value.paired_list, branchListFindings, branchListFindings,
      eachBranchFindings_eq_nil_iff_forall, eachBranchFindings_eq_nil_iff_forall,
      List.forall_mem_map]
    exact forall₂_congr fun w hw => h w hw
  | map entries =>
    rw [Value.paired_map, branchListFindings.eq_def, branchListFindings.eq_def]
  | _ => rw [Value.paired.eq_def]

theorem withinFindings_paired
    (h : ∀ w, sizeOf w < sizeOf (Value.map fields) → OverlooksIn w) (type : String) :
    withinFindings fields.paired type path = [] ↔ withinFindings fields type path = [] := by
  unfold withinFindings
  split
  · refine walk_paired (branchListFindings path) (by rw [branchesFindings])
      (fun _ _ _ => by rw [branchesFindings]) (by decide) fun w hw => ?_
    refine branchListFindings_paired fun u hu => h u ?_
    exact (Value.sizeOf_lt_of_mem_parts hu).trans (Value.sizeOf_lt_of_find? hw)
  · have hkey : itemKey fields ≠ "Fn::GetAtt" := by
      rw [itemKey]
      split <;> decide
    rw [itemKey_paired]
    refine walk_paired (definitionFindings (path ++ "." ++ itemKey fields))
      (by rw [nestedFindings]) (fun _ _ _ => by rw [nestedFindings]) hkey fun w hw => ?_
    exact (h w (Value.sizeOf_lt_of_find? hw)).at _ _
  · exact Iff.rfl

theorem stateFindings_paired (h : ∀ w, sizeOf w < sizeOf v → OverlooksIn w) :
    stateFindings declared name path v.paired = [] ↔ stateFindings declared name path v = [] := by
  cases v with
  | map fields =>
    have hshape := shapeFindings_paired overlooks_stateShape path (.map fields)
    rw [Value.paired_map] at hshape ⊢
    rw [stateFindings_map_eq_nil_iff, stateFindings_map_eq_nil_iff, hshape,
      continuationFindings_paired, targetFindings_paired, textAt_paired (by decide),
      withinFindings_paired h]
  | list items =>
    have hshape := shapeFindings_paired overlooks_stateShape path (.list items)
    rw [Value.paired_list] at hshape ⊢
    rwa [stateFindings.eq_def, stateFindings.eq_def]
  | _ => rw [Value.paired.eq_def]

theorem isMap_of_stateFindings (hv : v.hasNumbers = false)
    (h : stateFindings declared name path v = []) : v.isMap = true := by
  have hshape (hfound : shapeFindings stateShape path v = []) : v.isMap = true := by
    have hviolations := (report_eq_nil_iff stateShape path v).mp (List.map_eq_nil_iff.mp hfound)
    obtain ⟨fields, _, rfl, -⟩ := reads_state hv hviolations
    rfl
  cases v with
  | map fields => rfl
  | anchored n v => cases hv
  | again n => cases hv
  | _ => exact hshape (by rwa [stateFindings.eq_def] at h)

/-- What stands in an address is judged like a state in both spellings: a text is none, and neither
is a pair. -/
theorem stateFindings_asPair (argument : Value) :
    stateFindings declared name path argument.asPair = [] ↔
      stateFindings declared name path argument = [] := by
  cases argument with
  | atom a =>
    cases a with
    | str s =>
      refine iff_of_false (fun h => ?_) fun h => ?_
      · exact Bool.false_ne_true (isMap_of_stateFindings rfl h)
      · exact Bool.false_ne_true (isMap_of_stateFindings rfl h)
    | _ => exact Iff.rfl
  | _ => exact Iff.rfl

/-- The states of a definition may be written as an address, or rather its one argument may stand in
the place of a state. -/
theorem declaredFindings_paired (h : ∀ w, sizeOf w < sizeOf v → OverlooksIn w) :
    declaredFindings path v.paired = [] ↔ declaredFindings path v = [] := by
  cases v with
  | map states =>
    have hdeclared (name path : String) (w : Value) :
        stateFindings (Entries.paired states) name path w = stateFindings states name path w :=
      stateFindings_congr (Value.contains_paired states) w
    rw [Value.paired_map, declaredFindings, declaredFindings, eachStateFindings_eq_nil_iff_forall,
      eachStateFindings_eq_nil_iff_forall]
    simp only [hdeclared]
    by_cases haddress : Reference.IsAddress (.map states)
    · obtain ⟨argument, hargument⟩ := haddress
      obtain rfl := Value.map.inj hargument
      have hpaired : Entries.paired [(.str "Fn::GetAtt", argument)] =
          [(.str "Fn::GetAtt", argument.asPair)] := rfl
      rw [hpaired, List.forall_mem_singleton, List.forall_mem_singleton]
      exact stateFindings_asPair argument
    · rw [Value.paired_of_not_address haddress, List.forall_mem_map]
      refine forall₂_congr fun entry hentry => stateFindings_paired fun w hw => h w ?_
      exact hw.trans (Value.sizeOf_lt_of_mem hentry)
  | list items => rw [Value.paired_list, declaredFindings.eq_def, declaredFindings.eq_def]
  | _ => rw [Value.paired.eq_def]

/-- By induction on the size. -/
theorem overlooksIn (v : Value) : OverlooksIn v := by
  induction hsize : sizeOf v using Nat.strong_induction_on generalizing v with
  | _ n ih =>
  subst hsize
  cases v with
  | map fields =>
    have hshape := shapeFindings_paired overlooks_definitionShape "$" (.map fields)
    rw [OverlooksIn]
    rw [Value.paired_map] at hshape ⊢
    rw [definitionFindings_map_eq_nil_iff, definitionFindings_map_eq_nil_iff, hshape,
      startFindings_paired]
    refine and_congr_right' (and_congr_right' ?_)
    refine walk_paired (declaredFindings "$") (by rw [statesFindings])
      (fun _ _ _ => by rw [statesFindings]) (by decide) fun w hw => ?_
    have hsize := Value.sizeOf_lt_of_find? hw
    exact declaredFindings_paired fun u hu => ih _ (hu.trans hsize) u rfl
  | list items =>
    have hshape := shapeFindings_paired overlooks_definitionShape "$" (.list items)
    rw [OverlooksIn]
    rw [Value.paired_list] at hshape ⊢
    rwa [definitionFindings.eq_def, definitionFindings.eq_def]
  | _ => rw [OverlooksIn, Value.paired.eq_def]

/-- A definition has findings in one spelling exactly if it has them in the other. -/
theorem findings_paired (definition : Value) :
    findings definition.paired = [] ↔ findings definition = [] := by
  cases definition with
  | atom a => rw [Value.paired_atom]
  | list items =>
    rw [findings_of_not_text (fun _ h => by rw [Value.paired_list] at h; cases h),
      findings_of_not_text (fun _ h => by cases h)]
    exact overlooksIn _
  | map entries =>
    rw [findings_of_not_text (fun _ h => by rw [Value.paired_map] at h; cases h),
      findings_of_not_text (fun _ h => by cases h)]
    exact overlooksIn _
  | _ => rw [Value.paired.eq_def]

theorem excess?_paired (definition : Value) : excess? definition.paired = excess? definition :=
  Value.paired_cases (P := fun v w => excess? w = excess? v) (fun _ => rfl) (fun _ => rfl)
    (fun _ => rfl) definition

end Lint

end FlowTemplate
