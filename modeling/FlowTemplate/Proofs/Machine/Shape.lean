import FlowTemplate.Machine.Shape
import FlowTemplate.Proofs.Schema.Ensures
/-!
# What a well-shaped block has

A block that the schema has nothing against is a mapping with a definition, and what stands under
the names that compiling asks for is of the kind that compiling takes. Nothing is known of values
further inside, such as the argument of an intrinsic that joins texts.
-/

namespace FlowTemplate

namespace Machine

open Schema

/-- The value is a text. -/
def IsText (v : Value) : Prop := Kind.string.holds v = true

/-- The value is a mapping. -/
def IsMapping (v : Value) : Prop := ∃ entries, v.entries? = some entries

/-- The value is a mapping whose only key is the given text. -/
def IsUnder (key : String) (v : Value) : Prop :=
  ∃ entries, v.entries? = some entries ∧ ∀ k ∈ entries.keys, k = .str key

/-- The value is a text or a mapping with one text as its only key. -/
def IsAddress (v : Value) : Prop := IsText v ∨ ∃ key, IsUnder key v

/-- The value is a text or a list of texts. -/
def IsTextOrTexts (v : Value) : Prop :=
  IsText v ∨ ∃ items, items? v = some items ∧ ∀ w ∈ items, IsText w

/-- What stands under the names that a block may hold, as far as compiling asks for it. -/
def fieldRules : List (String × (Value → Prop)) := [
  ("id", IsText),
  ("name", IsText),
  ("definition", fun v => IsText v ∨ IsMapping v),
  ("role", IsAddress),
  ("useExactVersion", fun _ => True),
  ("dependsOn", IsTextOrTexts),
  ("tags", IsMapping),
  ("events", fun _ => True),
  ("alarms", fun _ => True),
  ("notifications", fun _ => True)]

/-- The entries of a block have the shape that compiling relies on. -/
structure WellShaped (entries : Entries) : Prop where
  definition : ∃ definition, entries.find? "definition" = some definition
  fields : ∀ rule ∈ fieldRules, ∀ v, entries.find? rule.1 = some v → rule.2 v

/-! ## The schemas of the fields -/

theorem ensures_text : Ensures (.ofKind .string) IsText := ensures_ofKind .string

/-- A text about whose characters something more is asked. -/
theorem ensures_textWith {keyword : Keyword} {p : Value → Prop} (h : KeywordEnsures keyword p) :
    Ensures (.all [.type [.string], keyword]) fun v => IsText v ∧ p v :=
  (ensures_all (.cons (ensures_type [.string]) (.cons h .nil))).imp fun v hv => by
    obtain ⟨⟨kind, hkind, hholds⟩, hv⟩ := List.forall_mem_cons.mp hv
    rw [List.mem_singleton.mp hkind] at hholds
    exact ⟨hholds, hv p List.mem_cons_self⟩

theorem ensures_loneKey (key : String) {schema : Schema} {p : Value → Prop}
    (h : Ensures schema p) : Ensures (loneKey key schema) (IsUnder key) := by
  have hkeywords := ensures_all (.cons (ensures_type [.object])
    (.cons (ensures_properties (.cons (h.field key) .nil))
      (.cons (ensures_required [key]) (.cons (ensures_additional_never [key]) .nil))))
  refine hkeywords.imp fun v hv => ?_
  obtain ⟨htype, hv⟩ := List.forall_mem_cons.mp hv
  obtain ⟨-, hv⟩ := List.forall_mem_cons.mp hv
  obtain ⟨-, hv⟩ := List.forall_mem_cons.mp hv
  have hknown := hv _ List.mem_cons_self
  obtain ⟨kind, hkind, hholds⟩ := htype
  rw [List.mem_singleton.mp hkind] at hholds
  obtain ⟨entries, hentries⟩ := Kind.holds_object.mp hholds
  refine ⟨entries, hentries, fun k hk => ?_⟩
  obtain ⟨name, hname, hk⟩ := hknown entries hentries k hk
  rwa [List.mem_singleton.mp hname] at hk

theorem ensures_attributeArgument : Ensures attributeArgument fun _ => True := by
  have hpair : Ensures (.all [.type [.array], .items 0 (.ofKind .string), .minItems 2,
      .maxItems 2]) fun _ => True :=
    (ensures_all (.cons (ensures_type [.array]) (.cons (ensures_items ensures_text)
      (.cons (ensures_minItems 2) (.cons (ensures_maxItems 2) .nil))))).imp fun _ _ => trivial
  have hdotted := ensures_textWith (ensures_pattern "^[^.]+\\..+$" dottedPattern)
  exact (ensures_either (.cons hpair (.cons hdotted .nil))).imp fun _ _ => trivial

theorem ensures_address : Ensures address IsAddress := by
  have harguments : Ensures (.all [.type [.array], .minItems 2, .maxItems 2]) fun _ => True :=
    (ensures_all (.cons (ensures_type [.array]) (.cons (ensures_minItems 2)
      (.cons (ensures_maxItems 2) .nil)))).imp fun _ _ => trivial
  have hsub : Ensures (.either [.ofKind .string, .ofKind .array]) fun _ => True :=
    (ensures_either (.cons ensures_text (.cons (ensures_any .array) .nil))).imp fun _ _ => trivial
  have hanything : Ensures (.all []) fun _ => True := (ensures_all .nil).imp fun _ _ => trivial
  have halternatives := ensures_either
    (.cons (ensures_textWith (ensures_pattern "^arn:" arnPattern))
      (.cons (ensures_loneKey "Ref" ensures_text)
        (.cons (ensures_loneKey "Fn::GetAtt" ensures_attributeArgument)
          (.cons (ensures_loneKey "Fn::Join" harguments)
            (.cons (ensures_loneKey "Fn::Sub" hsub)
              (.cons (ensures_loneKey "Fn::ImportValue" hanything) .nil))))))
  refine halternatives.imp fun v hv => ?_
  simp only [List.mem_cons, List.not_mem_nil, or_false, exists_eq_or_imp, exists_eq_left] at hv
  rcases hv with hv | hv | hv | hv | hv | hv
  · exact .inl hv.1
  all_goals exact .inr ⟨_, hv⟩

theorem ensures_dependsOn :
    Ensures (.either [.ofKind .string, .all [.type [.array], .items 0 (.ofKind .string)]])
      IsTextOrTexts := by
  have htexts := ensures_all
    (.cons (ensures_type [.array]) (.cons (ensures_items ensures_text) .nil))
  refine (ensures_either (.cons ensures_text (.cons htexts .nil))).imp fun v hv => ?_
  simp only [List.mem_cons, List.not_mem_nil, or_false, exists_eq_or_imp, exists_eq_left,
    forall_eq_or_imp, forall_eq] at hv
  rcases hv with hv | ⟨harray, hitems⟩
  · exact .inl hv
  · obtain ⟨items, h⟩ := Kind.holds_array.mp harray
    exact .inr ⟨items, h, hitems items h⟩

theorem ensures_tags :
    Ensures (.all [.type [.object], .additional [] (.all [.type [.string, .number, .boolean]])])
      IsMapping := by
  have hscalar := ensures_all (.cons (ensures_type [.string, .number, .boolean]) .nil)
  have hkeywords := ensures_all
    (.cons (ensures_type [.object]) (.cons (ensures_additional hscalar []) .nil))
  refine hkeywords.imp fun v hv => ?_
  obtain ⟨kind, hkind, hholds⟩ := hv _ List.mem_cons_self
  rw [List.mem_singleton.mp hkind] at hholds
  exact Kind.holds_object.mp hholds

theorem ensures_definition :
    Ensures (.all [.type [.object, .string]]) fun v => IsText v ∨ IsMapping v := by
  refine (ensures_all (.cons (ensures_type [.object, .string]) .nil)).imp fun v hv => ?_
  simp only [List.mem_cons, List.not_mem_nil, or_false, exists_eq_or_imp, exists_eq_left,
    forall_eq] at hv
  rcases hv with hobject | hstring
  · exact .inr (Kind.holds_object.mp hobject)
  · exact .inl hstring

theorem ensures_id : Ensures (.all [.type [.string], .pattern "^[A-Za-z0-9]+$" idPattern])
    fun v => IsText v ∧ ∀ s, v.bare = .str s → idPattern.search (Text.codes s.toList) = true :=
  ensures_textWith (ensures_pattern _ _)

theorem ensures_name : Ensures (.all [.type [.string], .minLength 1])
    fun v => IsText v ∧ ∀ s, v.bare = .str s → 1 ≤ Text.size s :=
  ensures_textWith (ensures_minLength 1)

/-! ## The schema of a block -/

theorem ensures_fields : List.Forall₂ FieldEnsures fields fieldRules :=
  .cons ((ensures_id.imp fun _ h => h.1).field "id")
    (.cons ((ensures_name.imp fun _ h => h.1).field "name")
      (.cons (ensures_definition.field "definition")
        (.cons (ensures_address.field "role")
          (.cons ((ensures_any .boolean).field "useExactVersion")
            (.cons (ensures_dependsOn.field "dependsOn")
              (.cons (ensures_tags.field "tags")
                (.cons ((ensures_any .array).field "events")
                  (.cons ((ensures_any .object).field "alarms")
                    (.cons ((ensures_any .object).field "notifications") .nil)))))))))

/-- A block without a fault in its shape is a mapping with a definition, and what stands under the
names that it may hold is as the schemas of the fields ensure. -/
theorem fields_of_shapeReport {rules : List (String × (Value → Prop))}
    (hrules : List.Forall₂ FieldEnsures fields rules) {machine : Value}
    (h : shapeReport machine = []) :
    ∃ entries, machine.entries? = some entries ∧ entries.contains "definition" = true ∧
      ∀ rule ∈ rules, ∀ v, entries.find? rule.1 = some v → rule.2 v := by
  have hkeywords := ensures_all (.cons (ensures_type [.object])
    (.cons (ensures_properties hrules)
      (.cons (ensures_required ["definition"])
        (.cons (ensures_additional_never fieldNames) .nil))))
  have hall := hkeywords.of_report h
  obtain ⟨htype, hall⟩ := List.forall_mem_cons.mp hall
  obtain ⟨hfields, hall⟩ := List.forall_mem_cons.mp hall
  obtain ⟨hrequired, -⟩ := List.forall_mem_cons.mp hall
  obtain ⟨kind, hkind, hholds⟩ := htype
  rw [List.mem_singleton.mp hkind] at hholds
  obtain ⟨entries, hentries⟩ := Kind.holds_object.mp hholds
  exact ⟨entries, hentries, hrequired entries hentries "definition" List.mem_cons_self,
    hfields entries hentries⟩

/-- A block without a fault in its shape is a mapping that has what compiling relies on. -/
theorem wellShaped_of_shapeReport {machine : Value} (h : shapeReport machine = []) :
    ∃ entries, machine.entries? = some entries ∧ WellShaped entries := by
  obtain ⟨entries, hentries, hdefinition, hfields⟩ := fields_of_shapeReport ensures_fields h
  exact ⟨entries, hentries, Option.isSome_iff_exists.mp hdefinition, hfields⟩

end Machine

end FlowTemplate
