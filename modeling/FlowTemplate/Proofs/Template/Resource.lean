import FlowTemplate.Compile.Machine
import FlowTemplate.Proofs.Computation
import FlowTemplate.Proofs.Record.Reader
/-!
# Reading the resource of a machine

The document of a resource has the fields of the resource under their written names and no others,
so whether it is read is a question to each of the fields alone.
-/

namespace FlowTemplate

open Record FlowTemplate.Computation

/-- A tag is read back from its entry in a template. -/
theorem Tag.read_toValue (t : Tag) : Tag.read t.toValue = .ok t := by
  have hkeys : ∀ k ∈ [Atom.str "Key", .str "Value"],
      (Text.plain? (Literal.displayAtom k)).isSome = true := by decide +kernel
  have hread : Tag.read t.toValue =
      (Checked.alone [keyField, valueField]
        [(.str "Key", .str t.key), (.str "Value", .str t.value)] (.ok (t.key, t.value)) >>=
        fun pair => .ok ⟨pair.1, pair.2⟩) := rfl
  rw [hread, Checked.alone_eq hkeys] <;> rfl

namespace TemplateText

/-- An intrinsic is read whatever its argument is. -/
theorem exists_read {v : Value} {entries : Entries} (hentries : v.entries? = some entries)
    (hkeys : ∀ k ∈ entries.keys, ∃ s, k = .str s) : ∃ t, TemplateText.read v = .ok t := by
  obtain ⟨pairs, hpairs⟩ := exists_mapping hentries hkeys
  refine ⟨.intrinsic pairs, ?_⟩
  cases htext : Record.text v with
  | ok s => cases hentries.symm.trans (entries?_of_text htext)
  | error e => rw [TemplateText.read, htext, hpairs]

theorem exists_read_toValue (definition : DefinitionString) :
    ∃ t, TemplateText.read definition.toValue = .ok t := by
  cases definition with
  | plain text => exact ⟨.text text, rfl⟩
  | substitution text parameters =>
    refine exists_read rfl fun k hk => ?_
    rw [List.mem_singleton.mp hk]
    exact ⟨_, rfl⟩

end TemplateText

/-- The properties of a machine are read side by side. -/
theorem MachineProperties.read_object (definition role tags name : Value) :
    MachineProperties.read (.object [("DefinitionString", definition), ("RoleArn", role),
        ("Tags", tags), ("StateMachineName", name)]) =
      ((((((TemplateText.read definition).under "DefinitionString").and
          ((TemplateText.read role).under "RoleArn")).and ((listOf Tag.read tags).under "Tags")).and
          ((optionalText name).under "StateMachineName")) >>= fun parts =>
        .ok { definition := parts.1.1.1, role := parts.1.1.2, tags := parts.1.2
              name := parts.2 }) := by
  have hkeys : ∀ k ∈ [Atom.str "DefinitionString", .str "RoleArn", .str "Tags",
      .str "StateMachineName"], (Text.plain? (Literal.displayAtom k)).isSome = true := by
    decide +kernel
  have hread : MachineProperties.read (.object [("DefinitionString", definition),
        ("RoleArn", role), ("Tags", tags), ("StateMachineName", name)]) =
      (Checked.alone fields [(.str "DefinitionString", definition), (.str "RoleArn", role),
        (.str "Tags", tags), (.str "StateMachineName", name)]
        (((((TemplateText.read definition).under "DefinitionString").and
          ((TemplateText.read role).under "RoleArn")).and ((listOf Tag.read tags).under "Tags")).and
          ((optionalText name).under "StateMachineName")) >>= fun parts =>
        .ok { definition := parts.1.1.1, role := parts.1.1.2, tags := parts.1.2
              name := parts.2 }) := rfl
  rw [hread, Checked.alone_eq hkeys] <;> rfl

/-- The properties of a machine are read if each of them is. -/
theorem MachineProperties.read_eq_ok {definition role tags name : Value} {p : MachineProperties} :
    MachineProperties.read (.object [("DefinitionString", definition), ("RoleArn", role),
        ("Tags", tags), ("StateMachineName", name)]) = .ok p ↔
      TemplateText.read definition = .ok p.definition ∧ TemplateText.read role = .ok p.role ∧
        listOf Tag.read tags = .ok p.tags ∧ optionalText name = .ok p.name := by
  rw [read_object]
  constructor
  · intro h
    obtain ⟨⟨⟨⟨d, r⟩, t⟩, n⟩, hall, hp⟩ := bind_eq_ok h
    cases hp
    obtain ⟨hall, hname⟩ := Checked.and_eq_ok.mp hall
    obtain ⟨hall, htags⟩ := Checked.and_eq_ok.mp hall
    obtain ⟨hdefinition, hrole⟩ := Checked.and_eq_ok.mp hall
    exact ⟨Checked.under_eq_ok.mp hdefinition, Checked.under_eq_ok.mp hrole,
      Checked.under_eq_ok.mp htags, Checked.under_eq_ok.mp hname⟩
  · rintro ⟨hdefinition, hrole, htags, hname⟩
    rw [hdefinition, hrole, htags, hname]
    rfl

namespace Machine

variable {definition : DefinitionString} {role : Role} {tags : List Tag} {name : Value}
  {dependsOn : List Value} {resource : MachineResource}

/-- Properties and dependencies are read side by side. -/
theorem read_resourceObject (properties : Value) (dependsOn : List Value) :
    MachineResource.read (.object [("Properties", properties), ("DependsOn", .list dependsOn)]) =
      (((Checked.and (.ok ()) ((MachineProperties.read properties).under "Properties")).and
          ((listOf text (.list dependsOn)).under "DependsOn")) >>= fun parts =>
        .ok { properties := parts.1.2, dependsOn := parts.2 }) := by
  have hkeys : ∀ k ∈ [Atom.str "Properties", .str "DependsOn"],
      (Text.plain? (Literal.displayAtom k)).isSome = true := by decide +kernel
  have hread :
      MachineResource.read (.object [("Properties", properties), ("DependsOn", .list dependsOn)]) =
      (Checked.alone MachineResource.fields [(.str "Properties", properties),
          (.str "DependsOn", .list dependsOn)]
        ((Checked.and (.ok ()) ((MachineProperties.read properties).under "Properties")).and
          ((listOf text (.list dependsOn)).under "DependsOn")) >>= fun parts =>
        .ok { properties := parts.1.2, dependsOn := parts.2 }) := rfl
  rw [hread, Checked.alone_eq hkeys] <;> rfl

/-- The document of a resource is read if each of its fields is. -/
theorem read_resourceDocument_eq_ok :
    MachineResource.read (resourceDocument definition role tags name dependsOn) = .ok resource ↔
      (TemplateText.read definition.toValue = .ok resource.properties.definition ∧
        TemplateText.read role.value = .ok resource.properties.role ∧
        listOf Tag.read (.list (tags.map Tag.toValue)) = .ok resource.properties.tags ∧
        optionalText name = .ok resource.properties.name) ∧
      listOf text (.list dependsOn) = .ok resource.dependsOn := by
  rw [← MachineProperties.read_eq_ok, resourceDocument, read_resourceObject]
  constructor
  · intro h
    obtain ⟨⟨⟨⟨⟩, p⟩, d⟩, hall, hresource⟩ := bind_eq_ok h
    cases hresource
    obtain ⟨hall, hdependsOn⟩ := Checked.and_eq_ok.mp hall
    obtain ⟨-, hproperties⟩ := Checked.and_eq_ok.mp hall
    exact ⟨Checked.under_eq_ok.mp hproperties, Checked.under_eq_ok.mp hdependsOn⟩
  · rintro ⟨hproperties, hdependsOn⟩
    rw [hproperties, hdependsOn]
    rfl

/-- With another definition string that can be read, the same is read apart from it. -/
theorem read_resourceDocument_of_read {definition' : DefinitionString} {t t' : TemplateText}
    (h : TemplateText.read definition.toValue = .ok t)
    (h' : TemplateText.read definition'.toValue = .ok t') :
    MachineResource.read (resourceDocument definition' role tags name dependsOn) =
      (MachineResource.read (resourceDocument definition role tags name dependsOn)).map fun r =>
        { r with properties := { r.properties with definition := t' } } := by
  rw [resourceDocument, resourceDocument, read_resourceObject, read_resourceObject,
    MachineProperties.read_object, MachineProperties.read_object, h, h']
  generalize TemplateText.read role.value = role
  generalize listOf Tag.read (.list (tags.map Tag.toValue)) = tags
  generalize optionalText name = name
  generalize listOf text (.list dependsOn) = dependsOn
  cases role <;> cases tags <;> cases name <;> cases dependsOn <;> rfl

end Machine

end FlowTemplate
