import FlowTemplate.Proofs.Compile.Machine
import FlowTemplate.Proofs.Machine.Shape
import FlowTemplate.Proofs.Naming
import FlowTemplate.Proofs.Template.Resource
import Mathlib.Data.Set.List
/-!
# What a machine is put together from

The last step of a compilation asks the block for its role, tags, names and dependencies, and reads
the document made of them as a resource. What it yields is made of these parts, and it fails only if
one of them cannot be had: never for a block of the right shape. Only a container that holds itself
could be in the way, since the shape says nothing of the arguments of an intrinsic.
-/

namespace FlowTemplate.Machine

open FlowTemplate.Computation

/-- What the resource of a machine is made of beside its definition. -/
structure Parts where
  role : Role
  tags : List Tag
  name : Value
  dependsOn : List Value

/-- A block has some parts. -/
structure Parts.Of (context : Context) (machine : Value) (parts : Parts) : Prop where
  role : Machine.role machine = .ok parts.role
  bounded : parts.role.value.hasNumbers = false
  tags : (machine.fieldOrNull "tags" >>= Machine.tags context.providerTags) = .ok parts.tags
  name : machine.fieldOrNull "name" = .ok parts.name
  dependsOn : Machine.dependsOn machine parts.role.dependencies = .ok parts.dependsOn

variable {context : Context} {name : String} {machine : Value} {definition : DefinitionString}
  {compiled : CompiledMachine}

/-- A machine is put together from the parts of its block, under the ID that the block asks for. -/
structure Assembled (context : Context) (name : String) (machine : Value)
    (definition : DefinitionString) (compiled : CompiledMachine) (parts : Parts) : Prop where
  gathered : parts.Of context machine
  logicalId : Naming.stateMachineId name machine = .ok compiled.logicalId
  outputId : compiled.outputId = compiled.logicalId ++ "Arn"
  resource : MachineResource.read
    (resourceDocument definition parts.role parts.tags parts.name parts.dependsOn) =
      .ok compiled.resource
  output : compiled.output = ⟨MachineOutput.defaultDescription, [("Ref", compiled.logicalId)]⟩

theorem assembled_of_assemble (h : assemble context name machine definition = .ok compiled) :
    ∃ parts, Assembled context name machine definition compiled parts := by
  unfold assemble at h
  obtain ⟨role, hrole, h⟩ := bind_eq_ok h
  dsimp only at h
  split at h
  · cases h
  · rename_i hbounded
    obtain ⟨ownTags, hown, h⟩ := bind_eq_ok h
    obtain ⟨tags, htags, h⟩ := bind_eq_ok h
    obtain ⟨logicalId, hid, h⟩ := bind_eq_ok h
    obtain ⟨outputId, houtput, h⟩ := bind_eq_ok h
    obtain ⟨given, hgiven, h⟩ := bind_eq_ok h
    obtain ⟨dependsOn, hdependsOn, h⟩ := bind_eq_ok h
    obtain ⟨resource, hresource, h⟩ := bind_eq_ok h
    cases h
    have hid := mapError_eq_ok hid
    have houtput := mapError_eq_ok houtput
    rw [Naming.outputId, hid] at houtput
    refine ⟨⟨role, tags, given, dependsOn⟩, ?_, hid, (Except.ok.inj houtput).symm,
      mapError_eq_ok hresource, rfl⟩
    refine ⟨mapError_eq_ok hrole, Bool.eq_false_iff.mpr hbounded, ?_, mapError_eq_ok hgiven,
      mapError_eq_ok hdependsOn⟩
    rw [mapError_eq_ok hown]
    exact mapError_eq_ok htags

/-- A block with all parts is put together if they are read as a resource. -/
theorem assemble_eq_ok {parts : Parts} (hparts : parts.Of context machine) {logicalId : String}
    (hid : Naming.stateMachineId name machine = .ok logicalId) {resource : MachineResource}
    (hresource : MachineResource.read
      (resourceDocument definition parts.role parts.tags parts.name parts.dependsOn) =
        .ok resource) :
    assemble context name machine definition =
      .ok ⟨logicalId, resource, logicalId ++ "Arn",
        ⟨MachineOutput.defaultDescription, [("Ref", logicalId)]⟩⟩ := by
  obtain ⟨ownTags, hown, htags⟩ := bind_eq_ok hparts.tags
  rw [assemble, hparts.role]
  change (if parts.role.value.hasNumbers = true then _ else _) = _
  rw [hparts.bounded, if_neg (by decide), hown]
  change ((Machine.tags context.providerTags ownTags).mapError CompileError.misfit >>= _) = _
  rw [htags, Naming.outputId, hid, hparts.name, hparts.dependsOn]
  change ((MachineResource.read _).mapError CompileError.invalidEntry >>= _) = _
  rw [hresource]
  rfl

/-- A machine that compiles was put together from a definition string. -/
theorem assembled_of_compile {template : Value} {s s' : Session}
    (h : (compile context template name machine).run s = (.ok compiled, s')) :
    ∃ definition parts, Assembled context name machine definition compiled parts := by
  obtain ⟨_, _, result, -, -, -, hassemble⟩ := stages_of_compile h
  exact ⟨result, assembled_of_assemble hassemble⟩

/-- A machine that compiles is put under the logical ID that its block asks for. -/
theorem logicalId_of_compile {template : Value} {s s' : Session}
    (h : (compile context template name machine).run s = (.ok compiled, s')) :
    Naming.stateMachineId name machine = .ok compiled.logicalId := by
  obtain ⟨_, _, hassembled⟩ := assembled_of_compile h
  exact hassembled.logicalId

/-! ## Blocks of the right shape -/

/-- No container that holds itself stands in the parts of a block that texts are taken from. -/
def IsBounded (entries : Entries) : Prop :=
  ∀ key ∈ ["id", "name", "role", "dependsOn"], ∀ v, entries.find? key = some v →
    v.hasNumbers = false

theorem IsText.eq_str {v : Value} (h : IsText v) (hbounded : v.hasNumbers = false) :
    ∃ s, v = .str s := by
  obtain ⟨s, hs⟩ := Kind.holds_string.mp h
  rw [Value.bare_of_hasNumbers hbounded] at hs
  exact ⟨s, hs⟩

section

variable {entries : Entries}

/-- A name that a block may give is a text, or there is none. -/
theorem nullOrText (hshaped : WellShaped entries) (hbounded : IsBounded entries) (key : String)
    (hrule : (key, IsText) ∈ fieldRules) (hkey : key ∈ ["id", "name", "role", "dependsOn"]) :
    (entries.find? key).getD .null = .null ∨ ∃ s, (entries.find? key).getD .null = .str s := by
  cases hfind : entries.find? key with
  | none => exact .inl rfl
  | some v =>
    have htext : IsText v := hshaped.fields _ hrule v hfind
    exact .inr (htext.eq_str (hbounded key hkey v hfind))

theorem exists_customId (hentries : machine.entries? = some entries) (hshaped : WellShaped entries)
    (hbounded : IsBounded entries) :
    ∃ custom, Naming.customId machine = .ok custom ∧ (custom = .null ∨ ∃ s, custom = .str s) := by
  have hid := nullOrText hshaped hbounded "id" (by simp [fieldRules]) (by simp)
  have hname := nullOrText hshaped hbounded "name" (by simp [fieldRules]) (by simp)
  refine ⟨_, Naming.customId_eq hentries, ?_⟩
  split
  · exact hname
  · exact hid

/-- A block of the right shape has a logical ID. -/
theorem exists_stateMachineId (name : String) (hentries : machine.entries? = some entries)
    (hshaped : WellShaped entries) (hbounded : IsBounded entries) :
    ∃ logicalId, Naming.stateMachineId name machine = .ok logicalId := by
  obtain ⟨custom, hcustom, hform⟩ := exists_customId hentries hshaped hbounded
  by_cases hempty : custom.isEmpty = true
  · exact ⟨_, Naming.stateMachineId_of_isEmpty name hempty hcustom⟩
  · rcases hform with rfl | ⟨s, rfl⟩
    · exact absurd rfl hempty
    · have hne : s ≠ "" := mt (Naming.isEmpty_str_iff s).mpr hempty
      exact ⟨_, Naming.stateMachineId_of_text name hne hcustom⟩

/-- A block of the right shape has a role that can be written. -/
theorem exists_role (hentries : machine.entries? = some entries) (hshaped : WellShaped entries)
    (hbounded : IsBounded entries) : ∃ role, Machine.role machine = .ok role ∧
      role.value.hasNumbers = false ∧ ∃ t, TemplateText.read role.value = .ok t := by
  have hexecution : ∃ t, TemplateText.read executionRole.value = .ok t :=
    TemplateText.exists_read rfl fun k hk => ⟨_, List.mem_singleton.mp hk⟩
  rw [Machine.role, Value.fieldOrNull_eq hentries]
  cases hfind : entries.find? "role" with
  | none => exact ⟨executionRole, rfl, rfl, hexecution⟩
  | some declared =>
    refine ⟨if declared.isEmpty then executionRole else ⟨declared, []⟩, rfl, ?_⟩
    by_cases hempty : declared.isEmpty = true
    · rw [if_pos hempty]
      exact ⟨rfl, hexecution⟩
    · rw [if_neg hempty]
      have hnumbers := hbounded "role" (by simp) declared hfind
      have haddress : IsAddress declared :=
        hshaped.fields ("role", IsAddress) (by simp [fieldRules]) declared hfind
      refine ⟨hnumbers, ?_⟩
      rcases haddress with htext | ⟨key, arguments, harguments, hkeys⟩
      · obtain ⟨s, rfl⟩ := htext.eq_str hnumbers
        exact ⟨.text s, rfl⟩
      · exact TemplateText.exists_read harguments fun k hk => ⟨key, hkeys k hk⟩

theorem exists_texts {values : List Value} (h : ∀ v ∈ values, ∃ s, v = .str s) :
    ∃ texts : List String, values = texts.map .str := by
  have hrange : values ∈ Set.range (List.map Value.str) := by
    rw [Set.range_list_map]
    intro v hv
    obtain ⟨s, rfl⟩ := h v hv
    exact ⟨s, rfl⟩
  obtain ⟨texts, htexts⟩ := hrange
  exact ⟨texts, htexts.symm⟩

/-- The dependencies of a block of the right shape are texts. -/
theorem exists_dependsOn (dependencies : List String) (hentries : machine.entries? = some entries)
    (hshaped : WellShaped entries) (hbounded : IsBounded entries) :
    ∃ texts : List String, dependsOn machine dependencies = .ok (texts.map .str) := by
  have hdeclared : ∀ declared, entries.find? "dependsOn" = some declared →
      (∃ s, declared = .str s) ∨ ∃ texts : List String, declared = .list (texts.map .str) := by
    intro declared hfind
    have hnumbers := hbounded "dependsOn" (by simp) declared hfind
    have hform : IsTextOrTexts declared :=
      hshaped.fields ("dependsOn", IsTextOrTexts) (by simp [fieldRules]) declared hfind
    rcases hform with htext | ⟨items, hitems, htexts⟩
    · exact .inl (htext.eq_str hnumbers)
    · rw [Schema.items?, Value.bare_of_hasNumbers hnumbers] at hitems
      cases declared with
      | list items' =>
        cases hitems
        have hparts := (Value.itemsHaveNumbers_eq_false_iff items).mp hnumbers
        obtain ⟨texts, rfl⟩ := exists_texts fun v hv => (htexts v hv).eq_str (hparts v hv)
        exact .inr ⟨texts, rfl⟩
      | _ => cases hitems
  rw [dependsOn, Value.fieldOrNull_eq hentries]
  cases hfind : entries.find? "dependsOn" with
  | none => exact ⟨dependencies, congrArg Except.ok (List.append_nil _)⟩
  | some declared =>
    by_cases hempty : declared.isEmpty = true
    · refine ⟨dependencies, congrArg Except.ok ?_⟩
      change _ ++ (if declared.isEmpty = true then _ else _) = _
      rw [if_pos hempty, List.append_nil]
    · rcases hdeclared declared hfind with ⟨s, rfl⟩ | ⟨texts, rfl⟩
      · refine ⟨dependencies ++ [s], congrArg Except.ok ?_⟩
        rw [List.map_append]
        exact congrArg _ (if_neg hempty)
      · refine ⟨dependencies ++ texts, congrArg Except.ok ?_⟩
        rw [List.map_append]
        exact congrArg _ (if_neg hempty)

/-- The value is a mapping of tags, or it is empty and there are none. -/
def HasTags (v : Value) : Prop := v.isEmpty = true ∨ IsMapping v

theorem exists_ofValue {v : Value} (h : HasTags v) : ∃ tags, Tag.ofValue v = .ok tags := by
  rw [Tag.ofValue]
  split
  · exact ⟨[], rfl⟩
  · rename_i hnotEmpty
    obtain ⟨entries, hentries⟩ := h.resolve_left hnotEmpty
    rw [Value.entries_eq hentries]
    exact ⟨_, rfl⟩

theorem exists_tags (hentries : machine.entries? = some entries) (hshaped : WellShaped entries)
    (hprovider : HasTags context.providerTags) :
    ∃ tags, (machine.fieldOrNull "tags" >>= Machine.tags context.providerTags) = .ok tags := by
  have hown : HasTags ((entries.find? "tags").getD .null) := by
    cases hfind : entries.find? "tags" with
    | none => exact .inl rfl
    | some v => exact .inr (hshaped.fields ("tags", IsMapping) (by simp [fieldRules]) v hfind)
  obtain ⟨provided, hprovided⟩ := exists_ofValue hprovider
  obtain ⟨own, hown⟩ := exists_ofValue hown
  refine ⟨provided ++ own, ?_⟩
  rw [Value.fieldOrNull_eq hentries]
  change Machine.tags context.providerTags _ = _
  rw [Machine.tags, hprovided, hown]
  rfl

/-- A block of the right shape is put together with any definition string. -/
theorem exists_assemble (name : String) (definition : DefinitionString)
    (hprovider : HasTags context.providerTags) (hentries : machine.entries? = some entries)
    (hshaped : WellShaped entries) (hbounded : IsBounded entries) :
    ∃ compiled, assemble context name machine definition = .ok compiled := by
  obtain ⟨logicalId, hid⟩ := exists_stateMachineId name hentries hshaped hbounded
  obtain ⟨role, hrole, hnumbers, roleText, hroleText⟩ := exists_role hentries hshaped hbounded
  obtain ⟨dependsOn, hdependsOn⟩ :=
    exists_dependsOn role.dependencies hentries hshaped hbounded
  obtain ⟨tags, htags⟩ := exists_tags hentries hshaped hprovider
  obtain ⟨definitionText, hdefinition⟩ := TemplateText.exists_read_toValue definition
  have hname : ∃ given, Record.optionalText ((entries.find? "name").getD .null) = .ok given := by
    rcases nullOrText hshaped hbounded "name" (by simp [fieldRules]) (by simp)
      with h | ⟨s, h⟩ <;> rw [h]
    · exact ⟨none, rfl⟩
    · exact ⟨some s, rfl⟩
  obtain ⟨given, hgiven⟩ := hname
  have htext : ∀ s, Record.text (.str s) = .ok s := fun s => rfl
  have htexts : Record.listOf Record.text (.list (dependsOn.map .str)) = .ok dependsOn :=
    Record.listOf_map htext dependsOn
  have hresource : MachineResource.read (resourceDocument definition role tags
      ((entries.find? "name").getD .null) (dependsOn.map .str)) =
        .ok ⟨⟨definitionText, roleText, tags, given⟩, dependsOn⟩ :=
    read_resourceDocument_eq_ok.mpr ⟨⟨hdefinition, hroleText,
      Record.listOf_map Tag.read_toValue tags, hgiven⟩, htexts⟩
  have hparts : Parts.Of context machine
      ⟨role, tags, (entries.find? "name").getD .null, dependsOn.map .str⟩ :=
    ⟨hrole, hnumbers, htags, Value.fieldOrNull_eq hentries "name", hdependsOn⟩
  exact ⟨_, assemble_eq_ok hparts hid hresource⟩

end

end FlowTemplate.Machine
