import FlowTemplate.Proofs.Merge.Path
import FlowTemplate.Proofs.Template.Resource
/-!
# Editing template entries

A record that was read can be edited: a field is given a value, which is read as that field alone,
and so can be the fields of the records inside it. An edit whose value is refused changes nothing.
After any edits a record is written under the written names of its fields and under nothing else,
and what is written is read as the same record.

Reading puts every text of an intrinsic or of an output in one place. This is what every edit keeps,
and without it a record could not be read back.
-/

namespace FlowTemplate

open Record FlowTemplate.Computation

/-- A value for a field. -/
structure Assignment where
  field : String
  value : Value

namespace Record

/-- What can be done with records of one kind: they are read, edited and written. -/
structure Editor (α ε : Type) where
  read : Value → Checked α
  edit : α → ε → Checked α
  write : α → Value

namespace Editor

variable {α ε : Type}

/-- What an edit answers, and the record that is there afterwards. -/
def answer (editor : Editor α ε) (a : α) (e : ε) : Checked Unit × α :=
  match editor.edit a e with
  | .ok b => (.ok (), b)
  | .error issues => (.error issues, a)

/-- The record after edits, each made to what the ones before it have left. -/
def after (editor : Editor α ε) (a : α) (edits : List ε) : α :=
  edits.foldl (fun a e => (editor.answer a e).2) a

/-- A refused edit leaves the record as it was. -/
def IsGuarded (editor : Editor α ε) : Prop :=
  ∀ a e issues, (editor.answer a e).1 = .error issues → (editor.answer a e).2 = a

/-- Something holds of every record that is read, and no edit ends it. -/
structure Keeps (editor : Editor α ε) (sound : α → Prop) : Prop where
  read : ∀ v a, editor.read v = .ok a → sound a
  edit : ∀ a e b, editor.edit a e = .ok b → sound a → sound b

variable {editor : Editor α ε} {sound : α → Prop}

theorem isGuarded (editor : Editor α ε) : editor.IsGuarded := by
  intro a e issues h
  unfold answer at h ⊢
  split at h
  · cases h
  · rfl

theorem Keeps.answer (h : editor.Keeps sound) {a : α} (ha : sound a) (e : ε) :
    sound (editor.answer a e).2 := by
  unfold Editor.answer
  split
  · rename_i b hb
    exact h.edit a e b hb ha
  · exact ha

theorem Keeps.after (h : editor.Keeps sound) {v : Value} {a : α} (hread : editor.read v = .ok a)
    (edits : List ε) : sound (editor.after a edits) := by
  have ha : sound a := h.read v a hread
  clear hread
  induction edits generalizing a with
  | nil => exact ha
  | cons e rest ih => exact ih (h.answer ha e)

end Editor

end Record

/-- A mapping with these texts for keys, in this order. -/
def Value.HasKeys (v : Value) (names : List String) : Prop :=
  ∃ entries : Entries, v = .map entries ∧ entries.keys = names.map .str

namespace Tag

def editor : Editor Tag Assignment where
  read := read
  edit t a := t.assign a.field a.value
  write := toValue

def fields : List Field := [keyField, valueField]

theorem hasKeys_toValue (t : Tag) : t.toValue.HasKeys (fields.map (·.written)) := ⟨_, rfl, rfl⟩

end Tag

namespace TemplateText

/-- An intrinsic has every text once. -/
def IsKeyed : TemplateText → Prop
  | .text _ => True
  | .intrinsic entries => (entries.map Prod.fst).Nodup

theorem isKeyed_of_read {v : Value} {t : TemplateText} (h : TemplateText.read v = .ok t) :
    t.IsKeyed := by
  unfold TemplateText.read at h
  split at h
  · cases h
    trivial
  · split at h
    · rename_i entries hentries
      cases h
      exact nodup_mappingOf hentries
    · cases h

theorem read_toValue {t : TemplateText} (h : t.IsKeyed) : TemplateText.read t.toValue = .ok t := by
  cases t with
  | text s => rfl
  | intrinsic entries =>
    have hmapping : mapping (.object entries) = .ok entries := by
      have hread : mappingOf .ok (.object (entries.map id)) = .ok entries :=
        @mappingOf_object _ .ok id (fun _ => rfl) _ h
      rwa [List.map_id] at hread
    have htext : Record.text (.object entries) = refuse .text := rfl
    rw [toValue, TemplateText.read, htext, hmapping]
    rfl

end TemplateText

namespace MachineProperties

/-- An edit of the properties: of one of their fields, or of a field of the tag at a position. -/
inductive Edit where
  | field (a : Assignment)
  | tag (position : Nat) (a : Assignment)

/-- The properties after an edit. Where there is no tag there is nothing to edit. -/
def edit (p : MachineProperties) : Edit → Checked MachineProperties
  | .field a => p.assign a.field a.value
  | .tag position a => match p.tags[position]? with
    | some t => (t.assign a.field a.value).map fun t => { p with tags := p.tags.set position t }
    | none => .ok p

def editor : Editor MachineProperties Edit := ⟨read, edit, toValue⟩

/-- Both intrinsics have every text once. -/
def IsKeyed (p : MachineProperties) : Prop := p.definition.IsKeyed ∧ p.role.IsKeyed

/-- Everything that setting a field can do. -/
theorem assign_cases {p q : MachineProperties} {field : String} {v : Value}
    (h : p.assign field v = .ok q) :
    (∃ definition, TemplateText.read v = .ok definition ∧ q = { p with definition }) ∨
      (∃ role, TemplateText.read v = .ok role ∧ q = { p with role }) ∨
      (∃ tags, listOf Tag.read v = .ok tags ∧ q = { p with tags }) ∨
      ∃ name, optionalText v = .ok name ∧ q = { p with name } := by
  unfold assign at h
  split at h
  · exact .inl (Checked.map_under_eq_ok h)
  · exact .inr (.inl (Checked.map_under_eq_ok h))
  · exact .inr (.inr (.inl (Checked.map_under_eq_ok h)))
  · exact .inr (.inr (.inr (Checked.map_under_eq_ok h)))
  · cases h

theorem isKeyed_edit {p q : MachineProperties} {e : Edit} (h : p.edit e = .ok q)
    (hp : p.IsKeyed) : q.IsKeyed := by
  cases e with
  | field a =>
    rcases assign_cases h with ⟨d, hd, rfl⟩ | ⟨r, hr, rfl⟩ | ⟨t, -, rfl⟩ | ⟨n, -, rfl⟩
    · exact ⟨TemplateText.isKeyed_of_read hd, hp.2⟩
    · exact ⟨hp.1, TemplateText.isKeyed_of_read hr⟩
    · exact hp
    · exact hp
  | tag position a =>
    simp only [edit] at h
    split at h
    · rename_i t _
      cases ht : t.assign a.field a.value with
      | error e => rw [ht] at h; cases h
      | ok t' => rw [ht] at h; cases h; exact hp
    · cases h
      exact hp

theorem hasKeys_toValue (p : MachineProperties) :
    p.toValue.HasKeys (fields.map (·.written)) := ⟨_, rfl, rfl⟩

/-- Without a name the properties are read as with a null in its place. -/
theorem read_unnamed (definition role tags : Value) :
    read (.object [("DefinitionString", definition), ("RoleArn", role), ("Tags", tags)]) =
      read (.object [("DefinitionString", definition), ("RoleArn", role), ("Tags", tags),
        ("StateMachineName", .null)]) := by
  have hkeys : ∀ k ∈ [Atom.str "DefinitionString", .str "RoleArn", .str "Tags"],
      (Text.plain? (Literal.displayAtom k)).isSome = true := by decide +kernel
  have hread : read (.object [("DefinitionString", definition), ("RoleArn", role),
        ("Tags", tags)]) =
      (Checked.alone fields [(.str "DefinitionString", definition), (.str "RoleArn", role),
        (.str "Tags", tags)]
        (((((TemplateText.read definition).under "DefinitionString").and
          ((TemplateText.read role).under "RoleArn")).and ((listOf Tag.read tags).under "Tags")).and
          (.ok none)) >>= fun parts =>
        .ok { definition := parts.1.1.1, role := parts.1.1.2, tags := parts.1.2
              name := parts.2 }) := rfl
  have hname : ((optionalText .null).under "StateMachineName" : Checked (Option String)) =
      .ok none := rfl
  rw [hread, Checked.alone_eq hkeys, read_object, hname] <;> rfl

theorem read_toValue {p : MachineProperties} (h : p.IsKeyed) : read p.toValue = .ok p := by
  obtain ⟨definition, role, tags, name⟩ := p
  have hdefinition : TemplateText.read definition.toValue = .ok definition :=
    TemplateText.read_toValue h.1
  have hrole : TemplateText.read role.toValue = .ok role := TemplateText.read_toValue h.2
  have htags : listOf Tag.read (.list (tags.map Tag.toValue)) = .ok tags :=
    listOf_map Tag.read_toValue tags
  cases name <;> exact read_eq_ok.mpr ⟨hdefinition, hrole, htags, rfl⟩

theorem read_toTemplate {p : MachineProperties} (h : p.IsKeyed) : read p.toTemplate = .ok p := by
  have hvalue : read p.toTemplate = read p.toValue := by
    unfold toTemplate toValue
    cases p.name with
    | none => exact read_unnamed _ _ _
    | some name => rfl
  rw [hvalue, read_toValue h]

theorem keeps_isKeyed : editor.Keeps IsKeyed where
  read v p h := by
    obtain ⟨entries, -, h⟩ := bind_eq_ok h
    obtain ⟨⟨⟨⟨d, r⟩, t⟩, n⟩, hall, hp⟩ := bind_eq_ok h
    cases hp
    obtain ⟨hall, -⟩ := Checked.and_eq_ok.mp (Checked.of_alone hall)
    obtain ⟨hall, -⟩ := Checked.and_eq_ok.mp hall
    obtain ⟨hdefinition, hrole⟩ := Checked.and_eq_ok.mp hall
    obtain ⟨u, hu⟩ := Field.exists_of_read hdefinition
    obtain ⟨w, hw⟩ := Field.exists_of_read hrole
    exact ⟨TemplateText.isKeyed_of_read hu, TemplateText.isKeyed_of_read hw⟩
  edit p e q h hp := isKeyed_edit h hp

theorem at?_toValue_name (p : MachineProperties) :
    p.toValue.at? [.str "StateMachineName"] = some ((p.name.map .str).getD .null) := by
  obtain ⟨d, r, t, n⟩ := p
  cases n <;> rfl

theorem at?_toTemplate_name (p : MachineProperties) :
    p.toTemplate.at? [.str "StateMachineName"] = p.name.map .str := by
  obtain ⟨d, r, t, n⟩ := p
  cases n <;> rfl

theorem hasKeys_toTemplate (p : MachineProperties) :
    p.toTemplate.HasKeys ((fields.filter fun f =>
      f.written ≠ "StateMachineName" ∨ p.name ≠ none).map (·.written)) := by
  obtain ⟨d, r, t, n⟩ := p
  cases n <;> exact ⟨_, rfl, rfl⟩

end MachineProperties

namespace MachineResource

/-- An edit of a resource: of one of its fields, or of its properties. -/
inductive Edit where
  | field (a : Assignment)
  | properties (e : MachineProperties.Edit)

def edit (r : MachineResource) : Edit → Checked MachineResource
  | .field a => r.assign a.field a.value
  | .properties e => (r.properties.edit e).map fun properties => { r with properties }

def editor : Editor MachineResource Edit := ⟨read, edit, toTemplate⟩

/-- Everything that setting a field can do. -/
theorem assign_cases {r s : MachineResource} {field : String} {v : Value}
    (h : r.assign field v = .ok s) :
    s = r ∨ (∃ properties, MachineProperties.read v = .ok properties ∧ s = { r with properties }) ∨
      ∃ dependsOn, listOf text v = .ok dependsOn ∧ s = { r with dependsOn } := by
  unfold assign at h
  split at h
  · obtain ⟨-, -, rfl⟩ := Checked.map_under_eq_ok h
    exact .inl rfl
  · exact .inr (.inl (Checked.map_under_eq_ok h))
  · exact .inr (.inr (Checked.map_under_eq_ok h))
  · cases h

theorem read_object (properties dependsOn : Value) :
    read (.object [("Type", .str resourceType), ("Properties", properties),
        ("DependsOn", dependsOn)]) =
      (((Checked.and (.ok ()) ((MachineProperties.read properties).under "Properties")).and
          ((listOf text dependsOn).under "DependsOn")) >>= fun parts =>
        .ok { properties := parts.1.2, dependsOn := parts.2 }) := by
  have hkeys : ∀ k ∈ [Atom.str "Type", .str "Properties", .str "DependsOn"],
      (Text.plain? (Literal.displayAtom k)).isSome = true := by decide +kernel
  have hread : read (.object [("Type", .str resourceType), ("Properties", properties),
        ("DependsOn", dependsOn)]) =
      (Checked.alone fields [(.str "Type", .str resourceType), (.str "Properties", properties),
          (.str "DependsOn", dependsOn)]
        ((Checked.and (.ok ()) ((MachineProperties.read properties).under "Properties")).and
          ((listOf text dependsOn).under "DependsOn")) >>= fun parts =>
        .ok { properties := parts.1.2, dependsOn := parts.2 }) := rfl
  rw [hread, Checked.alone_eq hkeys] <;> rfl

theorem read_eq_ok {properties dependsOn : Value} {r : MachineResource} :
    read (.object [("Type", .str resourceType), ("Properties", properties),
        ("DependsOn", dependsOn)]) = .ok r ↔
      MachineProperties.read properties = .ok r.properties ∧
        listOf text dependsOn = .ok r.dependsOn := by
  rw [read_object]
  constructor
  · intro h
    obtain ⟨⟨⟨⟨⟩, p⟩, d⟩, hall, hr⟩ := bind_eq_ok h
    cases hr
    obtain ⟨hall, hdependsOn⟩ := Checked.and_eq_ok.mp hall
    obtain ⟨-, hproperties⟩ := Checked.and_eq_ok.mp hall
    exact ⟨Checked.under_eq_ok.mp hproperties, Checked.under_eq_ok.mp hdependsOn⟩
  · rintro ⟨hproperties, hdependsOn⟩
    rw [hproperties, hdependsOn]
    rfl

theorem keeps_isKeyed : editor.Keeps fun r => r.properties.IsKeyed where
  read v r h := by
    obtain ⟨entries, -, h⟩ := bind_eq_ok h
    obtain ⟨⟨⟨u, p⟩, d⟩, hall, hr⟩ := bind_eq_ok h
    cases hr
    obtain ⟨hall, -⟩ := Checked.and_eq_ok.mp (Checked.of_alone hall)
    obtain ⟨-, hproperties⟩ := Checked.and_eq_ok.mp hall
    obtain ⟨w, hw⟩ := Field.exists_of_read hproperties
    exact MachineProperties.keeps_isKeyed.read w p hw
  edit r e s h hr := by
    cases e with
    | field a =>
      rcases assign_cases h with rfl | ⟨p, hp, rfl⟩ | ⟨d, -, rfl⟩
      · exact hr
      · exact MachineProperties.keeps_isKeyed.read _ p hp
      · exact hr
    | properties e =>
      obtain ⟨p, hp, rfl⟩ := Checked.map_eq_ok h
      exact MachineProperties.keeps_isKeyed.edit _ e p hp hr

theorem read_toTemplate {r : MachineResource} (h : r.properties.IsKeyed) :
    read r.toTemplate = .ok r := by
  have hdependsOn : listOf text (.strings r.dependsOn) = .ok r.dependsOn :=
    @listOf_map _ text .str (fun _ => rfl) r.dependsOn
  exact read_eq_ok.mpr ⟨MachineProperties.read_toTemplate h, hdependsOn⟩

end MachineResource

namespace MachineOutput

def editor : Editor MachineOutput Assignment where
  read := read
  edit o a := o.assign a.field a.value
  write := toTemplate

def fields : List Field := [descriptionField, valueField]

/-- The value has every text once. -/
def IsKeyed (o : MachineOutput) : Prop := (o.value.map Prod.fst).Nodup

theorem keeps_isKeyed : editor.Keeps IsKeyed where
  read v o h := by
    obtain ⟨entries, -, h⟩ := bind_eq_ok h
    obtain ⟨⟨description, value⟩, hall, ho⟩ := bind_eq_ok h
    cases ho
    obtain ⟨-, hvalue⟩ := Checked.and_eq_ok.mp (Checked.of_alone hall)
    obtain ⟨w, hw⟩ := Field.exists_of_read hvalue
    exact nodup_mappingOf hw
  edit o a o' h ho := by
    have h : o.assign a.field a.value = .ok o' := h
    unfold assign at h
    split at h
    · obtain ⟨-, -, rfl⟩ := Checked.map_under_eq_ok h
      exact ho
    · obtain ⟨value, hvalue, rfl⟩ := Checked.map_under_eq_ok h
      exact nodup_mappingOf hvalue
    · cases h

theorem read_toTemplate {o : MachineOutput} (h : o.IsKeyed) : read o.toTemplate = .ok o := by
  have hkeys : ∀ k ∈ [Atom.str "Description", .str "Value"],
      (Text.plain? (Literal.displayAtom k)).isSome = true := by decide +kernel
  have hread : read o.toTemplate =
      (Checked.alone fields [(.str "Description", .str o.description),
          (.str "Value", .object (o.value.map fun pair => (pair.1, .str pair.2)))]
        (Checked.and (.ok o.description) ((mappingOf text
          (.object (o.value.map fun pair => (pair.1, .str pair.2)))).under "Value")) >>=
        fun parts => .ok { description := parts.1, value := parts.2 }) := rfl
  have hvalue := @mappingOf_object _ text .str (fun _ => rfl) _ h
  rw [hread, Checked.alone_eq hkeys, hvalue] <;> rfl

end MachineOutput

/-- After any edits every kind of record is written under the written names of its fields, and what
is written is read as the same record; an edit that is refused leaves the record as it was. The name
of a machine is written in its resource exactly if there is one. Properties on their own are written
with a null for a missing name. -/
theorem Record.Editor.reread_after_edits :
    (Tag.editor.IsGuarded ∧ ∀ v t edits, Tag.read v = .ok t →
      let t' := Tag.editor.after t edits
      t'.toValue.HasKeys (Tag.fields.map (·.written)) ∧ Tag.read t'.toValue = .ok t') ∧
    (MachineProperties.editor.IsGuarded ∧ ∀ v p edits, MachineProperties.read v = .ok p →
      let p' := MachineProperties.editor.after p edits
      p'.toValue.HasKeys (MachineProperties.fields.map (·.written)) ∧
        p'.toValue.at? [.str "Tags"] = some (.list (p'.tags.map Tag.toValue)) ∧
        p'.toValue.at? [.str "StateMachineName"] = some ((p'.name.map .str).getD .null) ∧
        MachineProperties.read p'.toValue = .ok p') ∧
    (MachineResource.editor.IsGuarded ∧ ∀ v r edits, MachineResource.read v = .ok r →
      let r' := MachineResource.editor.after r edits
      r'.toTemplate.HasKeys (MachineResource.fields.map (·.written)) ∧
        r'.toTemplate.at? [.str "Properties"] = some r'.properties.toTemplate ∧
        r'.properties.toTemplate.HasKeys ((MachineProperties.fields.filter fun f =>
          f.written ≠ "StateMachineName" ∨ r'.properties.name ≠ none).map (·.written)) ∧
        r'.toTemplate.at? [.str "Properties", .str "Tags"] =
          some (.list (r'.properties.tags.map Tag.toValue)) ∧
        r'.toTemplate.at? [.str "Properties", .str "StateMachineName"] =
          r'.properties.name.map .str ∧
        MachineResource.read r'.toTemplate = .ok r') ∧
    (MachineOutput.editor.IsGuarded ∧ ∀ v o edits, MachineOutput.read v = .ok o →
      let o' := MachineOutput.editor.after o edits
      o'.toTemplate.HasKeys (MachineOutput.fields.map (·.written)) ∧
        MachineOutput.read o'.toTemplate = .ok o') := by
  refine ⟨⟨Editor.isGuarded _, fun v t edits _ => ?_⟩, ⟨Editor.isGuarded _, fun v p edits hp => ?_⟩,
    ⟨Editor.isGuarded _, fun v r edits hr => ?_⟩, ⟨Editor.isGuarded _, fun v o edits ho => ?_⟩⟩
  · exact ⟨Tag.hasKeys_toValue _, Tag.read_toValue _⟩
  · have hkeyed := MachineProperties.keeps_isKeyed.after hp edits
    exact ⟨MachineProperties.hasKeys_toValue _, rfl, MachineProperties.at?_toValue_name _,
      MachineProperties.read_toValue hkeyed⟩
  · have hkeyed := MachineResource.keeps_isKeyed.after hr edits
    exact ⟨⟨_, rfl, rfl⟩, rfl, MachineProperties.hasKeys_toTemplate _, rfl,
      MachineProperties.at?_toTemplate_name _, MachineResource.read_toTemplate hkeyed⟩
  · have hkeyed := MachineOutput.keeps_isKeyed.after ho edits
    exact ⟨⟨_, rfl, rfl⟩, MachineOutput.read_toTemplate hkeyed⟩

/-- A machine loses its name and is refused another type. -/
theorem Record.Editor.reread_after_edits_unnamed :
    ∃ v r r', MachineResource.read v = .ok r ∧ r.properties.name = some "flow" ∧
      MachineResource.editor.after r [.properties (.field ⟨"state_machine_name", .null⟩),
        .field ⟨"type", .null⟩] = r' ∧
      r'.toTemplate.at? [.str "Properties", .str "StateMachineName"] = none ∧
      MachineResource.read r'.toTemplate = .ok r' := by
  obtain ⟨-, -, ⟨-, hresource⟩, -⟩ := reread_after_edits
  let r : MachineResource := ⟨⟨.text "A", .text "B", [], some "flow"⟩, []⟩
  have hread : MachineResource.read r.toTemplate = .ok r :=
    MachineResource.read_toTemplate ⟨trivial, trivial⟩
  obtain ⟨-, -, -, -, hname, hreread⟩ := hresource _ _
    [.properties (.field ⟨"state_machine_name", .null⟩), .field ⟨"type", .null⟩] hread
  exact ⟨_, r, _, hread, rfl, rfl, hname.trans rfl, hreread⟩

/-- Properties on their own are written with a name, null, where they have none. -/
theorem Record.Editor.missing_name_written :
    ¬ ∀ v p edits, MachineProperties.read v = .ok p →
      let p' := MachineProperties.editor.after p edits
      ((p'.toValue.at? [.str "StateMachineName"]).isSome ↔ p'.name ≠ none) := by
  intro h
  have hread : MachineProperties.read (.object [("DefinitionString", .str "A"),
      ("RoleArn", .str "B"), ("Tags", .list [])]) = .ok ⟨.text "A", .text "B", [], none⟩ :=
    @MachineProperties.read_toTemplate ⟨.text "A", .text "B", [], none⟩ ⟨trivial, trivial⟩
  exact (h _ _ [] hread).mp rfl rfl

end FlowTemplate
