import FlowTemplate.Record.Reader
import FlowTemplate.Tag
/-!
# Template entries

The resource and the output that a template gets for each state machine. They are read strictly:
every field must have its form and nothing else may be there. Fields are written by their aliases,
always in the same order.
-/

namespace FlowTemplate

open Record

namespace Tag

def keyField : Field := ⟨"key", "Key"⟩

def valueField : Field := ⟨"value", "Value"⟩

def read (v : Value) : Checked Tag := do
  let entries ← fieldsOf v
  let key := keyField.read entries none text
  let value := valueField.read entries none text
  let (key, value) ← (key.and value).alone [keyField, valueField] entries
  return ⟨key, value⟩

/-- The tag with one field replaced. -/
def assign (t : Tag) (name : String) (v : Value) : Checked Tag :=
  match name with
  | "key" => ((text v).under name).map fun key => { t with key }
  | "value" => ((text v).under name).map fun value => { t with value }
  | _ => .error [⟨[name], .unknownField⟩]

end Tag

/-- A text or an intrinsic that yields one. -/
inductive TemplateText where
  | text (s : String)
  | intrinsic (entries : List (String × Value))

namespace TemplateText

/-- A text, or else a mapping with text keys; of anything else both are told. -/
def read (v : Value) : Checked TemplateText :=
  match Record.text v with
  | .ok s => .ok (.text s)
  | .error e => match mapping v with
    | .ok entries => .ok (.intrinsic entries)
    | .error f => .error (e.map (·.under "str") ++ f.map (·.under "dict[str,any]"))

def toValue : TemplateText → Value
  | .text s => .str s
  | .intrinsic entries => .object entries

end TemplateText

/-- The properties of a state machine resource. -/
structure MachineProperties where
  definition : TemplateText
  role : TemplateText
  tags : List Tag
  name : Option String

namespace MachineProperties

def definitionField : Field := ⟨"definition_string", "DefinitionString"⟩

def roleField : Field := ⟨"role_arn", "RoleArn"⟩

def tagsField : Field := ⟨"tags", "Tags"⟩

def nameField : Field := ⟨"state_machine_name", "StateMachineName"⟩

def fields : List Field := [definitionField, roleField, tagsField, nameField]

def read (v : Value) : Checked MachineProperties := do
  let entries ← fieldsOf v
  let definition := definitionField.read entries none TemplateText.read
  let role := roleField.read entries none TemplateText.read
  let tags := tagsField.read entries (some []) (listOf Tag.read)
  let name := nameField.read entries (some none) optionalText
  let (((definition, role), tags), name) ←
    (((definition.and role).and tags).and name).alone fields entries
  return { definition, role, tags, name }

/-- The properties with one field replaced. -/
def assign (p : MachineProperties) (name : String) (v : Value) : Checked MachineProperties :=
  match name with
  | "definition_string" =>
    ((TemplateText.read v).under name).map fun definition => { p with definition }
  | "role_arn" => ((TemplateText.read v).under name).map fun role => { p with role }
  | "tags" => ((listOf Tag.read v).under name).map fun tags => { p with tags }
  | "state_machine_name" => ((optionalText v).under name).map fun given => { p with name := given }
  | _ => .error [⟨[name], .unknownField⟩]

/-- The fields that are always written. -/
def requiredFields (p : MachineProperties) : List (String × Value) :=
  [("DefinitionString", p.definition.toValue), ("RoleArn", p.role.toValue),
    ("Tags", .list (p.tags.map Tag.toValue))]

/-- All fields, a missing name as null. -/
def toValue (p : MachineProperties) : Value :=
  .object (p.requiredFields ++
    [("StateMachineName", match p.name with
      | some name => .str name
      | none => .null)])

/-- The fields as they stand in a template, where a missing name is left out. -/
def toTemplate (p : MachineProperties) : Value :=
  .object (p.requiredFields ++ match p.name with
    | some name => [("StateMachineName", .str name)]
    | none => [])

end MachineProperties

/-- The resource of a state machine. -/
structure MachineResource where
  properties : MachineProperties
  dependsOn : List String

namespace MachineResource

def resourceType : String := "AWS::StepFunctions::StateMachine"

def typeField : Field := ⟨"type", "Type"⟩

def propertiesField : Field := ⟨"properties", "Properties"⟩

def dependsOnField : Field := ⟨"depends_on", "DependsOn"⟩

def fields : List Field := [typeField, propertiesField, dependsOnField]

/-- The one type such a resource can have. -/
def readType (v : Value) : Checked Unit :=
  if v == .str resourceType then .ok ()
  else if v.str?.any fun s => (Text.plain? s).isNone then refuse .textEncoding
  else refuse .constant

def read (v : Value) : Checked MachineResource := do
  let entries ← fieldsOf v
  let type := typeField.read entries (some ()) readType
  let properties := propertiesField.read entries none MachineProperties.read
  let dependsOn := dependsOnField.read entries (some []) (listOf text)
  let ((_, properties), dependsOn) ← ((type.and properties).and dependsOn).alone fields entries
  return { properties, dependsOn }

/-- The resource with one field replaced. -/
def assign (r : MachineResource) (name : String) (v : Value) : Checked MachineResource :=
  match name with
  | "type" => ((readType v).under name).map fun _ => r
  | "properties" =>
    ((MachineProperties.read v).under name).map fun properties => { r with properties }
  | "depends_on" => ((listOf text v).under name).map fun dependsOn => { r with dependsOn }
  | _ => .error [⟨[name], .unknownField⟩]

def toTemplate (r : MachineResource) : Value :=
  .object [("Type", .str resourceType), ("Properties", r.properties.toTemplate),
    ("DependsOn", .strings r.dependsOn)]

end MachineResource

/-- The output that holds the address of a state machine. -/
structure MachineOutput where
  description : String
  value : List (String × String)

namespace MachineOutput

def defaultDescription : String := "Current StateMachine Arn"

def descriptionField : Field := ⟨"description", "Description"⟩

def valueField : Field := ⟨"value", "Value"⟩

def read (v : Value) : Checked MachineOutput := do
  let entries ← fieldsOf v
  let description := descriptionField.read entries (some defaultDescription) text
  let value := valueField.read entries none (mappingOf text)
  let (description, value) ←
    (description.and value).alone [descriptionField, valueField] entries
  return { description, value }

/-- The output with one field replaced. -/
def assign (o : MachineOutput) (name : String) (v : Value) : Checked MachineOutput :=
  match name with
  | "description" => ((text v).under name).map fun description => { o with description }
  | "value" => ((mappingOf text v).under name).map fun value => { o with value }
  | _ => .error [⟨[name], .unknownField⟩]

def toTemplate (o : MachineOutput) : Value :=
  .object [("Description", .str o.description),
    ("Value", .object (o.value.map fun (k, s) => (k, .str s)))]

end MachineOutput

end FlowTemplate
