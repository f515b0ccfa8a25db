import FlowTemplate.Record.Plain
/-!
# Service documents

What a service declares: its tags, its functions, its state machines, and whether definitions are
linted. Everything is optional, anything else in the document is left alone, and a section with
nothing under it counts as empty.
-/

namespace FlowTemplate

open Record

structure Service where
  name : Value
  /-- Tags that every state machine gets. -/
  tags : List (String × Value)
  functions : List (String × Value)
  machines : List (String × Value)
  /-- Whether definitions are linted, if the service says so. -/
  lints : Option Bool

namespace Service

/-- A mapping with text keys, or null for an empty one. -/
def readSection : Value → Checked (List (String × Value))
  | .atom .null => .ok []
  | v => mapping v

/-- A truth value, or null for none. -/
def readSwitch : Value → Checked (Option Bool)
  | .atom .null => .ok none
  | v => (truth v).map some

/-- What is read from a part of a document, null standing for an empty one. -/
def readPart {α : Type} (read : Entries → Checked α) : Value → Checked α
  | .atom .null => read []
  | v => do read (← fieldsOf v)

/-- The tags of a provider. -/
def readProvider (entries : Entries) : Checked (List (String × Value)) :=
  Field.read ⟨"tags", "tags"⟩ entries (some []) readSection

/-- The state machines, and whether they are linted. -/
def readFlows (entries : Entries) : Checked (List (String × Value) × Option Bool) :=
  let machines :=
    Field.read ⟨"state_machines", "stateMachines"⟩ entries (some []) readSection
  let lints := Field.read ⟨"validate_definitions", "validate"⟩ entries (some none) readSwitch
  machines.and lints

/-- A service document. -/
def read (v : Value) : Checked Service := do
  let entries ← fieldsOf v
  let name := Field.read ⟨"service", "service"⟩ entries (some .null) Except.ok
  let tags := Field.read ⟨"provider", "provider"⟩ entries (some []) (readPart readProvider)
  let functions := Field.read ⟨"functions", "functions"⟩ entries (some []) readSection
  let flows :=
    Field.read ⟨"step_functions", "stepFunctions"⟩ entries (some ([], none)) (readPart readFlows)
  let (((name, tags), functions), (machines, lints)) ←
    ((name.and tags).and functions).and flows
  return { name, tags, functions, machines, lints }

end Service

end FlowTemplate
