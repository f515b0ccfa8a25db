import FlowTemplate.Compile.Session
import FlowTemplate.Definition
import FlowTemplate.Document.Sharing
import FlowTemplate.Lint.Graph
import FlowTemplate.Machine.Block
import FlowTemplate.Machine.Shape
import FlowTemplate.Template.Resource
/-!
# Compiling one state machine

A block is checked, its definition is linted if that is wanted, turned into a definition string and
pinned if the block asks for exact versions; then the resource and the output are put together.
-/

namespace FlowTemplate

/-- What a template gets for one state machine. -/
structure CompiledMachine where
  logicalId : String
  resource : MachineResource
  outputId : String
  output : MachineOutput

namespace CompiledMachine

def resources (m : CompiledMachine) : Value := .single m.logicalId m.resource.toTemplate

def outputs (m : CompiledMachine) : Value := .single m.outputId m.output.toTemplate

end CompiledMachine

namespace Machine

/-- The definition of a block. -/
def definition (machine : Value) : Except Misfit Value :=
  match machine.entries? with
  | some entries => match entries.find? "definition" with
    | some definition => .ok definition
    | none => .error .noSuchKey
  | none => .error .notIndexed

/-- Fails unless the block has the shape of a machine block. -/
def checkShape (name : String) (machine : Value) : Except CompileError Unit :=
  match shapeReport machine with
  | [] => .ok ()
  | report => .error (.malformed name report)

/-- Lints the definition of a block with a given linter, which answers entries of a report. -/
def lintWith (lint : Value → List Value) (name : String) (machine : Value) : Compile Unit := do
  let definition ← Compile.lift .misfit (definition machine)
  match lint definition with
  | [] => Compile.tell .info s!"✓ State machine \"{name}\" definition is valid"
  | details => throw (.invalidDefinition name details)

/-- Fails if the definition of a block is a text that exceeds what is read. -/
def checkReadable (machine : Value) : Except Misfit Unit := do
  match Lint.excess? (← definition machine) with
  | none => return ()
  | some .digits => throw .endlessText
  | some .depth => throw .endless

/-- Lints the definition of a block. -/
def lint (name : String) (machine : Value) : Compile Unit := do
  Compile.lift .misfit (checkReadable machine)
  lintWith (fun definition => (Lint.findings definition).map Lint.Finding.toValue) name machine

/-- The definition string of a block, its references resolved. A definition that holds itself has
none. -/
def definitionString (context : Context) (name : String) (machine : Value) :
    Compile DefinitionString := do
  let definition ← Compile.lift .misfit (definition machine)
  if definition.hasNumbers then throw (.misfit .endless)
  let built := DefinitionString.build context.style Session.nextToken context.resolve definition
  let built ← built.adapt fun
    | .generator cause => .exhausted name cause
    | .misfit m => .misfit m
  match built with
  | .plain _ => return built
  | .substitution _ parameters =>
    let names := (Value.list (parameters.keys.map .atom)).literal
    Compile.tell .debug
      s!"State machine \"{name}\" substitutes {parameters.length} intrinsic(s): {names}"
    return built

/-- Whether a block asks for exact versions. -/
def usesExactVersions (machine : Value) : Except Misfit Bool :=
  (machine.field "useExactVersion").map (· == some (.bool true))

/-- A definition string with its parameters pinned, if the block asks for it. -/
def pinned (context : Context) (template : Value) (name : String) (machine : Value)
    (definition : DefinitionString) : Except CompileError DefinitionString := do
  if ← (usesExactVersions machine).mapError .misfit then
    (definition.mapParameters (context.pin template)).mapError fun
      | .misfit m => .misfit m
      | cause => .unresolvedVersion name cause
  else return definition

/-- The entry for a machine, as a document that has yet to be read as a resource. -/
def resourceDocument (definition : DefinitionString) (role : Role) (tags : List Tag)
    (name : Value) (dependsOn : List Value) : Value :=
  .object [
    ("Properties", .object [
      ("DefinitionString", definition.toValue),
      ("RoleArn", role.value),
      ("Tags", .list (tags.map Tag.toValue)),
      ("StateMachineName", name)]),
    ("DependsOn", .list dependsOn)]

/-- The resource and the output of a machine. A role that holds itself cannot be written. -/
def assemble (context : Context) (name : String) (machine : Value)
    (definition : DefinitionString) : Except CompileError CompiledMachine := do
  let role ← (role machine).mapError .misfit
  if role.value.hasNumbers then throw (.misfit .endlessText)
  let ownTags ← (machine.fieldOrNull "tags").mapError .misfit
  let tags ← (tags context.providerTags ownTags).mapError .misfit
  let logicalId ← (Naming.stateMachineId name machine).mapError .misfit
  let outputId ← (Naming.outputId name machine).mapError .misfit
  let given ← (machine.fieldOrNull "name").mapError .misfit
  let dependsOn ← (dependsOn machine role.dependencies).mapError .misfit
  let resource ← (MachineResource.read
    (resourceDocument definition role tags given dependsOn)).mapError .invalidEntry
  let output := ⟨MachineOutput.defaultDescription, [("Ref", logicalId)]⟩
  return { logicalId, resource, outputId, output }

/-- Compiles one state machine against a template. -/
def compile (context : Context) (template : Value) (name : String) (machine : Value) :
    Compile CompiledMachine := do
  Compile.lift id (checkShape name machine)
  if context.lints then lint name machine
  let definition ← definitionString context name machine
  let definition ← Compile.lift id (pinned context template name machine definition)
  Compile.lift id (assemble context name machine definition)

end Machine

end FlowTemplate
