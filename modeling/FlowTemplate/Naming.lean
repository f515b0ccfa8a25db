import FlowTemplate.Document.Misfit
import FlowTemplate.Text.Casing
/-!
# Logical IDs

The names under which functions and state machines stand in a template. Dashes and underscores are
spelled out, since a logical ID has letters and digits only, and the first letter is upper case.
-/

namespace FlowTemplate.Naming

/-- The resource that runs state machines which declare no role. -/
def executionRoleId : String := "IamRoleStateMachineExecution"

def spelledChar : Char → List Char
  | '-' => ['D', 'a', 's', 'h']
  | '_' => ['U', 'n', 'd', 'e', 'r', 's', 'c', 'o', 'r', 'e']
  | c => [c]

/-- A name with its dashes and underscores spelled out. -/
def spellOut (name : String) : String := String.ofList (name.toList.flatMap spelledChar)

/-- A name in the form in which it takes part in logical IDs. -/
def normalize (name : String) : String := Text.capitalize (spellOut name)

/-- The logical ID of the resource made for a function. -/
def lambdaId (function : String) : String := normalize function ++ "LambdaFunction"

/-- The value a state machine asks to be named by: its `id`, failing that its `name`. Empty values
do not count. -/
def customId (machine : Value) : Except Misfit Value :=
  if machine.isEmpty then .ok .null
  else do
    let id ← machine.fieldOrNull "id"
    if id.isEmpty then machine.fieldOrNull "name" else return id

/-- The logical ID of a state machine that stands under `key`. -/
def stateMachineId (key : String) (machine : Value) : Except Misfit String := do
  let custom ← customId machine
  if custom.isEmpty then return normalize key ++ "StepFunctionsStateMachine"
  match custom with
  | .atom (.str name) => return normalize name
  | _ => throw .noEntries

/-- The logical ID of the output that holds the address of a state machine. -/
def outputId (key : String) (machine : Value) : Except Misfit String :=
  (stateMachineId key machine).map (· ++ "Arn")

end FlowTemplate.Naming
