import FlowTemplate.Document.Misfit
import FlowTemplate.Naming
import FlowTemplate.Tag
/-!
# Machine blocks

What a state machine declares beside its definition: the role it runs under, the resources it
depends on, and its tags. A machine without a role runs under the execution role of the service
and then depends on it.
-/

namespace FlowTemplate.Machine

/-- A role and the dependencies it brings. -/
structure Role where
  value : Value
  dependencies : List String

def executionRole : Role where
  value := .single "Fn::GetAtt" (.strings [Naming.executionRoleId, "Arn"])
  dependencies := [Naming.executionRoleId]

/-- The role of a machine. -/
def role (machine : Value) : Except Misfit Role :=
  (machine.fieldOrNull "role").map fun declared =>
    if declared.isEmpty then executionRole else { value := declared, dependencies := [] }

/-- The dependencies of a machine: those of its role, then those it declares, one or a list. -/
def dependsOn (machine : Value) (roleDependencies : List String) : Except Misfit (List Value) :=
  (machine.fieldOrNull "dependsOn").map fun declared =>
    roleDependencies.map Value.str ++
      if declared.isEmpty then []
      else match declared with
        | .list items => items
        | v => [v]

/-- The tags of the provider followed by those of the machine. A key in both stands twice, and the
later one counts. -/
def tags (providerTags machineTags : Value) : Except Misfit (List Tag) := do
  return (← Tag.ofValue providerTags) ++ (← Tag.ofValue machineTags)

end FlowTemplate.Machine
