import FlowTemplate.Json.Printer
import FlowTemplate.Placeholder.Source
import FlowTemplate.Record.Issue
import FlowTemplate.Reference
/-!
# Why a compilation fails

Every failure that an author can mend names the state machine it is about. Misfits are failures of
data that was never checked.
-/

namespace FlowTemplate

inductive CompileError where
  /-- The block does not have the shape of a machine block. -/
  | malformed (machine : String) (report : List String)
  /-- The linter rejects the definition. -/
  | invalidDefinition (machine : String) (details : List Value)
  /-- The source of placeholder names ran out. -/
  | exhausted (machine : String) (cause : TokenFailure)
  /-- A reference has no version to be pinned to. -/
  | unresolvedVersion (machine : String) (cause : Reference.PinFailure)
  /-- The template entry that was put together breaks the rules for such entries. -/
  | invalidEntry (issues : List Issue)
  | misfit (m : Misfit)

namespace CompileError

def message : CompileError → String
  | .malformed machine report =>
    s!"State machine [{machine}] is malformed. Please check the README for more info. "
      ++ "; ".intercalate report
  | .invalidDefinition machine details =>
    s!"✕ State machine \"{machine}\" definition is invalid:\n"
      ++ String.ofList (Json.render Json.oneAsciiLine 0 (.list details))
  | .exhausted machine cause =>
    s!"State machine [{machine}] cannot be compiled: {cause.message}"
  | .unresolvedVersion machine cause =>
    s!"State machine [{machine}] cannot use exact versions: {cause.message}"
  | .invalidEntry issues => "; ".intercalate (issues.map Issue.message)
  | .misfit m => m.message

/-- The state machine an error is about. -/
def machine? : CompileError → Option String
  | .malformed machine _ | .invalidDefinition machine _ | .exhausted machine _
  | .unresolvedVersion machine _ => some machine
  | .invalidEntry _ | .misfit _ => none

end CompileError

end FlowTemplate
