import FlowTemplate.Document.Literal
/-!
# Findings

What a linter has to say about a place in a definition.
-/

namespace FlowTemplate.Lint

/-- What is wrong. -/
inductive Complaint where
  | notJson (message : String)
  /-- A line of the report of a schema. -/
  | shape (message : String)
  | unknownStart (target : String)
  | unknownTarget (state target : String)
  | terminalTransition (type state : String)
  | nextAndEnd (state : String)
  | noTransition (state : String)
  deriving DecidableEq

namespace Complaint

def code : Complaint → String
  | .notJson _ => "INVALID_JSON"
  | .shape _ => "SCHEMA_VALIDATION_FAILED"
  | .unknownStart _ | .unknownTarget _ _ => "MISSING_TRANSITION_TARGET"
  | .terminalTransition _ _ => "TERMINAL_STATE_TRANSITION"
  | .nextAndEnd _ => "CONFLICTING_TRANSITION"
  | .noTransition _ => "MISSING_TRANSITION"

def message : Complaint → String
  | .notJson message => "Definition is not valid JSON: " ++ message
  | .shape message => message
  | .unknownStart target => s!"StartAt '{target}' does not name a state"
  | .unknownTarget state target => s!"State '{state}' transitions to unknown state '{target}'"
  | .terminalTransition type state => s!"{type} state '{state}' cannot declare Next or End"
  | .nextAndEnd state => s!"State '{state}' declares both Next and End"
  | .noTransition state => s!"State '{state}' must declare Next or End"

end Complaint

/-- A complaint and the path of the place it is about. -/
structure Finding where
  complaint : Complaint
  path : String
  deriving DecidableEq

namespace Finding

def code (f : Finding) : String := f.complaint.code

def message (f : Finding) : String := f.complaint.message

/-- The finding as an entry of a report. -/
def toValue (f : Finding) : Value :=
  .object [("Error code", .str f.code), ("Message", .str f.message), ("Path", .str f.path)]

end Finding

end FlowTemplate.Lint
