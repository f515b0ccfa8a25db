import FlowTemplate.Yaml.Meaning
import FlowTemplate.Yaml.NodeReader
/-!
# YAML documents

The value of a text with at most one document. A text without any is null.
-/

namespace FlowTemplate.Yaml

/-- The value of a text. -/
def load (text : String) : Except Fault Value := do
  match ← Node.ofTokens (TokenStream.ofString text).withinDepth with
  | none => return .null
  | some node => node.value

/-- The value of a text with numbers for all containers that may stand in several places. -/
def loadNumbered (text : String) : Except Fault Value := do
  match ← Node.ofTokens (TokenStream.ofString text).withinDepth with
  | none => return .null
  | some node => node.numberedValue

/-- What is wrong with a text of which only the start could be read. -/
def faultOfStart (text : String) : Fault :=
  match Node.ofTokens (TokenStream.ofStart text).withinDepth with
  | .error fault => fault
  | .ok _ => .unread

end FlowTemplate.Yaml
