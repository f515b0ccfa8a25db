import FlowTemplate.Document.Value
import FlowTemplate.Reference
import FlowTemplate.Yaml.Node
/-!
# Short forms

A tag with an exclamation mark writes an intrinsic: `!Ref x` is a mapping with the one key `Ref`,
any other `!Name x` one with the key `Fn::Name`. The argument of `!GetAtt` may be a text, which is
split at its first dot. `Node.desugar` spells all short forms out.
-/

namespace FlowTemplate.Yaml

namespace ShortForm

/-- The key of the mapping that a short form writes. -/
def key (name : String) : String :=
  if name == "Ref" || name == "Condition" then name else "Fn::" ++ name

def attributeForm : String := "GetAtt"

/-- The argument of a short form that is written as a text. -/
def textArgument (name text : String) : Value :=
  if name == attributeForm then
    let (target, property) := Reference.splitDot text
    .strings [target, property]
  else .str text

/-- The mapping for a short form with an argument. -/
def wrap (name : String) (argument : Value) : Value := .single (key name) argument

end ShortForm

namespace Node

/-- A mapping with one text key. -/
def single (key : String) (node : Node) : Node := .mapping .map [(.scalar .str key, node)]

/-- A collection node under the short form of its tag, if it has one. -/
def wrapLong (tag : NodeTag) (untagged : Node) (otherwise : Node) : Node :=
  match tag with
  | .shortForm name => single (ShortForm.key name) untagged
  | _ => otherwise

mutual

/-- A node with all short forms written as mappings. -/
def desugar : Node → Node
  | .scalar (.shortForm name) text =>
    if name == ShortForm.attributeForm then
      let (target, property) := Reference.splitDot text
      single (ShortForm.key name)
        (.sequence .list [.scalar .str target, .scalar .str property])
    else single (ShortForm.key name) (.scalar .str text)
  | .scalar tag text => .scalar tag text
  | .sequence tag items =>
    let items := desugarItems items
    wrapLong tag (.sequence .list items) (.sequence tag items)
  | .mapping tag entries =>
    let entries := desugarEntries entries
    wrapLong tag (.mapping .map entries) (.mapping tag entries)
  | .anchored number node => .anchored number (desugar node)
  | .again number => .again number

def desugarItems : List Node → List Node
  | [] => []
  | node :: rest => desugar node :: desugarItems rest

def desugarEntries : List (Node × Node) → List (Node × Node)
  | [] => []
  | (k, v) :: rest => (desugar k, desugar v) :: desugarEntries rest

end

end Node

end FlowTemplate.Yaml
