import FlowTemplate.Document.Misfit
import FlowTemplate.Document.Literal
/-!
# Tags

A mapping of tags becomes a list of key and value pairs. Values are written the way their author
wrote them: `true`, not `True`; nothing for null; a whole number without a point.
-/

namespace FlowTemplate

structure Tag where
  key : String
  value : String
  deriving DecidableEq

namespace Tag

/-- The text of a tag value. -/
def valueText : Value → String
  | .atom (.bool b) => if b then "true" else "false"
  | .atom .null => ""
  | .atom (.float x) => match x.toInt? with
    | some i => toString i
    | none => x.text Literal.floatLayout
  | v => v.display

/-- The tags of a mapping, in its order. An empty value of any kind has no tags. -/
def ofValue (v : Value) : Except Misfit (List Tag) :=
  if v.isEmpty then .ok []
  else v.entries.map fun entries =>
    entries.map fun (k, value) => ⟨Literal.displayAtom k, valueText value⟩

/-- The entry of a tag in a template. -/
def toValue (t : Tag) : Value := .object [("Key", .str t.key), ("Value", .str t.value)]

end Tag

end FlowTemplate
