import FlowTemplate.Schema.Check
/-!
# The shape of a machine block

What a block may hold beside its definition, as a schema. Names that are not listed are refused, so
that a misspelt one is noticed before anything is compiled.
-/

namespace FlowTemplate.Machine

/-- A mapping with exactly one key. -/
def loneKey (key : String) (schema : Schema) : Schema :=
  .all [.type [.object], .properties [(key, schema)], .required [key], .additional [key] .never]

/-- Texts that start with `arn:`. -/
def arnPattern : Pattern := .seq (.anchor (.start false)) (.text "arn:")

def letterOrDigit : Pattern.CharSet := .ofRanges [('A', 'Z'), ('a', 'z'), ('0', '9')]

/-- Texts of letters and digits. -/
def idPattern : Pattern :=
  .seq (.anchor (.start false)) (.seq (.plus (.one letterOrDigit)) (.anchor (.stop false)))

/-- Texts with a dot after at least one character and with at least one character behind it. -/
def dottedPattern : Pattern :=
  .seq (.anchor (.start false)) (.seq (.plus (.one (.allBut '.')))
    (.seq (.literal '.') (.seq (.plus (.one (.allBut '\n'))) (.anchor (.stop false)))))

/-- A text of the form of an address. -/
def arnText : Schema := .all [.type [.string], .pattern "^arn:" arnPattern]

/-- A target and an attribute, as two texts or as one with a dot. -/
def attributeArgument : Schema :=
  .either [
    .all [.type [.array], .items 0 (.ofKind .string), .minItems 2, .maxItems 2],
    .all [.type [.string], .pattern "^[^.]+\\..+$" dottedPattern]]

/-- An address: as a text, or as an intrinsic that yields one. -/
def address : Schema :=
  .either [
    arnText,
    loneKey "Ref" (.ofKind .string),
    loneKey "Fn::GetAtt" attributeArgument,
    loneKey "Fn::Join" (.all [.type [.array], .minItems 2, .maxItems 2]),
    loneKey "Fn::Sub" (.either [.ofKind .string, .ofKind .array]),
    loneKey "Fn::ImportValue" (.all [])]

/-- The names a block may hold. -/
def fieldNames : List String :=
  ["id", "name", "definition", "role", "useExactVersion", "dependsOn", "tags", "events", "alarms",
    "notifications"]

/-- What may stand under each name. -/
def fields : List (String × Schema) := [
  ("id", .all [.type [.string], .pattern "^[A-Za-z0-9]+$" idPattern]),
  ("name", .all [.type [.string], .minLength 1]),
  ("definition", .all [.type [.object, .string]]),
  ("role", address),
  ("useExactVersion", .ofKind .boolean),
  ("dependsOn", .either [.ofKind .string, .all [.type [.array], .items 0 (.ofKind .string)]]),
  ("tags", .all [.type [.object],
    .additional [] (.all [.type [.string, .number, .boolean]])]),
  ("events", .ofKind .array),
  ("alarms", .ofKind .object),
  ("notifications", .ofKind .object)]

/-- The schema of a machine block. -/
def shape : Schema :=
  .all [.type [.object], .properties fields, .required ["definition"],
    .additional fieldNames .never]

/-- What is wrong with the shape of a block, in the order of the paths. -/
def shapeReport (machine : Value) : List String := shape.report "$" machine

end FlowTemplate.Machine
