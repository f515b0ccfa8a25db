import FlowTemplate.Document.Value
/-!
# Terms of schemas for schemas

Documents that the standard schemas are put together from.
-/

namespace FlowTemplate.Schema.Standard

/-- A mapping from some names to one and the same document. -/
def each (names : List String) (document : Value) : List (String × Value) :=
  names.map fun name => (name, document)

/-- Values of one kind. -/
def ofKind (kind : String) : Value := .single "type" (.str kind)

def text : Value := ofKind "string"

def number : Value := ofKind "number"

def truth : Value := ofKind "boolean"

def ref (target : String) : Value := .single "$ref" (.str target)

def recursive : Value := .single "$recursiveRef" (.str "#")

def late : Value := .single "$dynamicRef" (.str "#meta")

def anyOf (documents : List Value) : Value := .single "anyOf" (.list documents)

def allOf (documents : List Value) : Value := .single "allOf" (.list documents)

/-- Texts of a format. -/
def format (name : String) : Value := .object [("type", .str "string"), ("format", .str name)]

/-- Texts that match a pattern. -/
def matching (pattern : String) : Value :=
  .object [("type", .str "string"), ("pattern", .str pattern)]

/-- Lists of texts that differ. -/
def names : Value :=
  .object [("type", .str "array"), ("items", text), ("uniqueItems", .bool true)]

/-- Lists of schemas with at least one item. -/
def listOf (schema : Value) : Value :=
  .object [("type", .str "array"), ("minItems", .int 1), ("items", schema)]

/-- Mappings to schemas. -/
def mappingTo (schema : Value) : Value :=
  .object [("type", .str "object"), ("additionalProperties", schema)]

/-- Mappings from patterns to schemas. -/
def mappingFromPatterns (schema : Value) : Value :=
  .object [
    ("type", .str "object"),
    ("additionalProperties", schema),
    ("propertyNames", .single "format" (.str "regex"))]

/-- Integers that are not negative. -/
def count : Value := .object [("type", .str "integer"), ("minimum", .int 0)]

/-- Numbers greater than 0. -/
def positive : Value := .object [("type", .str "number"), ("exclusiveMinimum", .int 0)]

/-- Numbers greater than 0, in old dialects. -/
def positiveFlagged : Value :=
  .object [("type", .str "number"), ("minimum", .int 0), ("exclusiveMinimum", .bool true)]

/-- Mappings and truth values. -/
def objectOrTruth : Value := .strings ["object", "boolean"]

/-- The names of kinds. -/
def kindNames : Value :=
  .single "enum" (.strings ["array", "boolean", "integer", "null", "number", "object", "string"])

/-- The name of a kind, or several different ones. -/
def kinds (names : Value) : Value :=
  anyOf [
    names,
    .object [
      ("type", .str "array"), ("items", names), ("minItems", .int 1), ("uniqueItems", .bool true)]]

end FlowTemplate.Schema.Standard
