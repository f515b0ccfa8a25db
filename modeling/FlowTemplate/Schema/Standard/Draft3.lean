import FlowTemplate.Schema.Standard.Terms
/-!
# The schema of schemas, draft 3
-/

namespace FlowTemplate.Schema.Standard.Draft3

def schemaOr (kind : String) : Value := .list [ref "#", .str kind]

/-- A name of a kind or a schema. -/
def kind : Value := .single "type" (.list [.str "string", ref "#"])

/-- One kind, or a list of them. -/
def kinds : Value :=
  .object [("type", .strings ["string", "array"]), ("items", kind), ("uniqueItems", .bool true)]

/-- A schema, or a list of them. -/
def schemas : Value := .object [("type", schemaOr "array"), ("items", ref "#")]

def schemaOrTruth : Value := .single "type" (schemaOr "boolean")

def dependencies : Value :=
  mappingTo (.object [("type", .list [.str "string", .str "array", ref "#"]), ("items", text)])

def properties : List (String × Value) := [
  ("type", kinds),
  ("properties", mappingTo (ref "#")),
  ("patternProperties", mappingTo (ref "#")),
  ("additionalProperties", schemaOrTruth),
  ("items", schemas),
  ("additionalItems", schemaOrTruth),
  ("required", truth),
  ("dependencies", dependencies),
  ("minimum", number),
  ("maximum", number),
  ("exclusiveMinimum", truth),
  ("exclusiveMaximum", truth),
  ("minItems", count),
  ("maxItems", count),
  ("uniqueItems", truth),
  ("pattern", format "regex"),
  ("minLength", count),
  ("maxLength", ofKind "integer"),
  ("enum", ofKind "array"),
  ("default", ofKind "any"),
  ("title", text),
  ("description", text),
  ("format", text),
  ("divisibleBy", positiveFlagged),
  ("disallow", kinds),
  ("extends", schemas),
  ("id", text),
  ("$ref", text),
  ("$schema", format "uri")]

def document : Value := .object [
  ("$schema", .str "http://json-schema.org/draft-03/schema#"),
  ("id", .str "http://json-schema.org/draft-03/schema#"),
  ("type", .str "object"),
  ("properties", .object properties),
  ("dependencies", .object [
    ("exclusiveMinimum", .str "minimum"), ("exclusiveMaximum", .str "maximum")]),
  ("default", .map [])]

end FlowTemplate.Schema.Standard.Draft3
