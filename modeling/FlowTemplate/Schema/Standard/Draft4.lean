import FlowTemplate.Schema.Standard.Terms
/-!
# The schema of schemas, draft 4
-/

namespace FlowTemplate.Schema.Standard.Draft4

def size : Value := ref "#/definitions/positiveInteger"

def leastSize : Value := ref "#/definitions/positiveIntegerDefault0"

def nonemptyNames : Value :=
  .object [
    ("type", .str "array"), ("items", text), ("minItems", .int 1), ("uniqueItems", .bool true)]

def definitions : List (String × Value) := [
  ("schemaArray", listOf (ref "#")),
  ("positiveInteger", count),
  ("positiveIntegerDefault0", allOf [size, .single "default" (.int 0)]),
  ("simpleTypes", kindNames),
  ("stringArray", nonemptyNames)]

def truthOrSchema : Value := anyOf [truth, ref "#"]

def properties : List (String × Value) := [
  ("id", text),
  ("$schema", text),
  ("title", text),
  ("description", text),
  ("default", .map []),
  ("multipleOf", positiveFlagged),
  ("maximum", number),
  ("exclusiveMaximum", truth),
  ("minimum", number),
  ("exclusiveMinimum", truth),
  ("maxLength", size),
  ("minLength", leastSize),
  ("pattern", format "regex"),
  ("additionalItems", truthOrSchema),
  ("items", anyOf [ref "#", ref "#/definitions/schemaArray"]),
  ("maxItems", size),
  ("minItems", leastSize),
  ("uniqueItems", truth),
  ("maxProperties", size),
  ("minProperties", leastSize),
  ("required", ref "#/definitions/stringArray"),
  ("additionalProperties", truthOrSchema),
  ("definitions", mappingTo (ref "#")),
  ("properties", mappingTo (ref "#")),
  ("patternProperties", mappingTo (ref "#")),
  ("dependencies", mappingTo (anyOf [ref "#", ref "#/definitions/stringArray"])),
  ("enum", ofKind "array"),
  ("type", kinds (ref "#/definitions/simpleTypes")),
  ("format", text),
  ("allOf", ref "#/definitions/schemaArray"),
  ("anyOf", ref "#/definitions/schemaArray"),
  ("oneOf", ref "#/definitions/schemaArray"),
  ("not", ref "#")]

def document : Value := .object [
  ("id", .str "http://json-schema.org/draft-04/schema#"),
  ("$schema", .str "http://json-schema.org/draft-04/schema#"),
  ("definitions", .object definitions),
  ("type", .str "object"),
  ("properties", .object properties),
  ("dependencies", .object [
    ("exclusiveMaximum", .strings ["maximum"]), ("exclusiveMinimum", .strings ["minimum"])]),
  ("default", .map [])]

end FlowTemplate.Schema.Standard.Draft4
