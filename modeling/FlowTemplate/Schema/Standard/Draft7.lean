import FlowTemplate.Schema.Standard.Terms
/-!
# The schemas of schemas, drafts 6 and 7
-/

namespace FlowTemplate.Schema.Standard.Draft7

def size : Value := ref "#/definitions/nonNegativeInteger"

def leastSize : Value := ref "#/definitions/nonNegativeIntegerDefault0"

def definitions : List (String × Value) := [
  ("schemaArray", listOf (ref "#")),
  ("nonNegativeInteger", count),
  ("nonNegativeIntegerDefault0", allOf [size, .single "default" (.int 0)]),
  ("simpleTypes", kindNames),
  ("stringArray", names)]

/-- What both drafts have. -/
def shared : List (String × Value) := [
  ("$id", format "uri-reference"),
  ("$schema", format "uri"),
  ("$ref", format "uri-reference"),
  ("title", text),
  ("description", text),
  ("examples", ofKind "array"),
  ("multipleOf", positive),
  ("maximum", number),
  ("exclusiveMaximum", number),
  ("minimum", number),
  ("exclusiveMinimum", number),
  ("maxLength", size),
  ("minLength", leastSize),
  ("pattern", format "regex"),
  ("additionalItems", ref "#"),
  ("items", anyOf [ref "#", ref "#/definitions/schemaArray"]),
  ("maxItems", size),
  ("minItems", leastSize),
  ("uniqueItems", truth),
  ("contains", ref "#"),
  ("maxProperties", size),
  ("minProperties", leastSize),
  ("required", ref "#/definitions/stringArray"),
  ("additionalProperties", ref "#"),
  ("definitions", mappingTo (ref "#")),
  ("properties", mappingTo (ref "#")),
  ("patternProperties", mappingFromPatterns (ref "#")),
  ("dependencies", mappingTo (anyOf [ref "#", ref "#/definitions/stringArray"])),
  ("propertyNames", ref "#"),
  ("enum", ofKind "array"),
  ("type", kinds (ref "#/definitions/simpleTypes")),
  ("format", text),
  ("allOf", ref "#/definitions/schemaArray"),
  ("anyOf", ref "#/definitions/schemaArray"),
  ("oneOf", ref "#/definitions/schemaArray"),
  ("not", ref "#")]

/-- What the later draft has besides. -/
def added : List (String × Value) := [
  ("$comment", text),
  ("readOnly", truth),
  ("writeOnly", truth),
  ("contentMediaType", text),
  ("contentEncoding", text),
  ("if", ref "#"),
  ("then", ref "#"),
  ("else", ref "#")]

def documentAt (address : String) (properties : List (String × Value)) : Value := .object [
  ("$schema", .str address),
  ("$id", .str address),
  ("definitions", .object definitions),
  ("type", objectOrTruth),
  ("properties", .object properties)]

def draft6 : Value := documentAt "http://json-schema.org/draft-06/schema#" shared

def draft7 : Value := documentAt "http://json-schema.org/draft-07/schema#" (shared ++ added)

end FlowTemplate.Schema.Standard.Draft7
