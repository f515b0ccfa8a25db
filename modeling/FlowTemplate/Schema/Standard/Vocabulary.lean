import FlowTemplate.Schema.Standard.Terms
/-!
# Schemas of the keywords of the latest dialects

The latest dialects put their keywords into vocabularies, each with a schema of its own. Those of the
two dialects are alike but for the way in which they refer to the whole.
-/

namespace FlowTemplate.Schema.Standard

/-- The schema of a vocabulary. -/
def vocabulary (dialect : List (String × Value)) (address : String)
    (properties definitions : List (String × Value)) : Value :=
  .object (dialect.take 1 ++ [("$id", .str address)] ++ dialect.drop 1 ++ [
    ("type", objectOrTruth),
    ("properties", .object properties),
    ("$defs", .object definitions)])

def size : Value := ref "#/$defs/nonNegativeInteger"

def leastSize : Value := ref "#/$defs/nonNegativeIntegerDefault0"

/-- Keywords whose arguments have no schemas. -/
def validation : List (String × Value) := [
  ("type", kinds (ref "#/$defs/simpleTypes")),
  ("const", .bool true),
  ("enum", .object [("type", .str "array"), ("items", .bool true)]),
  ("multipleOf", positive),
  ("maximum", number),
  ("exclusiveMaximum", number),
  ("minimum", number),
  ("exclusiveMinimum", number),
  ("maxLength", size),
  ("minLength", leastSize),
  ("pattern", format "regex"),
  ("maxItems", size),
  ("minItems", leastSize),
  ("uniqueItems", truth),
  ("maxContains", size),
  ("minContains", size),
  ("maxProperties", size),
  ("minProperties", leastSize),
  ("required", ref "#/$defs/stringArray"),
  ("dependentRequired", mappingTo (ref "#/$defs/stringArray"))]

def validationTerms : List (String × Value) := [
  ("nonNegativeInteger", count),
  ("nonNegativeIntegerDefault0", size),
  ("simpleTypes", kindNames),
  ("stringArray", names)]

/-- Keywords whose arguments have schemas, in both dialects. -/
def applicator (schema : Value) : List (String × Value) := [
  ("contains", schema),
  ("additionalProperties", schema),
  ("properties", mappingTo schema),
  ("patternProperties", mappingFromPatterns schema),
  ("dependentSchemas", mappingTo schema),
  ("propertyNames", schema),
  ("if", schema),
  ("then", schema),
  ("else", schema),
  ("allOf", ref "#/$defs/schemaArray"),
  ("anyOf", ref "#/$defs/schemaArray"),
  ("oneOf", ref "#/$defs/schemaArray"),
  ("not", schema)]

def applicatorTerms (schema : Value) : List (String × Value) := [("schemaArray", listOf schema)]

def unevaluated (schema : Value) : List (String × Value) :=
  each ["unevaluatedItems", "unevaluatedProperties"] schema

/-- Keywords that describe. -/
def metadata : List (String × Value) :=
  each ["title", "description"] text ++ [("default", .bool true)]
    ++ each ["deprecated", "readOnly", "writeOnly"] truth
    ++ [("examples", .object [("type", .str "array"), ("items", .bool true)])]

def content (schema : Value) : List (String × Value) :=
  each ["contentEncoding", "contentMediaType"] text ++ [("contentSchema", schema)]

/-- Names of addresses mapped to truth values. -/
def vocabularies (name : Value) : Value :=
  .object [
    ("type", .str "object"), ("propertyNames", name), ("additionalProperties", truth)]

/-- Keywords of earlier dialects that are still checked. -/
def earlier (schema : Value) : List (String × Value) := [
  ("definitions", mappingTo schema),
  ("dependencies", mappingTo (anyOf [schema, ref "meta/validation#/$defs/stringArray"]))]

end FlowTemplate.Schema.Standard
