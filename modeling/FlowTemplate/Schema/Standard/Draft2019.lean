import FlowTemplate.Schema.Standard.Vocabulary
/-!
# The schema of schemas, draft 2019-09
-/

namespace FlowTemplate.Schema.Standard.Draft2019

def address (name : String) : String := "https://json-schema.org/draft/2019-09/" ++ name

def dialect : List (String × Value) :=
  [("$schema", .str (address "schema")), ("$recursiveAnchor", .bool true)]

/-- Addresses without names behind them. -/
def plainAddress : Value := .object [
  ("type", .str "string"), ("format", .str "uri-reference"), ("pattern", .str "^[^#]*#?$")]

def core : List (String × Value) := [
  ("$id", plainAddress),
  ("$schema", format "uri"),
  ("$anchor", matching "^[A-Za-z][-A-Za-z0-9.:_]*$"),
  ("$ref", format "uri-reference"),
  ("$recursiveRef", format "uri-reference"),
  ("$recursiveAnchor", truth),
  ("$vocabulary", vocabularies (format "uri")),
  ("$comment", text),
  ("$defs", mappingTo recursive)]

/-- Keywords for items, which take one schema or a list. -/
def items : List (String × Value) := [
  ("additionalItems", recursive),
  ("items", anyOf [recursive, ref "#/$defs/schemaArray"])]

def document : Value := .object [
  ("$schema", .str (address "schema")),
  ("$id", .str (address "schema")),
  ("$recursiveAnchor", .bool true),
  ("allOf", .list (["core", "applicator", "validation", "meta-data", "format", "content"].map
    fun name => ref ("meta/" ++ name))),
  ("type", objectOrTruth),
  ("properties", .object (earlier recursive))]

/-- The schemas of the vocabularies. -/
def parts : List Value := [
  vocabulary dialect (address "meta/core") core [],
  vocabulary dialect (address "meta/applicator")
    (items ++ unevaluated recursive ++ applicator recursive) (applicatorTerms recursive),
  vocabulary dialect (address "meta/validation") validation validationTerms,
  vocabulary dialect (address "meta/meta-data") metadata [],
  vocabulary dialect (address "meta/format") [("format", text)] [],
  vocabulary dialect (address "meta/content") (content recursive) []]

end FlowTemplate.Schema.Standard.Draft2019
