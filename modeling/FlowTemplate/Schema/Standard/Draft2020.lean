import FlowTemplate.Schema.Standard.Vocabulary
/-!
# The schema of schemas, draft 2020-12
-/

namespace FlowTemplate.Schema.Standard.Draft2020

def address (name : String) : String := "https://json-schema.org/draft/2020-12/" ++ name

def dialect : List (String × Value) :=
  [("$schema", .str (address "schema")), ("$dynamicAnchor", .str "meta")]

def name : Value := ref "#/$defs/anchorString"

def reference : Value := ref "#/$defs/uriReferenceString"

def core : List (String × Value) := [
  ("$id", .object [
    ("$ref", .str "#/$defs/uriReferenceString"), ("pattern", .str "^[^#]*#?$")]),
  ("$schema", ref "#/$defs/uriString"),
  ("$ref", reference),
  ("$anchor", name),
  ("$dynamicRef", reference),
  ("$dynamicAnchor", name),
  ("$vocabulary", vocabularies (ref "#/$defs/uriString")),
  ("$comment", text),
  ("$defs", mappingTo late)]

def coreTerms : List (String × Value) := [
  ("anchorString", matching "^[A-Za-z_][-A-Za-z0-9._]*$"),
  ("uriString", format "uri"),
  ("uriReferenceString", format "uri-reference")]

/-- Keywords for items: schemas for the first ones, and one for the others. -/
def items : List (String × Value) := [
  ("prefixItems", ref "#/$defs/schemaArray"),
  ("items", late)]

def recursion : List (String × Value) := [
  ("$recursiveAnchor", ref "meta/core#/$defs/anchorString"),
  ("$recursiveRef", ref "meta/core#/$defs/uriReferenceString")]

def vocabularyNames : List String :=
  ["core", "applicator", "unevaluated", "validation", "meta-data", "format-annotation", "content"]

def document : Value := .object [
  ("$schema", .str (address "schema")),
  ("$id", .str (address "schema")),
  ("$dynamicAnchor", .str "meta"),
  ("allOf", .list (vocabularyNames.map fun name => ref ("meta/" ++ name))),
  ("type", objectOrTruth),
  ("properties", .object (earlier late ++ recursion))]

/-- The schemas of the vocabularies. -/
def parts : List Value := [
  vocabulary dialect (address "meta/core") core coreTerms,
  vocabulary dialect (address "meta/applicator") (items ++ applicator late) (applicatorTerms late),
  vocabulary dialect (address "meta/unevaluated") (unevaluated late) [],
  vocabulary dialect (address "meta/validation") validation validationTerms,
  vocabulary dialect (address "meta/meta-data") metadata [],
  vocabulary dialect (address "meta/format-annotation") [("format", text)] [],
  vocabulary dialect (address "meta/content") (content late) []]

end FlowTemplate.Schema.Standard.Draft2020
