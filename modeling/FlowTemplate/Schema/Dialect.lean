import FlowTemplate.Document.Value
import FlowTemplate.Schema.Address
/-!
# Dialects

Schemas are written in one of several dialects, which a schema names by an address. Dialects differ
in their keywords, in what these take as their arguments, and in how schemas get addresses and names.
-/

namespace FlowTemplate.Schema

/-- The dialects, from the oldest to the latest. -/
inductive Dialect where
  | draft3 | draft4 | draft6 | draft7 | draft2019 | draft2020
  deriving DecidableEq, Repr

/-- Where a keyword has schemas in its argument. -/
inductive Role where
  /-- The argument is a schema. -/
  | schema
  /-- The argument is a list of schemas. -/
  | schemas
  /-- Schemas under names. -/
  | fields
  /-- A schema, or a list of them. -/
  | items
  /-- Under each name a schema or a list of names. -/
  | dependencies
  /-- A name of a kind, a schema, or a list of them. -/
  | kinds
  deriving DecidableEq

namespace Dialect

def number : Dialect → Nat
  | .draft3 => 3
  | .draft4 => 4
  | .draft6 => 6
  | .draft7 => 7
  | .draft2019 => 2019
  | .draft2020 => 2020

/-- Whether a dialect is another one or later. -/
def isFrom (d first : Dialect) : Bool := first.number ≤ d.number

/-- The address of a dialect. -/
def address : Dialect → String
  | .draft3 => "http://json-schema.org/draft-03/schema"
  | .draft4 => "http://json-schema.org/draft-04/schema"
  | .draft6 => "http://json-schema.org/draft-06/schema"
  | .draft7 => "http://json-schema.org/draft-07/schema"
  | .draft2019 => "https://json-schema.org/draft/2019-09/schema"
  | .draft2020 => "https://json-schema.org/draft/2020-12/schema"

def all : List Dialect := [.draft3, .draft4, .draft6, .draft7, .draft2019, .draft2020]

def ofAddress? (s : String) : Option Dialect := all.find? fun d => d.address == s

/-- The keyword that gives a schema its address. -/
def idKey (d : Dialect) : String := if d.isFrom .draft6 then "$id" else "id"

/-- Whether nothing that stands beside a reference counts. -/
def hidesSiblings (d : Dialect) : Bool := !d.isFrom .draft2019

/-- Keywords with schemas in their arguments, and the dialects that have them. -/
def roles : List (String × Role × Dialect × Dialect) := [
  ("additionalProperties", .schema, .draft3, .draft2020),
  ("additionalItems", .schema, .draft3, .draft2019),
  ("not", .schema, .draft4, .draft2020),
  ("contains", .schema, .draft6, .draft2020),
  ("propertyNames", .schema, .draft6, .draft2020),
  ("if", .schema, .draft7, .draft2020),
  ("then", .schema, .draft7, .draft2020),
  ("else", .schema, .draft7, .draft2020),
  ("contentSchema", .schema, .draft2019, .draft2020),
  ("unevaluatedItems", .schema, .draft2019, .draft2020),
  ("unevaluatedProperties", .schema, .draft2019, .draft2020),
  ("items", .schema, .draft2020, .draft2020),
  ("items", .items, .draft3, .draft2019),
  ("allOf", .schemas, .draft4, .draft2020),
  ("anyOf", .schemas, .draft4, .draft2020),
  ("oneOf", .schemas, .draft4, .draft2020),
  ("prefixItems", .schemas, .draft2020, .draft2020),
  ("extends", .schemas, .draft3, .draft3),
  ("properties", .fields, .draft3, .draft2020),
  ("patternProperties", .fields, .draft3, .draft2020),
  ("definitions", .fields, .draft3, .draft2020),
  ("$defs", .fields, .draft2019, .draft2020),
  ("dependentSchemas", .fields, .draft2019, .draft2020),
  ("dependencies", .dependencies, .draft3, .draft7),
  ("type", .kinds, .draft3, .draft3),
  ("disallow", .kinds, .draft3, .draft3)]

/-- Where a keyword has schemas, if it is one that has them. -/
def role? (d : Dialect) (key : String) : Option Role :=
  roles.findSome? fun (name, role, first, last) =>
    if name == key && d.isFrom first && last.isFrom d then some role else none

/-- Keywords without schemas that state something about values. -/
def statements : List (String × Dialect × Dialect) := [
  ("$ref", .draft3, .draft2020),
  ("$recursiveRef", .draft2019, .draft2019),
  ("$dynamicRef", .draft2020, .draft2020),
  ("type", .draft3, .draft2020),
  ("disallow", .draft3, .draft3),
  ("enum", .draft3, .draft2020),
  ("const", .draft6, .draft2020),
  ("minimum", .draft3, .draft2020),
  ("maximum", .draft3, .draft2020),
  ("exclusiveMinimum", .draft6, .draft2020),
  ("exclusiveMaximum", .draft6, .draft2020),
  ("divisibleBy", .draft3, .draft3),
  ("multipleOf", .draft4, .draft2020),
  ("minLength", .draft3, .draft2020),
  ("maxLength", .draft3, .draft2020),
  ("pattern", .draft3, .draft2020),
  ("format", .draft3, .draft2020),
  ("minItems", .draft3, .draft2020),
  ("maxItems", .draft3, .draft2020),
  ("uniqueItems", .draft3, .draft2020),
  ("minProperties", .draft4, .draft2020),
  ("maxProperties", .draft4, .draft2020),
  ("required", .draft4, .draft2020),
  ("dependentRequired", .draft2019, .draft2020)]

/-- Whether a dialect has a keyword without schemas. -/
def states (d : Dialect) (key : String) : Bool :=
  statements.any fun (name, first, last) => name == key && d.isFrom first && last.isFrom d

end Dialect

end FlowTemplate.Schema
