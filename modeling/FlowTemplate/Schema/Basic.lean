import FlowTemplate.Pattern.Reader
import FlowTemplate.Schema.Dialect
/-!
# Schemas

A schema is a list of keywords, each of which states something about a value. They are tried in the
order in which the schema has them. Keywords that depend on their neighbours hold what they need:
`additional` the names that `properties` speaks of, `conditional` its two outcomes.
-/

namespace FlowTemplate

/-- The kinds a value can be of. An integer is also a number; a double without a fraction is also
an integer, but not an exact one; truth values are neither. -/
inductive Kind where
  | array | boolean | integer | exactInteger | null | number | object | string
  deriving DecidableEq

namespace Kind

def name : Kind → String
  | .array => "array"
  | .boolean => "boolean"
  | .integer | .exactInteger => "integer"
  | .null => "null"
  | .number => "number"
  | .object => "object"
  | .string => "string"

def all : List Kind := [.array, .boolean, .integer, .null, .number, .object, .string]

def ofName? (s : String) : Option Kind := all.find? fun k => k.name == s

/-- Whether a value is of a kind. -/
def holds (kind : Kind) (v : Value) : Bool :=
  match kind, v.bare with
  | .array, .list _ => true
  | .boolean, .atom (.bool _) => true
  | .integer, .atom (.int _) => true
  | .integer, .atom (.float x) => x.isInteger
  | .exactInteger, .atom (.int _) => true
  | .null, .atom .null => true
  | .number, .atom (.int _) => true
  | .number, .atom (.float _) => true
  | .object, .map _ => true
  | .string, .atom (.str _) => true
  | _, _ => false

end Kind

namespace Schema

/-- Why a reference leads nowhere. -/
inductive Loss where
  /-- No schema has the address. -/
  | address
  /-- The way from a schema to its parts breaks off. -/
  | way
  /-- The schema has no part of the name; slashes cannot be in one. -/
  | name (slash : Bool)
  deriving DecidableEq

/-- Why a value cannot be held against a schema to the end. -/
inductive Fault where
  /-- The document is no schema. -/
  | notSchema
  /-- A value does not take part in an operation. -/
  | unfit
  /-- Entries or a text operation were asked of a value that has none. -/
  | noEntries
  /-- A name stands for no kind. -/
  | unknownKind
  /-- A reference of a value's schema leads nowhere. -/
  | noTarget
  /-- A reference leads nowhere while it is looked at for what it speaks of. -/
  | lost (loss : Loss)
  /-- A text is no pattern. -/
  | noPattern (fault : Pattern.Fault)
  /-- A text is no number or no address. -/
  | badText
  /-- A number is too large for a double. -/
  | tooLarge
  /-- A number is divided by nothing. -/
  | division
  /-- References lead on and on. -/
  | endless
  deriving DecidableEq

/-- A reference, with the dialect of the schema that it stands in. -/
structure Link where
  dialect : Dialect
  /-- What it refers to; nothing for the outermost schema that can be meant. -/
  target : Option String
  deriving DecidableEq

end Schema

mutual

inductive Schema where
  /-- Accepts every value. -/
  | always
  /-- Accepts no value. -/
  | never
  | all (keywords : List Keyword)
  /-- A schema with an address of its own, from which its references are completed. -/
  | within (id : String) (schema : Schema)

inductive Keyword where
  | type (kinds : List Kind)
  /-- Kinds or schemas of which one accepts, each with the text that shows it. -/
  | typeOrSchema (alternatives : List (String × Schema))
  /-- Kinds or schemas of which none accepts, each with the text that shows it. -/
  | disallow (alternatives : List (String × Schema))
  | enum (values : List Value)
  | const (value : Value)
  | minimum (bound : Atom)
  | maximum (bound : Atom)
  | exclusiveMinimum (bound : Atom)
  | exclusiveMaximum (bound : Atom)
  | multipleOf (divisor : Atom)
  | minLength (n : Nat)
  | maxLength (n : Nat)
  | pattern (source : String) (p : Pattern)
  /-- The text is a pattern itself, where that is checked. -/
  | patternText
  | minItems (n : Nat)
  | maxItems (n : Nat)
  | uniqueItems
  /-- A schema for each of the first items. -/
  | firstItems (schemas : List Schema)
  /-- A schema for the items after the first ones; if it is `never`, they are counted. -/
  | items (skip : Nat) (schema : Schema)
  /-- A schema for the items after the first ones; if it is `never`, they are listed. -/
  | additionalItems (skip : Nat) (schema : Schema)
  /-- A schema for each item. -/
  | eachItem (schema : Schema)
  /-- How many items a schema accepts at least and at most. -/
  | contains (least : Atom) (most : Option Atom) (schema : Schema)
  /-- An item that a schema accepts. -/
  | containsAny (schema : Schema)
  | minProperties (n : Nat)
  | maxProperties (n : Nat)
  | required (names : List String)
  /-- Names that are asked for by the schemas under them. -/
  | requiredFields (names : List String)
  /-- Names that have to be there beside a name. -/
  | dependent (name : String) (needed : List String)
  /-- A schema for a mapping with a name. -/
  | dependentSchema (name : String) (schema : Schema)
  | properties (fields : List (String × Schema))
  /-- A schema for the values under names that match a pattern. -/
  | fieldsLike (p : Pattern) (schema : Schema)
  /-- A schema for the values under other names than the known ones. -/
  | additional (known : List String) (schema : Schema)
  /-- A schema for the values under other names than the known ones and those that match. -/
  | unlike (known sources : List String) (p : Option Pattern) (schema : Schema)
  | propertyNames (schema : Schema)
  | allOf (schemas : List Schema)
  | anyOf (schemas : List Schema)
  /-- Each schema comes with the document it is written as, which messages quote. -/
  | oneOf (schemas : List (Value × Schema))
  | negation (document : Value) (schema : Schema)
  | conditional (test yes no : Schema)
  | reference (link : Schema.Link)
  /-- A schema for the items that no keyword beside this one speaks of. -/
  | unevaluatedItems (schema : Schema)
  /-- A schema for the values under names that no keyword beside this one speaks of. -/
  | unevaluatedProperties (schema : Schema)
  /-- Cannot be tried on values that a schema accepts. -/
  | broken (affected : Schema) (fault : Schema.Fault)

end

namespace Schema

/-- Accepts values of one kind. -/
def ofKind (kind : Kind) : Schema := .all [.type [kind]]

/-- Accepts what at least one of some schemas accepts. -/
def either (schemas : List Schema) : Schema := .all [.anyOf schemas]

/-- A schema without its address. -/
def bare : Schema → Schema
  | .within _ schema => schema
  | schema => schema

end Schema

end FlowTemplate
