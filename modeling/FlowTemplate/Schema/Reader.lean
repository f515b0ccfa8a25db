import FlowTemplate.Document.Literal
import FlowTemplate.Schema.Basic
/-!
# Reading schemas

Every document reads as a schema. Keywords that a dialect does not have leave no trace; a keyword
whose argument is of a wrong form reads as one that cannot be tried. Whether a document is well
formed is another question.
-/

namespace FlowTemplate.Schema

/-- One entry of a schema document, before it has met its neighbours. -/
inductive Clause where
  | plain (argument : Value)
  | one (document : Value) (schema : Schema)
  | many (documents : List Value) (schemas : List Schema)
  | named (fields : List (String × Value × Schema))

/-- Cannot be tried on any value. -/
def failing (fault : Fault) : Schema := .all [.broken .always fault]

/-- A whole number that is not negative, also when it is written as a double. -/
def count? : Value → Option Nat
  | .atom (.int i) => if i < 0 then none else some i.toNat
  | .atom (.float x) => match x.toInt? with
    | some i => if i < 0 then none else some i.toNat
    | none => none
  | _ => none

def number? : Value → Option Atom
  | .atom a => a.number?.map fun _ => a
  | _ => none

def texts : Value → List String
  | .list items => items.filterMap Value.str?
  | _ => []

/-- The kind that a name stands for. In old dialects integers are exact. -/
def kind? (d : Dialect) (name : String) : Option Kind :=
  (Kind.ofName? name).map fun kind =>
    if kind == .integer && !d.isFrom .draft6 then .exactInteger else kind

/-- What a schema of a document that is no mapping does. -/
def misread : Value → Schema
  | .atom (.bool b) => if b then .always else .never
  | .atom (.str s) => failing (if (s.splitOn "$schema").length > 1 then .unfit else .noEntries)
  | .list items => failing (if items.contains (.str "$schema") then .unfit else .noEntries)
  | _ => failing .unfit

/-- The dialect that a schema names, or else the one around it. -/
def dialectOf (d : Dialect) (entries : Entries) : Except Fault Dialect :=
  match entries.find? "$schema" with
  | none => .ok d
  | some (.atom (.str s)) => match Address.standard? s with
    | some address => .ok ((Dialect.ofAddress? address).getD d)
    | none => .error .badText
  | some (.atom a) => if a.isEmpty then .ok d else .error .noEntries
  | some _ => .error .unfit

/-- The address of a schema, if it gives itself one. -/
def idOf? (d : Dialect) (entries : Entries) : Option String :=
  if d.hidesSiblings && entries.contains "$ref" then none
  else match entries.find? d.idKey with
    | some (.atom (.str s)) =>
      if d.hidesSiblings && s.startsWith "#" then none else some (Address.trimmed s)
    | _ => none

/-- A keyword that cannot be tried on values of a kind. -/
def brokenFor (kind : Kind) (fault : Fault) : List Keyword := [.broken (.ofKind kind) fault]

/-- The kinds of a list, as alternatives with the texts that show them. -/
def alternatives (d : Dialect) (documents : List Value) (schemas : List Schema) :
    List (String × Schema) :=
  (documents.zip schemas).map fun (document, schema) =>
    match document with
    | .atom (.str s) =>
      (document.literal,
        if d == .draft3 && s == "any" then .always
        else match kind? d s with
          | some kind => .ofKind kind
          | none => failing .unknownKind)
    | .map entries => (((Entries.find? entries "name").getD document).literal, schema)
    | _ => (document.literal, failing .unfit)

/-- The kinds that are not allowed, one by one. -/
def disallowed (d : Dialect) (documents : List Value) (schemas : List Schema) :
    List (String × Schema) :=
  (documents.zip (alternatives d documents schemas)).map fun (document, alternative) =>
    (document.literal, .all [.typeOrSchema [alternative]])

def typeKeyword (d : Dialect) (v : Value) : Keyword :=
  match v with
  | .atom (.str s) => match kind? d s with
    | some kind => .type [kind]
    | none => .typeOrSchema (alternatives d [v] [.always])
  | .list items => match items.mapM fun item => item.str?.bind (kind? d) with
    | some kinds => .type kinds
    | none => .typeOrSchema (alternatives d items (items.map fun _ => failing .unfit))
  | _ => .broken .always .unfit

def patternKeyword : Value → List Keyword
  | .atom (.str s) => match Pattern.ofString s with
    | .ok p => [.pattern s p]
    | .error fault => brokenFor .string (.noPattern fault)
  | _ => brokenFor .string .unfit

/-- A bound, which is exclusive in old dialects if a neighbour says so. -/
def boundKeyword (d : Dialect) (entries : Entries) (flag : String) (v : Value)
    (inclusive exclusive : Atom → Keyword) : List Keyword :=
  match number? v with
  | none => brokenFor .number .unfit
  | some bound =>
    let isExclusive := !d.isFrom .draft6 && (entries.find? flag).any fun w => !w.isEmpty
    [if isExclusive then exclusive bound else inclusive bound]

/-- A keyword with a count. -/
def countKeyword (kind : Kind) (v : Value) (keyword : Nat → Keyword) : List Keyword :=
  match count? v with
  | some n => [keyword n]
  | none => brokenFor kind .unfit

/-- The keywords of an argument without schemas. -/
def plainKeywords (d : Dialect) (entries : Entries) (key : String) (v : Value) : List Keyword :=
  match key with
  | "$ref" | "$dynamicRef" => match v with
    | .atom (.str s) => [.reference { dialect := d, target := some s }]
    | _ => [.broken .always .noEntries]
  | "$recursiveRef" => [.reference { dialect := d, target := none }]
  | "type" => [typeKeyword d v]
  | "disallow" => [.disallow (disallowed d [v] [failing .unfit])]
  | "enum" => match v with
    | .list values => [.enum values]
    | _ => [.broken .always .unfit]
  | "const" => [.const v]
  | "minimum" => boundKeyword d entries "exclusiveMinimum" v .minimum .exclusiveMinimum
  | "maximum" => boundKeyword d entries "exclusiveMaximum" v .maximum .exclusiveMaximum
  | "exclusiveMinimum" => boundKeyword d [] "" v .exclusiveMinimum .exclusiveMinimum
  | "exclusiveMaximum" => boundKeyword d [] "" v .exclusiveMaximum .exclusiveMaximum
  | "multipleOf" | "divisibleBy" => boundKeyword d [] "" v .multipleOf .multipleOf
  | "minLength" => countKeyword .string v .minLength
  | "maxLength" => countKeyword .string v .maxLength
  | "pattern" => patternKeyword v
  | "format" => if v == .str "regex" then [.patternText] else []
  | "minItems" => countKeyword .array v .minItems
  | "maxItems" => countKeyword .array v .maxItems
  | "uniqueItems" => if v.isEmpty then [] else [.uniqueItems]
  | "minProperties" => countKeyword .object v .minProperties
  | "maxProperties" => countKeyword .object v .maxProperties
  | "required" => match v with
    | .list items => [.required (items.filterMap Value.str?)]
    | _ => brokenFor .object .unfit
  | "dependentRequired" => match v with
    | .map fields => fields.filterMap fun (k, names) =>
      (Value.str? (.atom k)).map fun name => .dependent name (texts names)
    | _ => brokenFor .object .noEntries
  | _ => []

/-- The names that the mapping under a key has. -/
def namesUnder (entries : Entries) (key : String) : List String :=
  match entries.find? key with
  | some (.map fields) => fields.filterMap fun (k, _) => Value.str? (.atom k)
  | _ => []

/-- The number of items in the list under a key. -/
def itemsUnder (entries : Entries) (key : String) : Nat :=
  match entries.find? key with
  | some (.list items) => items.length
  | _ => 0

/-- A schema for values under names that no neighbour speaks of. Patterns are tried as one. -/
def additionalKeyword (entries : Entries) (schema : Schema) : Keyword :=
  let known := namesUnder entries "properties"
  if entries.contains "patternProperties" then
    let sources := namesUnder entries "patternProperties"
    let joined := "|".intercalate sources
    if joined.isEmpty then .unlike known sources none schema
    else match Pattern.ofString joined with
      | .ok p => .unlike known sources (some p) schema
      | .error fault =>
        .broken (.all [.type [.object], .negation .null (.all [.additional known .never])])
          (.noPattern fault)
  else .additional known schema

/-- The schema under a key, or one that accepts everything. -/
def schemaUnder (clauses : List (String × Clause)) (key : String) : Schema :=
  match clauses.lookup key with
  | some (.one _ schema) => schema
  | _ => .always

/-- The keywords of an argument that is a schema. -/
def schemaKeywords (d : Dialect) (entries : Entries) (clauses : List (String × Clause))
    (key : String) (document : Value) (schema : Schema) : List Keyword :=
  match key with
  | "items" =>
    if d.isFrom .draft2020 then [.items (itemsUnder entries "prefixItems") schema]
    else [.eachItem schema]
  | "additionalItems" => match clauses.lookup "items" with
    | some (.many documents _) => [.additionalItems documents.length schema]
    | some (.one (.atom _) _) => brokenFor .array .unfit
    | _ => []
  | "contains" =>
    if d.isFrom .draft2019 then
      [.contains (((entries.find? "minContains").bind number?).getD (.int 1))
        ((entries.find? "maxContains").bind number?) schema.bare]
    else [.containsAny schema.bare]
  | "additionalProperties" => [additionalKeyword entries schema]
  | "propertyNames" => [.propertyNames schema]
  | "not" => [.negation document schema.bare]
  | "if" =>
    [.conditional schema.bare (schemaUnder clauses "then") (schemaUnder clauses "else")]
  | "extends" => [.allOf [schema]]
  | "unevaluatedItems" => [.unevaluatedItems schema.bare]
  | "unevaluatedProperties" => [.unevaluatedProperties schema]
  | _ => []

/-- The keywords of an argument that is a list of schemas. -/
def schemasKeywords (d : Dialect) (key : String) (documents : List Value)
    (schemas : List Schema) : List Keyword :=
  match key with
  | "allOf" | "extends" => [.allOf schemas]
  | "anyOf" => [.anyOf schemas]
  | "oneOf" => [.oneOf (documents.zip schemas)]
  | "prefixItems" | "items" => [.firstItems schemas]
  | "type" => [.typeOrSchema (alternatives d documents schemas)]
  | "disallow" => [.disallow (disallowed d documents schemas)]
  | _ => []

/-- A schema for the values under names that match a text. -/
def fieldsLikeKeyword (source : String) (schema : Schema) : Keyword :=
  match Pattern.ofString source with
  | .ok p => .fieldsLike p schema
  | .error fault => .broken (.all [.type [.object], .minProperties 1]) (.noPattern fault)

/-- What has to go with a name: other names, or a schema for the whole. -/
def dependencyKeyword (d : Dialect) (name : String) (document : Value) (schema : Schema) : Keyword :=
  match document with
  | .list _ => .dependent name (texts document)
  | .atom (.str needed) =>
    if d == .draft3 then .dependent name [needed] else .dependentSchema name schema
  | _ => .dependentSchema name schema

/-- The keywords of an argument with schemas under names. -/
def fieldsKeywords (d : Dialect) (key : String) (fields : List (String × Value × Schema)) :
    List Keyword :=
  match key with
  | "properties" =>
    .properties (fields.map fun (name, _, schema) => (name, schema)) ::
      if d == .draft3 then
        [.requiredFields <| fields.filterMap fun (name, document, _) =>
          if (document.entries?.bind (Entries.find? · "required")).any fun v => !v.isEmpty then
            some name
          else none]
      else []
  | "patternProperties" => fields.map fun (source, _, schema) => fieldsLikeKeyword source schema
  | "dependentSchemas" => fields.map fun (name, _, schema) => .dependentSchema name schema
  | "dependencies" => fields.map fun (name, document, schema) =>
    dependencyKeyword d name document schema
  | _ => []

/-- The keywords of a clause. -/
def keywordsOf (d : Dialect) (entries : Entries) (clauses : List (String × Clause))
    (key : String) : Clause → List Keyword
  | .plain v => if d.states key then plainKeywords d entries key v else []
  | .one document schema => schemaKeywords d entries clauses key document schema
  | .many documents schemas => schemasKeywords d key documents schemas
  | .named fields => fieldsKeywords d key fields

/-- The keywords of some clauses; in old dialects only a reference counts if there is one. -/
def link (d : Dialect) (entries : Entries) (clauses : List (String × Clause)) : List Keyword :=
  let alone := if d.hidesSiblings then clauses.filter fun (key, clause) =>
    key == "$ref" && match clause with
      | .plain (.atom .null) => false
      | _ => true
    else []
  (if alone.isEmpty then clauses else alone).flatMap fun (key, clause) =>
    keywordsOf d entries clauses key clause

/-- The schema of the entries of a document; `clausesIn` reads them in a dialect. -/
def build (d : Dialect) (entries : Entries)
    (clausesIn : Dialect → List (String × Clause)) : Schema :=
  match dialectOf d entries with
  | .error fault => failing fault
  | .ok own =>
    let schema := .all (link own entries (clausesIn own))
    match idOf? d entries with
    | some id => .within id schema
    | none => schema

mutual

/-- The schema that a document writes in a dialect. -/
def read (d : Dialect) : Value → Schema
  | .map entries => build d entries fun own => clauses own entries
  | v => misread v

def clauses (d : Dialect) : List (Atom × Value) → List (String × Clause)
  | [] => []
  | (.str key, v) :: rest => (key, clause d (d.role? key) v) :: clauses d rest
  | _ :: rest => clauses d rest

def clause (d : Dialect) (role : Option Role) : Value → Clause
  | .map entries => match role with
    | none => .plain (.map entries)
    | some .fields | some .dependencies => .named (fields d entries)
    | some _ => .one (.map entries) (build d entries fun own => clauses own entries)
  | .list items => match role with
    | none | some .fields | some .dependencies => .plain (.list items)
    | some _ => .many items (schemas d items)
  | .atom (.bool b) => match role with
    | none | some .fields | some .dependencies | some .kinds => .plain (.bool b)
    | some _ => .one (.bool b) (if b then .always else .never)
  | v => .plain v

def schemas (d : Dialect) : List Value → List Schema
  | [] => []
  | v :: rest => read d v :: schemas d rest

def fields (d : Dialect) : List (Atom × Value) → List (String × Value × Schema)
  | [] => []
  | (.str name, v) :: rest => (name, v, read d v) :: fields d rest
  | _ :: rest => fields d rest

end

end FlowTemplate.Schema
