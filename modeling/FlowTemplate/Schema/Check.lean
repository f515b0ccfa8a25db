import FlowTemplate.Schema.Distinct
import FlowTemplate.Schema.Multiple
import FlowTemplate.Pattern.Search
import FlowTemplate.Schema.Violation
/-!
# Holding values against schemas

`check` goes through the keywords of a schema and reports what a value does against each. `covered`
finds the parts of a value that a schema speaks of, for the keywords about all others. What
references lead to is given from outside.
-/

namespace FlowTemplate.Schema

/-- The address that references are completed from, and those of the schemas around it that led
here, the nearest first. -/
structure Scope where
  base : String := ""
  outer : List String := []
  deriving DecidableEq

namespace Scope

/-- Moves to an address. -/
def moved (s : Scope) (base : String) : Scope :=
  if !s.base.isEmpty && (s.outer.isEmpty || base != s.base) then
    { base, outer := s.base :: s.outer }
  else { s with base }

/-- Enters a schema with an address of its own. -/
def enter (s : Scope) (id : String) : Scope :=
  match Address.join? s.base id with
  | some base => s.moved base
  | none => s

end Scope

/-- What a check needs beside a schema. -/
structure Surroundings where
  /-- Whether texts that should be patterns are checked. -/
  checksPatterns : Bool
  /-- The report of a value under the schema that a reference leads to. -/
  follow : Scope → Link → Value → Report
  /-- The parts of a value that the schema speaks of that a reference leads to. -/
  followCovered : Scope → Link → Value → Except Fault (List Step)

/-- Where no reference leads anywhere. -/
def Surroundings.none : Surroundings where
  checksPatterns := false
  follow _ _ _ := .broken .noTarget
  followCovered _ _ _ := .error .noTarget

/-- The number that a value is, truth values not included. -/
def numberOf? (v : Value) : Option Quantity :=
  match v.bare with
  | .atom a => a.number?
  | _ => none

/-- A fault unless a number, if the value is one, compares as it should with the bound. -/
def compare (v : Value) (bound : Atom) (ok : Quantity → Quantity → Bool) (message : String) :
    Report :=
  match numberOf? v, bound.number? with
  | some x, some y => expect (ok x y) v (message ++ " " ++ Literal.atom bound)
  | _, _ => .clean

/-- A fault unless a number, if the value is one, is a multiple of the divisor. -/
def checkMultiple (v : Value) (divisor : Atom) : Report :=
  match v.bare with
  | .atom a =>
    if a.number?.isSome then
      .ofAnswer (isMultiple a divisor) fun ok =>
        expect ok v ("is not a multiple of " ++ Literal.atom divisor)
    else .clean
  | _ => .clean

/-- A fault unless a size, if the value has one, is at least `n`. -/
def atLeast (v : Value) (size : Option Nat) (n : Nat) (message : String) : Report :=
  match size with
  | some size => expect (n ≤ size) v (if n = 1 then "should be non-empty" else message)
  | none => .clean

/-- A fault unless a size, if the value has one, is at most `n`. -/
def atMost (v : Value) (size : Option Nat) (n : Nat) (message : String) : Report :=
  match size with
  | some size => expect (size ≤ n) v (if n = 0 then "is expected to be empty" else message)
  | none => .clean

/-- The text that a value is. -/
def text? (v : Value) : Option String := v.bare.str?

/-- The items that a value has. -/
def items? (v : Value) : Option (List Value) :=
  match v.bare with
  | .list items => some items
  | _ => none

def textLength? (v : Value) : Option Nat := (text? v).map Text.size

def itemCount? (v : Value) : Option Nat := (items? v).map List.length

def entryCount? (v : Value) : Option Nat := v.entries?.map List.length

def checkPattern (source : String) (p : Pattern) (v : Value) : Report :=
  match text? v with
  | some s =>
    expect (p.search (Text.codes s.toList)) v ("does not match " ++ Literal.quoted source)
  | none => .clean

/-- A fault unless a text, if the value is one, is a pattern. -/
def checkPatternText (v : Value) : Report :=
  match text? v with
  | some s => match Pattern.ofString s with
    | .ok _ => .clean
    | .error .malformed => .fail (v.literal ++ " is not a 'regex'")
    | .error fault => .broken (.noPattern fault)
  | none => .clean

/-- Whether a pattern matches a key. -/
def matchesKey (p : Pattern) : Atom → Bool
  | .str s => p.search (Text.codes s.toList)
  | _ => false

/-- Whether a key is one of some names. -/
def isNamed (names : List String) (key : Atom) : Bool := names.any fun name => key == .str name

/-- The entries of a value whose keys are none of the known names. -/
def extras (known : List String) (v : Value) : Entries :=
  (v.entries?.getD []).filter fun (k, _) => !isNamed known k

/-- The entries whose keys are none of the known names and do not match a pattern. -/
def unlikeExtras (known : List String) (p : Option Pattern) (v : Value) : Entries :=
  (extras known v).filter fun (k, _) => !p.any (matchesKey · k)

/-- Order of keys by their texts. -/
def keyLe (a b : Atom) : Bool := Text.le (Literal.displayAtom a) (Literal.displayAtom b)

/-- Things one after the other, and the verb that goes with their number. -/
def listed (shown : List String) : String :=
  ", ".intercalate shown ++ if shown.length = 1 then " was" else " were"

/-- The message about entries that should not be there, in the order of the texts of their keys. -/
def unexpected (keys : List Atom) : String :=
  "Additional properties are not allowed (" ++ listed ((keys.mergeSort keyLe).map Literal.atom)
    ++ " unexpected)"

/-- The message about entries that should not be there, with the patterns they do not match. -/
def unmatched (keys : List Atom) (sources : List String) : String :=
  ", ".intercalate ((keys.mergeSort keyLe).map Literal.atom)
    ++ (if keys.length = 1 then " does" else " do") ++ " not match any of the regexes: "
    ++ ", ".intercalate ((sources.mergeSort Text.le).map Literal.quoted)

/-- The message about items where only the first ones are allowed; a single one is shown on its
own. -/
def tooMany (skip : Nat) (extra : List Value) : String :=
  let noun := if skip = 1 then "item" else "items"
  let shown := match extra with
    | [v] => v.literal
    | _ => (Value.list extra).literal
  s!"Expected at most {skip} {noun} but found {extra.length} extra: " ++ shown

def additional (extra : List Value) : String :=
  "Additional items are not allowed (" ++ listed (extra.map Value.literal) ++ " unexpected)"

def noneMatches (v : Value) : String :=
  v.literal ++ " is not valid under any of the given schemas"

/-- The report of a part of a value. -/
def inPart (check : Value → Report) (part : Step × Value) : Report :=
  (check part.2).under part.1

/-- The reports of the parts of a value. -/
def inParts (check : Value → Report) (parts : List (Step × Value)) : Report :=
  .ofParts (inPart check) parts

/-- The items of a list after the first ones, with their positions. -/
def itemParts (skip : Nat) (v : Value) : List (Step × Value) :=
  (((items? v).getD []).mapIdx fun i v => (.index i, v)).drop skip

/-- The items of a list after the first ones. -/
def itemsAfter (skip : Nat) (v : Value) : List Value := ((items? v).getD []).drop skip

/-- The part of a mapping under a text key. -/
def fieldPart (name : String) (v : Value) : List (Step × Value) :=
  match v.entries?.bind (Entries.find? · name) with
  | some w => [(.key (.str name), w)]
  | none => []

/-- Entries as parts. -/
def parts (entries : Entries) : List (Step × Value) := entries.map fun (k, v) => (.key k, v)

/-- Whether a value is a mapping with a name. -/
def has (name : String) (v : Value) : Bool := v.entries?.any (Entries.contains · name)

/-- The names that a mapping lacks. -/
def lacking (names : List String) (v : Value) : List String :=
  match v.entries? with
  | some entries => names.filter fun name => !entries.contains name
  | none => []

def checkRequired (names : List String) (v : Value) : Report :=
  { violations := (lacking names v).map fun name =>
      .here (Literal.quoted name ++ " is a required property") }

/-- The faults of names that the schemas under them ask for stand under a name of their own. -/
def checkRequiredFields (names : List String) (v : Value) : Report :=
  (checkRequired names v).under (.key (.str "required"))

def checkDependent (name : String) (needed : List String) (v : Value) : Report :=
  if has name v then
    { violations := (lacking needed v).map fun each =>
        .here (Literal.quoted each ++ " is a dependency of " ++ Literal.quoted name) }
  else .clean

/-- The messages about a value that several schemas accept, the first of them last. -/
def severalMatch (v : Value) (first : Value) (more : List Value) : Report :=
  if more.isEmpty then .clean
  else .fail (v.literal ++ " is valid under each of "
    ++ ", ".intercalate ((more ++ [first]).map Value.literal))

/-- Whether one number is less than another. -/
def isLess (a b : Atom) : Bool :=
  match a.number?, b.number? with
  | some x, some y => x.lt y
  | _, _ => false

/-- How many items are accepted; no more are looked at once they are too many. -/
def countAccepted (accepts : Value → Except Fault Bool) (most : Option Atom) :
    Nat → List Value → Except Fault Nat
  | n, [] => .ok n
  | n, v :: rest =>
    if most.any fun bound => isLess bound (.int n) then .ok n
    else match accepts v with
      | .error fault => .error fault
      | .ok b => countAccepted accepts most (if b then n + 1 else n) rest

/-- A fault unless the number of accepted items is within its bounds. -/
def checkCount (least : Atom) (most : Option Atom) (v : Value) (n : Nat) : Report :=
  match most with
  | some bound =>
    if isLess bound (.int n) then
      .fail ("Too many items match the given schema (expected at most "
        ++ Literal.displayAtom bound ++ ")")
    else tooFew
  | none => tooFew
where
  tooFew : Report :=
    if isLess (.int n) least then
      if n = 0 then .fail (v.literal ++ " does not contain items matching the given schema")
      else .fail ("Too few items match the given schema (expected at least "
        ++ Literal.displayAtom least ++ s!" but only {n} matched)")
    else .clean

/-- A fault unless an item is accepted. -/
def checkAny (accepts : Value → Except Fault Bool) (v : Value) : Report :=
  match items? v with
  | none => .clean
  | some items => .ofAnswer (countAccepted accepts (some (.int 0)) 0 items) fun n =>
    if n = 0 then .fail ("None of " ++ v.literal ++ " are valid under the given schema")
    else .clean

/-- The items that are not covered. -/
def uncoveredItems (covered : List Step) (v : Value) : List Value :=
  ((itemParts 0 v).filter fun (step, _) => !covered.contains step).map (·.2)

def checkUncoveredItems (covered : List Step) (v : Value) : Report :=
  match uncoveredItems covered v with
  | [] => .clean
  | found => .fail ("Unevaluated items are not allowed (" ++ listed (found.map Value.literal)
      ++ " unexpected)")

/-- The keys of the entries that are not covered, each as often as its value has faults. -/
def uncoveredKeys (check : Value → Report) (covered : List Step) :
    Entries → Except Fault (List Atom)
  | [] => .ok []
  | (k, v) :: rest => do
    let found ← if covered.contains (.key k) then pure [] else
      (check v).violations?.map fun violations => violations.map fun _ => k
    return found ++ (← uncoveredKeys check covered rest)

def checkUncoveredKeys (schema : Schema) (keys : List Atom) : Report :=
  if keys.isEmpty then .clean
  else match schema with
    | .never =>
      .fail ("Unevaluated properties are not allowed ("
        ++ listed ((keys.mergeSort keyLe).map Literal.atom) ++ " unexpected)")
    | _ =>
      .fail ("Unevaluated properties are not valid under the given schema ("
        ++ listed (keys.map Literal.atom) ++ " unevaluated and invalid)")

/-- The steps to those parts that are accepted. -/
def acceptedSteps (accepts : Value → Except Fault Bool) :
    List (Step × Value) → Except Fault (List Step)
  | [] => .ok []
  | (step, v) :: rest => do
    let accepted ← accepts v
    let more ← acceptedSteps accepts rest
    return if accepted then step :: more else more

/-- The steps to all parts of some kind. -/
def steps (parts : List (Step × Value)) : Except Fault (List Step) := .ok (parts.map (·.1))

/-- Two lists of steps. -/
def bothCovered (a b : Except Fault (List Step)) : Except Fault (List Step) := do
  return (← a) ++ (← b)

mutual

/-- What in a value goes against a schema. -/
def check (e : Surroundings) (scope : Scope) : Schema → Value → Report
  | .always, _ => .clean
  | .never, v => .fail ("False schema does not allow " ++ v.literal)
  | .all keywords, v =>
    checkKeywords e scope (fun _ => coveredByKeywords e scope keywords v) keywords v
  | .within id schema, v => check e (scope.enter id) schema v

def checkKeywords (e : Surroundings) (scope : Scope)
    (covered : Unit → Except Fault (List Step)) : List Keyword → Value → Report
  | [], _ => .clean
  | k :: rest, v =>
    (checkKeyword e scope covered k v).andThen fun _ => checkKeywords e scope covered rest v

/-- What in a value goes against a keyword, given the parts that the keywords beside it speak of. -/
def checkKeyword (e : Surroundings) (scope : Scope)
    (covered : Unit → Except Fault (List Step)) : Keyword → Value → Report
  | .type kinds, v =>
    expect (kinds.any fun kind => kind.holds v) v
      ("is not of type " ++ ", ".intercalate (kinds.map fun kind => Literal.quoted kind.name))
  | .typeOrSchema alternatives, v =>
    .ofAnswer (someAlternative e scope alternatives v) fun ok =>
      expect ok v ("is not of type " ++ ", ".intercalate (alternatives.map (·.1)))
  | .disallow alternatives, v => checkDisallowed e scope alternatives v
  | .enum values, v =>
    expect (values.any fun w => w.sameMeaning v) v ("is not one of " ++ (Value.list values).literal)
  | .const w, v => if w.sameMeaning v then .clean else .fail (w.literal ++ " was expected")
  | .minimum bound, v => compare v bound (fun x y => !x.lt y) "is less than the minimum of"
  | .maximum bound, v => compare v bound (fun x y => !y.lt x) "is greater than the maximum of"
  | .exclusiveMinimum bound, v =>
    compare v bound (fun x y => !(x.lt y || x.eq y)) "is less than or equal to the minimum of"
  | .exclusiveMaximum bound, v =>
    compare v bound (fun x y => !(y.lt x || x.eq y)) "is greater than or equal to the maximum of"
  | .multipleOf divisor, v => checkMultiple v divisor
  | .minLength n, v => atLeast v (textLength? v) n "is too short"
  | .maxLength n, v => atMost v (textLength? v) n "is too long"
  | .pattern source p, v => checkPattern source p v
  | .patternText, v => if e.checksPatterns then checkPatternText v else .clean
  | .minItems n, v => atLeast v (itemCount? v) n "is too short"
  | .maxItems n, v => atMost v (itemCount? v) n "is too long"
  | .uniqueItems, v => match items? v with
    | some items => expect (Value.areDistinct items) v "has non-unique elements"
    | none => .clean
  | .firstItems schemas, v => checkFirst e scope schemas (itemParts 0 v)
  | .items skip schema, v => match schema with
    | .never => match itemsAfter skip v with
      | [] => .clean
      | extra => .fail (tooMany skip extra)
    | schema => inParts (check e scope schema) (itemParts skip v)
  | .additionalItems skip schema, v => match schema with
    | .never => match itemsAfter skip v with
      | [] => .clean
      | extra => .fail (additional extra)
    | schema => inParts (check e scope schema) (itemParts skip v)
  | .eachItem schema, v => inParts (check e scope schema) (itemParts 0 v)
  | .contains least most schema, v => match items? v with
    | none => .clean
    | some items =>
      .ofAnswer (countAccepted (fun w => (check e scope schema w).isClean) most 0 items)
        (checkCount least most v)
  | .containsAny schema, v => checkAny (fun w => (check e scope schema w).isClean) v
  | .minProperties n, v => atLeast v (entryCount? v) n "does not have enough properties"
  | .maxProperties n, v => atMost v (entryCount? v) n "has too many properties"
  | .required names, v => checkRequired names v
  | .requiredFields names, v => checkRequiredFields names v
  | .dependent name needed, v => checkDependent name needed v
  | .dependentSchema name schema, v => if has name v then check e scope schema v else .clean
  | .properties fields, v => checkFields e scope fields v
  | .fieldsLike p schema, v =>
    inParts (check e scope schema)
      (parts ((v.entries?.getD []).filter fun (k, _) => matchesKey p k))
  | .additional known schema, v => match schema with
    | .never => match extras known v with
      | [] => .clean
      | found => .fail (unexpected (found.map (·.1)))
    | schema => inParts (check e scope schema) (parts (extras known v))
  | .unlike known sources p schema, v => match schema with
    | .never => match unlikeExtras known p v with
      | [] => .clean
      | found => .fail (unmatched (found.map (·.1)) sources)
    | schema => inParts (check e scope schema) (parts (unlikeExtras known p v))
  | .propertyNames schema, v =>
    .ofParts (fun key => check e scope schema (.atom key)) (v.entries?.getD []).keys
  | .allOf schemas, v => checkAll e scope schemas v
  | .anyOf schemas, v =>
    .ofAnswer (anyAccepts e scope schemas v) fun ok => if ok then .clean else .fail (noneMatches v)
  | .oneOf schemas, v => checkOne e scope schemas v
  | .negation document schema, v =>
    .ofAnswer (check e scope schema v).isClean fun accepted =>
      if accepted then .fail (v.literal ++ " should not be valid under " ++ document.literal)
      else .clean
  | .conditional test yes no, v =>
    .ofAnswer (check e scope test v).isClean fun accepted =>
      if accepted then check e scope yes v else check e scope no v
  | .reference link, v => e.follow scope link v
  | .unevaluatedItems _, v => match items? v with
    | none => .clean
    | some _ => .ofAnswer (covered ()) fun covered => checkUncoveredItems covered v
  | .unevaluatedProperties schema, v => match v.entries? with
    | none => .clean
    | some entries =>
      .ofAnswer (covered ()) fun covered =>
        .ofAnswer (uncoveredKeys (check e scope schema) covered entries) (checkUncoveredKeys schema)
  | .broken affected fault, v =>
    .ofAnswer (check e scope affected v).isClean fun accepted =>
      if accepted then .broken fault else .clean

def checkFields (e : Surroundings) (scope : Scope) : List (String × Schema) → Value → Report
  | [], _ => .clean
  | (name, schema) :: rest, v =>
    (inParts (check e scope schema) (fieldPart name v)).andThen fun _ =>
      checkFields e scope rest v

/-- Holds each of the first items against a schema of its own. -/
def checkFirst (e : Surroundings) (scope : Scope) : List Schema → List (Step × Value) → Report
  | schema :: rest, part :: parts =>
    (inPart (check e scope schema) part).andThen fun _ => checkFirst e scope rest parts
  | _, _ => .clean

def checkAll (e : Surroundings) (scope : Scope) : List Schema → Value → Report
  | [], _ => .clean
  | schema :: rest, v => (check e scope schema v).andThen fun _ => checkAll e scope rest v

/-- Whether one of some schemas accepts a value. -/
def anyAccepts (e : Surroundings) (scope : Scope) : List Schema → Value → Except Fault Bool
  | [], _ => .ok false
  | schema :: rest, v => match (check e scope schema v).violations? with
    | .error fault => .error fault
    | .ok [] => .ok true
    | .ok _ => anyAccepts e scope rest v

/-- Whether one of some alternatives accepts a value. -/
def someAlternative (e : Surroundings) (scope : Scope) :
    List (String × Schema) → Value → Except Fault Bool
  | [], _ => .ok false
  | (_, schema) :: rest, v => match (check e scope schema v).violations? with
    | .error fault => .error fault
    | .ok [] => .ok true
    | .ok _ => someAlternative e scope rest v

def checkDisallowed (e : Surroundings) (scope : Scope) : List (String × Schema) → Value → Report
  | [], _ => .clean
  | (shown, schema) :: rest, v =>
    (Report.ofAnswer (check e scope schema v).isClean fun accepted =>
      if accepted then .fail (shown ++ " is disallowed for " ++ v.literal) else .clean).andThen
      fun _ => checkDisallowed e scope rest v

/-- Looks for the first schema that accepts a value, and for more of them behind it. -/
def checkOne (e : Surroundings) (scope : Scope) : List (Value × Schema) → Value → Report
  | [], v => .fail (noneMatches v)
  | (document, schema) :: rest, v => match (check e scope schema v).violations? with
    | .error fault => .broken fault
    | .ok [] => .ofAnswer (accepting e scope rest v) (severalMatch v document)
    | .ok _ => checkOne e scope rest v

/-- The documents of the schemas that accept a value. -/
def accepting (e : Surroundings) (scope : Scope) :
    List (Value × Schema) → Value → Except Fault (List Value)
  | [], _ => .ok []
  | (document, schema) :: rest, v => match (check e scope schema v).isClean with
    | .error fault => .error fault
    | .ok accepted => match accepting e scope rest v with
      | .error fault => .error fault
      | .ok more => .ok (if accepted then document :: more else more)

/-- The parts of a value that a schema speaks of. -/
def covered (e : Surroundings) (scope : Scope) : Schema → Value → Except Fault (List Step)
  | .always, _ | .never, _ => .ok []
  | .all keywords, v => coveredByKeywords e scope keywords v
  | .within _ schema, v => covered e scope schema v

def coveredByKeywords (e : Surroundings) (scope : Scope) :
    List Keyword → Value → Except Fault (List Step)
  | [], _ => .ok []
  | k :: rest, v => bothCovered (coveredBy e scope k v) (coveredByKeywords e scope rest v)

/-- The parts of a value that a keyword speaks of. -/
def coveredBy (e : Surroundings) (scope : Scope) : Keyword → Value → Except Fault (List Step)
  | .firstItems schemas, v => steps ((itemParts 0 v).take schemas.length)
  | .items .., v | .eachItem _, v | .additionalItems .., v => steps (itemParts 0 v)
  | .contains _ _ schema, v | .unevaluatedItems schema, v =>
    acceptedSteps (fun w => (check e scope schema w).isClean) (itemParts 0 v)
  | .properties fields, v => steps (fields.flatMap fun (name, _) => fieldPart name v)
  | .additional _ schema, v | .unlike _ _ _ schema, v | .unevaluatedProperties schema, v =>
    acceptedSteps (fun w => (check e scope schema w).isClean) (parts (v.entries?.getD []))
  | .fieldsLike p _, v => steps (parts ((v.entries?.getD []).filter fun (k, _) => matchesKey p k))
  | .dependentSchema name schema, v => if has name v then covered e scope schema v else .ok []
  | .allOf schemas, v | .anyOf schemas, v => coveredByAccepting e scope schemas v
  | .oneOf schemas, v => coveredByAlternatives e scope schemas v
  | .conditional test yes no, v => match (check e scope test v).isClean with
    | .error fault => .error fault
    | .ok true => bothCovered (covered e scope test v) (covered e scope yes v)
    | .ok false => covered e scope no v
  | .reference link, v => e.followCovered scope link v
  | _, _ => .ok []

/-- The parts that those schemas speak of that accept a value. -/
def coveredByAccepting (e : Surroundings) (scope : Scope) :
    List Schema → Value → Except Fault (List Step)
  | [], _ => .ok []
  | schema :: rest, v => match (check e scope schema v).isClean with
    | .error fault => .error fault
    | .ok accepted =>
      bothCovered (if accepted then covered e scope schema v else .ok [])
        (coveredByAccepting e scope rest v)

def coveredByAlternatives (e : Surroundings) (scope : Scope) :
    List (Value × Schema) → Value → Except Fault (List Step)
  | [], _ => .ok []
  | (_, schema) :: rest, v => match (check e scope schema v).isClean with
    | .error fault => .error fault
    | .ok accepted =>
      bothCovered (if accepted then covered e scope schema v else .ok [])
        (coveredByAlternatives e scope rest v)

end

/-- The violations in the order of their paths, each as a line of text. -/
def lines (root : String) (violations : List Violation) : List String :=
  (violations.mergeSort Violation.le).map (·.text root)

/-- What in a value goes against a schema without references. -/
def violations (schema : Schema) (v : Value) : List Violation :=
  (check .none {} schema v).violations

/-- Whether a schema without references accepts a value. -/
def accepts (schema : Schema) (v : Value) : Bool := (schema.violations v).isEmpty

/-- The violations of a schema without references, as lines of text. -/
def report (schema : Schema) (root : String) (v : Value) : List String :=
  lines root (schema.violations v)

end FlowTemplate.Schema
