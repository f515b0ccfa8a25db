import FlowTemplate.Schema.Check
import FlowTemplate.Schema.Reader
import FlowTemplate.Text.Digit
/-!
# Schemas by address

A library holds schema documents by their addresses, and the parts of them that have names. A
reference is an address, with a way into the document or the name of a part behind a number sign. Some
names are bound late: of the schemas that led to a reference, the outermost one that has the name
counts.
-/

namespace FlowTemplate.Schema

/-- A document and the dialect it is written in. -/
structure Resource where
  document : Value
  dialect : Dialect

/-- A part of a document that has a name. -/
structure NamedPart where
  resource : Resource
  /-- Whether the name is bound late. -/
  late : Bool

/-- Documents by address, and parts by address and name. Of two entries for the same the first
counts. -/
structure Library where
  resources : List (String × Resource) := []
  named : List (String × String × NamedPart) := []

/-- The address of a document, if it gives itself one. -/
def Resource.id? (r : Resource) : Option String := r.document.entries?.bind (idOf? r.dialect)

namespace Library

def append (a b : Library) : Library :=
  { resources := a.resources ++ b.resources, named := a.named ++ b.named }

/-- The names that a schema gives itself. -/
def namesOf (d : Dialect) (entries : Entries) : List (String × Bool) :=
  let text (key : String) : List String := ((entries.find? key).bind Value.str?).toList
  if d.isFrom .draft2019 then
    (text "$anchor").map (·, false)
      ++ if d.isFrom .draft2020 then (text "$dynamicAnchor").map (·, true) else []
  else (text d.idKey).filterMap fun s =>
    if s.startsWith "#" then some ((s.drop 1).toString, false) else none

/-- The library of one schema alone. -/
def ofSchema (d : Dialect) (base : String) (entries : Entries) : Library :=
  let resource : Resource := { document := .map entries, dialect := d }
  { resources := if (idOf? d entries).isSome then [(base, resource)] else []
    named := (namesOf d entries).map fun (name, late) => (base, name, { resource, late }) }

/-- The address of a schema inside another one. -/
def baseOf (d : Dialect) (around : String) (entries : Entries) : String :=
  match idOf? d entries with
  | some id => (Address.join? around id).getD around
  | none => around

/-- The library of some entries; `inside` goes through their parts at an address in a dialect. -/
def ofEntries (d : Dialect) (around : String) (entries : Entries)
    (inside : Dialect → String → Library) : Library :=
  let own := (dialectOf d entries).toOption.getD d
  let base := baseOf own around entries
  (ofSchema own base entries).append (inside own base)

mutual

/-- A schema and all schemas inside it. -/
def ofDocument (d : Dialect) (around : String) : Value → Library
  | .map entries => ofEntries d around entries fun own base => ofParts own base entries
  | _ => {}

def ofParts (d : Dialect) (base : String) : List (Atom × Value) → Library
  | [] => {}
  | (.str key, v) :: rest => (ofPart d base (d.role? key) v).append (ofParts d base rest)
  | _ :: rest => ofParts d base rest

def ofPart (d : Dialect) (base : String) (role : Option Role) : Value → Library
  | .map entries => match role with
    | some .schema | some .items =>
      ofEntries d base entries fun own base => ofParts own base entries
    | some .fields | some .dependencies => ofFields d base entries
    | _ => {}
  | .list items => match role with
    | some .schemas | some .items => ofItems d base items
    | _ => {}
  | _ => {}

def ofItems (d : Dialect) (base : String) : List Value → Library
  | [] => {}
  | v :: rest => (ofDocument d base v).append (ofItems d base rest)

def ofFields (d : Dialect) (base : String) : List (Atom × Value) → Library
  | [] => {}
  | (_, v) :: rest => (ofDocument d base v).append (ofFields d base rest)

end

/-- The address of the outermost schema of a document; it can be empty. -/
def rootAddress (r : Resource) : String := (Resource.id? r).getD ""

/-- A library with a document in front of it. -/
def withRoot (library : Library) (r : Resource) : Library :=
  ({ resources := [(rootAddress r, r)] } : Library).append
    ((ofDocument r.dialect (rootAddress r) r.document).append library)

def resource? (library : Library) (address : String) : Option Resource :=
  library.resources.lookup address

/-- The part of a name in the document at an address. -/
def named? (library : Library) (address name : String) : Option NamedPart :=
  library.named.findSome? fun (base, n, part) =>
    if base == address && n == name then some part else none

/-- The part of a name, also under the address that the document gives itself. -/
def part? (library : Library) (address name : String) : Option NamedPart :=
  library.named? address name <|>
    ((library.resource? address).bind Resource.id?).bind (library.named? · name)

end Library

/-- What a reference leads to. -/
structure Target where
  document : Value
  scope : Scope

/-- A step of a way into a document: a position in a list or a text, or a key of a mapping. -/
inductive Segment where
  | key (s : String)
  | position (i : Int)
  deriving DecidableEq

namespace Segment

/-- Whether a way from one schema leads to another one, whose address counts then. -/
def leadToSchema (d : Dialect) (target : Value) : List Segment → Bool
  | [] => true
  | .position _ :: _ => false
  | .key s :: rest => match d.role? s with
    | some .schema => leadToSchema d target rest
    | some .items | some .dependencies => target.isMap
    | some .schemas | some .fields => match rest with
      | [] => false
      | _ :: rest => leadToSchema d target rest
    | _ => false

/-- A text with the characters that are written as `%` and two digits, in UTF-8. -/
def percentDecoded (s : List Char) : List Char :=
  characters (bytes s)
where
  bytes : List Char → List (UInt8 ⊕ Char)
    | '%' :: a :: b :: rest => match Text.digitIn? 16 a, Text.digitIn? 16 b with
      | some x, some y => if a.toNat < 128 && b.toNat < 128 then
          .inl (UInt8.ofNat (16 * x + y)) :: bytes rest
        else .inr '%' :: bytes (a :: b :: rest)
      | _, _ => .inr '%' :: bytes (a :: b :: rest)
    | c :: rest => .inr c :: bytes rest
    | [] => []
  /-- A sequence of bytes that is no character becomes a mark of its own. -/
  decoded (run : List UInt8) : List Char :=
    match String.fromUTF8? ⟨run.toArray⟩ with
    | some s => s.toList
    | none => run.map fun b => if b < 128 then Char.ofNat b.toNat else '\uFFFD'
  flushed (run : List UInt8) : List Char := if run.isEmpty then [] else decoded run.reverse
  characters (s : List (UInt8 ⊕ Char)) : List Char :=
    let (done, run) := s.foldl (fun (done, run) part => match part with
      | .inl b => (done, b :: run)
      | .inr c => (done ++ flushed run ++ [c], [])) (([], []) : List Char × List UInt8)
    done ++ flushed run

/-- A key with its escapes replaced: `~1` is a slash, `~0` a tilde. -/
def unescaped (s : List Char) : List Char := tildes (slashes s)
where
  slashes : List Char → List Char
    | '~' :: '1' :: rest => '/' :: slashes rest
    | c :: rest => c :: slashes rest
    | [] => []
  tildes : List Char → List Char
    | '~' :: '0' :: rest => '~' :: tildes rest
    | c :: rest => c :: tildes rest
    | [] => []

/-- The thing at a position, counted from the end if it is negative. -/
def at? {α : Type} (items : List α) (i : Int) : Option α :=
  if i < 0 then (if -i ≤ items.length then items[(items.length + i).toNat]? else none)
  else items[i.toNat]?

/-- The part of a value that a step leads to. -/
def follow (s : List Char) : Value → Except Fault (Segment × Value)
  | .list items => do
    let i ← position
    match at? items i with
    | some v => return (.position i, v)
    | none => throw (.lost .way)
  | .atom (.str text) => do
    let i ← position
    match at? (Text.codes text.toList) i with
    | some n => return (.position i, .str (String.ofList (Text.ofCodePoint n)))
    | none => throw (.lost .way)
  | .map entries =>
    let key := String.ofList (unescaped s)
    match Entries.find? entries key with
    | some v => .ok (.key key, v)
    | none => .error (.lost .way)
  | _ => .error .unfit
where
  position : Except Fault Int :=
    match Text.integerIn? 10 s with
    | some i => .ok i
    | none => .error .badText

end Segment

namespace Library

/-- Follows a way into a document. `since` are the steps from the last schema that was met. -/
def walk (d : Dialect) : List (List Char) → Value → List Segment → Scope → Except Fault Target
  | [], v, _, scope => .ok { document := v, scope }
  | s :: rest, v, since, scope => do
    let (segment, v) ← Segment.follow s v
    let since := since ++ [segment]
    match if Segment.leadToSchema d v since then Resource.id? ⟨v, d⟩ else none with
    | some id => walk d rest v [] (scope.enter id)
    | none => walk d rest v since scope

/-- The outermost schema that has a late name, among those that led here. -/
def outermost (library : Library) (name : String) (found : NamedPart) : List String → NamedPart
  | [] => found
  | base :: outer => match library.part? base name with
    | some part => outermost library name (if part.late then part else found) outer
    | none => outermost library name found outer

/-- What a reference leads to from a place. -/
def lookUp (library : Library) (scope : Scope) (reference : String) : Except Fault Target := do
  let (address, fragment) ←
    if reference.startsWith "#" then pure (scope.base, (reference.drop 1).toString)
    else match (Address.join? scope.base reference).bind Address.split? with
      | some split => pure split
      | none => throw .badText
  let some resource := library.resource? address | throw (.lost .address)
  let scope := scope.moved address
  if fragment.startsWith "/" then
    let way := Address.segments (Segment.percentDecoded (fragment.toList.drop 1))
    walk resource.dialect way resource.document [] scope
  else if fragment.isEmpty then return { document := resource.document, scope }
  else match library.part? address fragment with
    | none => throw (.lost (.name (fragment.toList.contains '/')))
    | some part =>
      if part.late then
        let last := library.outermost fragment part scope.outer
        return {
          document := last.resource.document
          scope := match Resource.id? last.resource with
            | some id => scope.enter id
            | none => scope }
      else return { document := part.resource.document, scope }

/-- Whether a document is one that the outermost schema like it stands for. -/
def isRecursive (v : Value) : Bool :=
  (v.entries?.bind (Entries.find? · "$recursiveAnchor")).any fun w => !w.isEmpty

/-- Steps out of the schemas that led to a place, as long as they stand for the outermost one. -/
def stepOut (library : Library) (scope : Scope) (found : Target) :
    List String → Except Fault Target
  | [] => .ok found
  | base :: outer => do
    let next ← library.lookUp scope base
    if isRecursive next.document then stepOut library scope next outer else return found

/-- What the outermost schema is that a place can stand for. -/
def lookUpOutermost (library : Library) (scope : Scope) : Except Fault Target := do
  let found ← library.lookUp scope "#"
  if isRecursive found.document then library.stepOut scope found scope.outer else return found

/-- What a link leads to. -/
def target (library : Library) (scope : Scope) (link : Link) : Except Fault Target :=
  match link.target with
  | some reference => library.lookUp scope reference
  | none => library.lookUpOutermost scope

/-- A schema that a reference does not find, when a value is held against it. -/
def asCheck (link : Link) : Fault → Fault
  | .lost loss => if link.target.isSome then .noTarget else .lost loss
  | fault => fault

/-- References looked up in a library, so many of them one in the other. -/
def surroundings (library : Library) (checksPatterns : Bool) : Nat → Surroundings
  | 0 => {
      checksPatterns
      follow := fun _ _ _ => .broken .endless
      followCovered := fun _ _ _ => .error .endless }
  | depth + 1 =>
    let inside := surroundings library checksPatterns depth
    { checksPatterns
      follow := fun scope link v =>
        .ofAnswer ((library.target scope link).mapError (asCheck link)) fun target =>
          check inside target.scope (read link.dialect target.document).bare v
      followCovered := fun scope link v => do
        let target ← library.target scope link
        covered inside target.scope (read link.dialect target.document).bare v }

/-- How many references can be followed one in the other. -/
def depth : Nat := 245

/-- What in a value goes against a document of a library. -/
def check (library : Library) (checksPatterns : Bool) (r : Resource) (v : Value) : Report :=
  Schema.check (surroundings (library.withRoot r) checksPatterns depth)
    { base := rootAddress r } (read r.dialect r.document).bare v

end Library

end FlowTemplate.Schema
