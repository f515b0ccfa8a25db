import FlowTemplate.Document.Literal
import FlowTemplate.Record.Issue
/-!
# Reading records

A record is read from a mapping field by field, and all faults are gathered, not only the first. A
field has an alias, which is looked for first, and a name.
-/

namespace FlowTemplate.Record

/-- A value that was read, or everything that is wrong with it. -/
abbrev Checked (α : Type) := Except (List Issue) α

namespace Checked

/-- Two readings side by side; the faults of both are kept. -/
def and {α β : Type} : Checked α → Checked β → Checked (α × β)
  | .ok a, .ok b => .ok (a, b)
  | .error e, .ok _ => .error e
  | .ok _, .error f => .error f
  | .error e, .error f => .error (e ++ f)

/-- A reading whose faults lie below a step. -/
def under {α : Type} (step : String) : Checked α → Checked α
  | .ok a => .ok a
  | .error e => .error (e.map (·.under step))

/-- Readings one after the other, keeping the faults of all. -/
def all {α : Type} : List (Checked α) → Checked (List α)
  | [] => .ok []
  | c :: rest => match c.and (all rest) with
    | .ok (a, as) => .ok (a :: as)
    | .error e => .error e

end Checked

def refuse {α : Type} (rule : Rule) : Checked α := .error [⟨[], rule⟩]

/-- A text, or the bytes of one. -/
def textAtom : Atom → Checked String
  | .str s => .ok s
  | .bytes data => match Text.ofBytes? data with
    | some s => .ok s
    | none => refuse .textEncoding
  | _ => refuse .text

def text : Value → Checked String
  | .atom a => textAtom a
  | _ => refuse .text

/-- A text, or null for none. -/
def optionalText : Value → Checked (Option String)
  | .atom .null => .ok none
  | v => (text v).map some

/-- Items that are all read alike. -/
def itemsOf {α : Type} (item : Value → Checked α) (items : List Value) : Checked (List α) :=
  Checked.all (items.mapIdx fun i v => (item v).under (toString i))

/-- A list whose items are all read alike; tuples and sets count as lists. -/
def listOf {α : Type} (item : Value → Checked α) (v : Value) : Checked (List α) :=
  match v.bare with
  | .list items | .tuple items => itemsOf item items
  | .set members => itemsOf item (members.map .atom)
  | _ => refuse .list

/-- The step of a place that leads to the value under a key. Truth values count as numbers. -/
def keyStep : Atom → String
  | .str s => s
  | .bool b => if b then "1" else "0"
  | k => Literal.atom k

/-- One entry of a mapping with text keys. A key that is no text is a fault of its own. -/
def entry {α : Type} (value : Value → Checked α) (k : Atom) (v : Value) :
    Checked (String × α) :=
  let key := keyStep k
  Checked.and (((textAtom k).under "[key]").under key) (Checked.under key (value v))

/-- Puts something under a text: in place if the text is there, at the end if not. -/
def put {α : Type} (s : String) (a : α) : List (String × α) → List (String × α)
  | [] => [(s, a)]
  | (t, b) :: rest => if s == t then (t, a) :: rest else (t, b) :: put s a rest

/-- Entries with each text once: in its first place, with what it has last. A text and its bytes are
one key when they have been read. -/
def withoutRepeats {α : Type} (pairs : List (String × α)) : List (String × α) :=
  pairs.foldl (fun done (s, a) => put s a done) []

/-- A mapping with text keys whose values are all read alike. -/
def mappingOf {α : Type} (value : Value → Checked α) (v : Value) :
    Checked (List (String × α)) :=
  match v.entries? with
  | some entries =>
    (Checked.all (entries.map fun (k, v) => entry value k v)).map withoutRepeats
  | none => refuse .mapping

/-- A mapping with text keys and any values. -/
def mapping : Value → Checked (List (String × Value)) := mappingOf .ok

/-- The two ways to refer to a field. -/
structure Field where
  name : String
  written : String

/-- The key under which a mapping holds a field. -/
def Field.keyIn? (f : Field) (entries : Entries) : Option String :=
  if entries.contains f.written then some f.written
  else if entries.contains f.name then some f.name
  else none

/-- A field of a mapping; without a default it must be there. -/
def Field.read {α : Type} (f : Field) (entries : Entries) (default : Option α)
    (value : Value → Checked α) : Checked α :=
  match f.keyIn? entries with
  | some key => (value ((entries.find? key).getD .null)).under key
  | none => match default with
    | some a => .ok a
    | none => .error [⟨[f.written], .missing⟩]

/-- A fault for every key that holds none of the fields. -/
def noOthers (fields : List Field) (entries : Entries) : Checked Unit :=
  let used := fields.filterMap (·.keyIn? entries)
  let others := entries.filterMap fun (k, _) =>
    if used.any fun key => k == .str key then none
    else some (Issue.mk [Literal.displayAtom k] .extra)
  if others.isEmpty then .ok () else .error others

/-- What is read from the fields of a mapping that may hold no other keys. A key with half of a
surrogate pair is the only fault that is then told. -/
def Checked.alone {α : Type} (fields : List Field) (entries : Entries) (read : Checked α) :
    Checked α :=
  if entries.any fun (k, _) => (Text.plain? (Literal.displayAtom k)).isNone then
    refuse .textEncoding
  else (read.and (noOthers fields entries)).map (·.1)

/-- The mapping a record is read from. -/
def fieldsOf (v : Value) : Checked Entries :=
  match v.entries? with
  | some entries => .ok entries
  | none => refuse .record

end FlowTemplate.Record
