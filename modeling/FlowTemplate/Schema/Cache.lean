import FlowTemplate.Json.Printer
import FlowTemplate.Schema.Standard.Library
/-!
# Schema cache

Schemas that have been read are kept under a key: a name given to them, or else their text with
sorted keys. A key that is present is not read again, so under a name the first schema stays. A
document that is no schema leaves no trace.
-/

namespace FlowTemplate.Schema

mutual

/-- A value with the entries of every mapping in it sorted by key. -/
def sorted : Value → Value
  | .list items => .list (sortedItems items)
  | .map entries => .map ((sortedEntries entries).mergeSort fun a b => keyLe a.1 b.1)
  | v => v

def sortedItems : List Value → List Value
  | [] => []
  | v :: rest => sorted v :: sortedItems rest

def sortedEntries : List (Atom × Value) → List (Atom × Value)
  | [] => []
  | (k, v) :: rest => (k, sorted v) :: sortedEntries rest

end

/-- Schemas by key. -/
abbrev Cache := List (String × Resource)

/-- The key of a schema document: its name, unless that is empty. -/
def cacheKey (name : String) (document : Value) : String :=
  if name.isEmpty then ((sorted document).json? Json.tightAsciiLine).getD "" else name

/-- The dialect of a document. -/
def rootDialect : Value → Except Fault Dialect
  | .map entries => dialectOf .draft2020 entries
  | .list items => if items.contains (.str "$schema") then .error .unfit else .ok .draft2020
  | .atom (.str s) =>
    if (s.splitOn "$schema").length > 1 then .error .unfit else .ok .draft2020
  | .atom (.bool _) => .ok .draft2020
  | _ => .error .unfit

/-- A document as a schema, if it is well formed in its dialect. -/
def resourceOf (document : Value) : Except Fault Resource := do
  let dialect ← rootDialect document
  if ← (Standard.check dialect document).isClean then return { document, dialect }
  else throw .notSchema

/-- The schema under a key, read from the document if the key is new. -/
def Cache.fetch (cache : Cache) (name : String) (document : Value) :
    Except Fault Resource × Cache :=
  let key := cacheKey name document
  match cache.lookup key with
  | some resource => (.ok resource, cache)
  | none => match resourceOf document with
    | .ok resource => (.ok resource, cache ++ [(key, resource)])
    | .error fault => (.error fault, cache)

/-- The report of a value under a schema document, and the cache afterwards. -/
def Cache.report (cache : Cache) (name : String) (document : Value) (root : String) (v : Value) :
    Except Fault (List String) × Cache :=
  let (result, cache) := cache.fetch name document
  (result.bind fun resource =>
    (Standard.library.check false resource v).violations?.map (lines root), cache)

end FlowTemplate.Schema
