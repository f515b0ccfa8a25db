import FlowTemplate.Document.Sharing
import FlowTemplate.Yaml.ScalarValue
import FlowTemplate.Yaml.ShortForm
/-!
# The value of a node

Collections are read level by level from the root, so of several faults the one nearest to the root
counts, and at one level the first. What is under a short form is read at once, at the level of the
short form; a node there cannot hold itself. Containers that have numbers in the document keep them.
-/

namespace FlowTemplate.Yaml

/-- A fault and the level it is met at, if it does not show only when all levels have been read. -/
structure Trouble where
  fault : Fault
  level : Option Nat
  deriving DecidableEq

/-- Whether a trouble is met before another. -/
def Trouble.precedes (a b : Trouble) : Bool :=
  match a.level, b.level with
  | some m, some n => decide (m < n)
  | some _, none => true
  | none, _ => false

/-- A value without end, which shows when all levels have been read. -/
def Trouble.late : Trouble := ⟨.endless, none⟩

abbrev Meaning (α : Type) := Except Trouble α

namespace Meaning

/-- Two meanings side by side; of two troubles the one that is met first. -/
def and {α β : Type} : Meaning α → Meaning β → Meaning (α × β)
  | .ok a, .ok b => .ok (a, b)
  | .error e, .ok _ => .error e
  | .ok _, .error f => .error f
  | .error e, .error f => .error (if f.precedes e then f else e)

end Meaning

/-- Where a node is met. -/
structure Depth where
  level : Nat := 0
  /-- Whether the node is read at once with one around it. -/
  atOnce : Bool := false
  /-- The numbers of the node itself. -/
  own : List Nat := []
  /-- The numbers of the node that it is a part of. -/
  holder : List Nat := []
  /-- The numbers of the nodes around it that are read at once and not finished. -/
  pending : List Nat := []
  /-- The numbers of nodes that are keys and count as texts from now on. -/
  texts : List Nat := []
  /-- The numbers of the lists around the node. -/
  lists : List Nat := []
  /-- For each mapping with one entry around the node, by number: its key, and the number of its
  value. -/
  lone : List (Nat × Meaning Value × Nat) := []
  /-- For each mapping that is being merged or merged into, by number: the entries that it states
  itself. -/
  stated : List (Nat × Meaning (List (Atom × Value))) := []

namespace Depth

def trouble {α : Type} (d : Depth) (fault : Fault) : Meaning α := .error ⟨fault, some d.level⟩

/-- The place of a node whose number was read. -/
def numbered (d : Depth) (number : Nat) : Depth := { d with own := number :: d.own }

/-- The place of a list. -/
def list (d : Depth) : Depth := { d with lists := d.own ++ d.lists }

/-- Where the parts of the argument of a short form are met. -/
def atOnceInside (d : Depth) : Depth :=
  { d with atOnce := true, pending := d.own ++ d.pending, holder := d.own, own := [] }

/-- Where the parts of a merged mapping are met: at the place of the one they are merged into. -/
def merging (d : Depth) : Depth := { d with holder := d.own, own := [] }

/-- The place of merges into a mapping that states some entries itself. -/
def stating (d : Depth) (entries : Meaning (List (Atom × Value))) : Depth :=
  { d with stated := d.holder.map (·, entries) ++ d.stated }

/-- Where the parts of a collection are met. -/
def inside (d : Depth) : Depth :=
  if d.atOnce then d.atOnceInside else { d with level := d.level + 1, holder := d.own, own := [] }

end Depth

namespace Node

/-- The text of a scalar, or of the value that stands for a mapping with some numbers. -/
def scalarText (own : List Nat) : Node → Except Fault String
  | .scalar _ text => .ok text
  | .anchored n node => scalarText (n :: own) node
  | .mapping _ entries => standIn own entries
  | .again n => .error (if own.contains n then .endless else .malformed)
  | .sequence .. => .error .malformed
where
  /-- The text under the first key that stands for the mapping. -/
  standIn (own : List Nat) : List (Node × Node) → Except Fault String
    | [] => .error .malformed
    | (k, v) :: rest => if k.tag == .value then scalarText own v else standIn own rest

/-- A collection under a tag for scalars, as the text that stands for it. -/
def standInAtom (d : Depth) (tag : NodeTag) (node : Node) : Meaning Value :=
  match scalarText d.own node with
  | .error fault => d.trouble fault
  | .ok text =>
    if tag == .timestamp then d.trouble .wrappedTimestamp
    else match tag.atom text with
      | .ok a => .ok (.atom a)
      | .error fault => d.trouble fault

/-- The numbers of a node itself. -/
def ownNumbers : Node → List Nat
  | .anchored n node => n :: ownNumbers node
  | _ => []

mutual

/-- The numbers of the keys that would stand for a mapping or for one that is merged into it. -/
def standInNumbers : List (Node × Node) → List Nat
  | [] => []
  | (k, v) :: rest =>
    (if k.tag == .value then ownNumbers k else if k.tag == .merge then sourceNumbers v else [])
      ++ standInNumbers rest

def sourceNumbers : Node → List Nat
  | .anchored _ node => sourceNumbers node
  | .mapping _ entries => standInNumbers entries
  | .sequence _ items => sourcesNumbers items
  | _ => []

def sourcesNumbers : List Node → List Nat
  | [] => []
  | node :: rest => sourceNumbers node ++ sourcesNumbers rest

end

mutual

/-- Whether the merges into a mapping are wrong: only mappings and lists of them are merged. Some
numbers are those of lists around this place. -/
def badMerge (lists : List Nat) : List (Node × Node) → Bool
  | [] => false
  | (k, v) :: rest => (k.tag == .merge && badSource lists v) || badMerge lists rest

/-- Whether a node cannot be merged. -/
def badSource (lists : List Nat) : Node → Bool
  | .anchored n node => badSource (n :: lists) node
  | .mapping _ entries => badMerge lists entries
  | .sequence _ items => badSources lists items
  | .again _ => false
  | .scalar _ _ => true

/-- Whether one of the nodes of a list cannot be merged. -/
def badSources (lists : List Nat) : List Node → Bool
  | [] => false
  | node :: rest =>
    (match node.bare with
      | .mapping .. => badSource lists node
      | .again n => lists.contains n
      | _ => true) || badSources lists rest

end

/-- A value as a key: only values without parts can be one, which shows before the parts are read. -/
def keyOf (d : Depth) : Meaning Value → Meaning Atom
  | .ok (.atom a) => .ok a
  | .ok _ => d.trouble .malformed
  | .error e =>
    if Trouble.precedes ⟨.malformed, some d.level⟩ e then d.trouble .malformed else .error e

/-- The entries of a mapping: those that are merged into it, then its own. A repeated key keeps its
first place and its last value. -/
def joined (merged own : Meaning (List (Atom × Value))) : Meaning Entries :=
  (merged.and own).map fun (merged, own) => Entries.ofPairs (merged ++ own)

mutual

/-- The value of a node. -/
def valueAt (d : Depth) : Node → Meaning Value
  | .anchored n node => (valueAt (d.numbered n) node).map (Value.numbered n)
  | .again n => if d.pending.contains n then d.trouble .malformed else .ok (.again n)
  | .scalar tag text =>
    match tag with
    | .shortForm name => .ok (ShortForm.wrap name (ShortForm.textArgument name text))
    | .list | .map | .orderedMap | .pairs | .set => d.inside.trouble .malformed
    | .value =>
      if d.own.any d.texts.contains then .ok (.atom (.str text)) else d.trouble .malformed
    | tag => match tag.atom text with
      | .ok a => .ok (.atom a)
      | .error fault => d.trouble fault
  | .sequence tag items =>
    match tag with
    | .shortForm name =>
      (itemsAt d.list.atOnceInside items).map fun items => ShortForm.wrap name (.list items)
    | .list => (itemsAt d.list.inside items).map .list
    | .orderedMap | .pairs => (pairsAt d.list.inside items).map .list
    | .map | .set => d.inside.trouble .malformed
    | _ => d.trouble .malformed
  | .mapping tag entries =>
    match tag with
    | .shortForm name =>
      (entriesAt d.atOnceInside entries).map fun entries => ShortForm.wrap name (.map entries)
    | .map => (entriesAt d.inside entries).map .map
    | .set => (entriesAt d.inside entries).map fun entries => .set entries.keys
    | .list | .orderedMap | .pairs => d.inside.trouble .malformed
    | .merge | .value | .unknown => d.trouble .malformed
    | tag => standInAtom d tag (.mapping tag entries)

def itemsAt (d : Depth) : List Node → Meaning (List Value)
  | [] => .ok []
  | node :: rest => ((valueAt d node).and (itemsAt d rest)).map fun (v, vs) => v :: vs

/-- Mappings with one entry each, as pairs. -/
def pairsAt (d : Depth) : List Node → Meaning (List Value)
  | [] => .ok []
  | node :: rest => ((pairAt d node).and (pairsAt d rest)).map fun (v, vs) => v :: vs

def pairAt (d : Depth) : Node → Meaning Value
  | .anchored _ node => pairAt d node
  | .again n => match d.lone.lookup n with
    | some (key, number) =>
      if d.pending.contains number then d.trouble .malformed
      else key.map fun key => .tuple [key, .again number]
    | none => d.trouble .malformed
  | .mapping _ [(k, v)] => ((valueAt d k).and (valueAt d v)).map fun (k, v) => .tuple [k, v]
  | _ => d.trouble .malformed

/-- The entries of a mapping and those merged into it. Whether they can be merged shows first. -/
def entriesAt (d : Depth) (entries : List (Node × Node)) : Meaning Entries :=
  if badMerge d.lists entries then d.trouble .malformed
  else
    let d := { d with texts := standInNumbers entries ++ d.texts }
    let d := { d with lone := loneAt d entries ++ d.lone }
    let own := ownAt d entries
    joined (mergedAt (d.stating own) entries) own

/-- What is remembered of a mapping with one entry while its parts are read. -/
def loneAt (d : Depth) : List (Node × Node) → List (Nat × Meaning Value × Nat)
  | [(k, .anchored number _)] =>
    let key := valueAt d k
    d.holder.map fun holder => (holder, key, number)
  | _ => []

/-- The entries that are merged into a mapping. -/
def mergedAt (d : Depth) : List (Node × Node) → Meaning (List (Atom × Value))
  | [] => .ok []
  | (k, v) :: rest =>
    if k.tag == .merge then
      ((sourceAt d v).and (mergedAt d rest)).map fun (es, fs) => es ++ fs
    else mergedAt d rest

/-- The entries that a mapping states itself. A key that would stand for the mapping is a text. -/
def ownAt (d : Depth) : List (Node × Node) → Meaning (List (Atom × Value))
  | [] => .ok []
  | (k, v) :: rest =>
    if k.tag == .merge then ownAt d rest
    else
      let key : Meaning Atom :=
        if k.tag == .value then keyOf d (standInAtom d .str k) else keyOf d (valueAt d k)
      ((key.and (valueAt d v)).and (ownAt d rest)).map fun ((k, v), rest) => (k, v) :: rest

/-- The entries that a merged node yields: a mapping its own, a sequence of mappings those of all,
the first last so that they count. A mapping merged into itself yields what it states; merging one
around it makes a value without end. -/
def sourceAt (d : Depth) : Node → Meaning (List (Atom × Value))
  | .anchored n node => sourceAt (d.numbered n) node
  | .mapping _ entries =>
    let own := ownAt d.merging entries
    joined (mergedAt (d.merging.stating own) entries) own
  | .sequence _ items => sourcesAt d.merging items
  | .again n => (d.stated.lookup n).getD (.error .late)
  | .scalar _ _ => d.trouble .malformed

def sourcesAt (d : Depth) : List Node → Meaning (List (Atom × Value))
  | [] => .ok []
  | node :: rest =>
    ((sourceAt d node).and (sourcesAt d rest)).map fun (es, fs) => fs ++ es

end

/-- The value of a node with the numbers of its containers, or the fault that is met first. -/
def numberedValue (node : Node) : Except Fault Value :=
  (valueAt {} node).mapError (·.fault)

/-- The value of a node. Only containers that hold themselves have numbers. -/
def value (node : Node) : Except Fault Value := node.numberedValue.map Value.unrolled

end Node

end FlowTemplate.Yaml
