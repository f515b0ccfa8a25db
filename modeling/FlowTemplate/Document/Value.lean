import FlowTemplate.Document.Atom
/-!
# Document values

What a JSON or YAML document holds. A mapping is a list of entries in the order of their first
appearance; putting a value under a key that is present keeps the place of the key. Sets and
tuples arise from YAML tags only.

A YAML document can hold one container in several places, and even within itself. Such a container
has a number wherever it stands. One that holds itself is written out to some depth; further inside
only the number stands for it.
-/

namespace FlowTemplate

inductive Value where
  | atom (a : Atom)
  | list (items : List Value)
  | tuple (items : List Value)
  | set (members : List Atom)
  | map (entries : List (Atom × Value))
  /-- A container that has a number. -/
  | anchored (number : Nat) (v : Value)
  /-- The container of a number, inside itself. -/
  | again (number : Nat)
  deriving Inhabited

/-- The entries of a mapping. -/
abbrev Entries := List (Atom × Value)

namespace Value

abbrev null : Value := .atom .null
abbrev bool (b : Bool) : Value := .atom (.bool b)
abbrev int (i : Int) : Value := .atom (.int i)
abbrev str (s : String) : Value := .atom (.str s)

/-- A mapping with one text key. -/
abbrev single (key : String) (v : Value) : Value := .map [(.str key, v)]

/-- A mapping with text keys. -/
def object (entries : List (String × Value)) : Value :=
  .map (entries.map fun (k, v) => (.str k, v))

/-- A list of texts. -/
def strings (texts : List String) : Value := .list (texts.map .str)

mutual

/-- Equality of values as they are written: `1` and `1.0` differ, and so does the order of keys. -/
def beq : Value → Value → Bool
  | .atom a, .atom b => a == b
  | .list xs, .list ys => beqItems xs ys
  | .tuple xs, .tuple ys => beqItems xs ys
  | .set xs, .set ys => xs == ys
  | .map xs, .map ys => beqEntries xs ys
  | .anchored m v, .anchored n w => m == n && beq v w
  | .again m, .again n => m == n
  | _, _ => false

def beqItems : List Value → List Value → Bool
  | [], [] => true
  | x :: xs, y :: ys => beq x y && beqItems xs ys
  | _, _ => false

def beqEntries : List (Atom × Value) → List (Atom × Value) → Bool
  | [], [] => true
  | (k, x) :: xs, (l, y) :: ys => k == l && (beq x y && beqEntries xs ys)
  | _, _ => false

end

mutual

theorem beq_iff (v w : Value) : v.beq w = true ↔ v = w := by
  cases v <;> cases w <;> simp [beq, beqItems_iff, beqEntries_iff, beq_iff]

theorem beqItems_iff (xs ys : List Value) : beqItems xs ys = true ↔ xs = ys := by
  cases xs <;> cases ys <;> simp [beqItems, beq_iff, beqItems_iff]

theorem beqEntries_iff (xs ys : List (Atom × Value)) : beqEntries xs ys = true ↔ xs = ys := by
  match xs, ys with
  | [], [] | [], _ :: _ | _ :: _, [] => simp [beqEntries]
  | (k, x) :: xs, (l, y) :: ys =>
    simp [beqEntries, beq_iff x y, beqEntries_iff xs ys, and_assoc]

end

instance : DecidableEq Value := fun v w =>
  if h : v.beq w = true then isTrue ((beq_iff v w).1 h)
  else isFalse fun e => h ((beq_iff v w).2 e)

/-- Whether a value is null, false, zero or has nothing in it. -/
def isEmpty : Value → Bool
  | .atom a => a.isEmpty
  | .list items | .tuple items => items.isEmpty
  | .set members => members.isEmpty
  | .map entries => entries.isEmpty
  | .anchored _ v => v.isEmpty
  | .again _ => false

/-- A value without the numbers before it. -/
def bare : Value → Value
  | .anchored _ v => v.bare
  | v => v

/-- The entries of a mapping. -/
def entries? (v : Value) : Option Entries :=
  match v.bare with
  | .map entries => some entries
  | _ => none

def str? : Value → Option String
  | .atom (.str s) => some s
  | _ => none

def isMap (v : Value) : Bool := v.entries?.isSome

end Value

namespace Entries

/-- The value under a key. -/
def get? (entries : Entries) (key : Atom) : Option Value :=
  match entries with
  | [] => none
  | (k, v) :: rest => if k.sameKey key then some v else get? rest key

/-- The value under a text key. -/
def find? (entries : Entries) (key : String) : Option Value := entries.get? (.str key)

def contains (entries : Entries) (key : String) : Bool := (entries.find? key).isSome

/-- Puts a value under a key: in place if the key is there, at the end if not. -/
def insert (entries : Entries) (key : Atom) (v : Value) : Entries :=
  match entries with
  | [] => [(key, v)]
  | (k, w) :: rest => if k.sameKey key then (k, v) :: rest else (k, w) :: insert rest key v

/-- The entries without the one under a text key. -/
def erase (entries : Entries) (key : String) : Entries :=
  entries.filter fun (k, _) => !k.sameKey (.str key)

def keys (entries : Entries) : List Atom := entries.map (·.1)

/-- Entries written one after the other: a repeated key keeps its first place and its last
value. -/
def ofPairs (pairs : List (Atom × Value)) : Entries :=
  pairs.foldl (fun entries (k, v) => entries.insert k v) []

end Entries

namespace Value

mutual

/-- The values that JSON text can express: texts, numbers, truth values, null, lists, and mappings
with text keys. -/
def isTree : Value → Bool
  | .atom a => match a with
    | .bytes _ | .time _ => false
    | _ => true
  | .list items => treeItems items
  | .tuple _ | .set _ | .anchored .. | .again _ => false
  | .map entries => treeEntries entries

def treeItems : List Value → Bool
  | [] => true
  | v :: rest => isTree v && treeItems rest

def treeEntries : List (Atom × Value) → Bool
  | [] => true
  | (k, v) :: rest => (match k with | .str _ => true | _ => false) && (isTree v && treeEntries rest)

end

end Value

end FlowTemplate
