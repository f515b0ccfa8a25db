import FlowTemplate.Document.Value
/-!
# Intrinsics in a definition

An intrinsic is a mapping with a key `Ref` or `Fn::…`. Such mappings mean nothing inside the text of
a definition, so each outermost one is replaced by a placeholder `${name}` and kept beside the
changed tree. Lists are visited by index and mappings in key order; an intrinsic is replaced as a
whole.
-/

namespace FlowTemplate.Intrinsic

/-- Whether a key marks its mapping as an intrinsic. -/
def isMarker : Atom → Bool
  | .str s => s == "Ref" || s.startsWith "Fn::"
  | _ => false

/-- Whether a value is an intrinsic. -/
def isIntrinsic : Value → Bool
  | .map entries => entries.any fun (k, _) => isMarker k
  | _ => false

/-- The text that a parameter is substituted for. -/
def placeholder (token : String) : String := "$\x7b" ++ token ++ "\x7d"

/-- A name and the intrinsic it stands for. -/
abbrev Parameter := String × Value

/-- A generator of names: a name or a failure, and the state it is left in. -/
abbrev Generator (σ ε : Type) := σ → Except ε String × σ

/-- Draws one name. -/
def Generator.draw {σ ε : Type} (next : Generator σ ε) : ExceptT ε (StateM σ) String :=
  fun state => next state

mutual

/-- The tree with its outermost intrinsics replaced, and the parameters in the order in which the
names were drawn. -/
def extract {σ ε : Type} (next : Generator σ ε) :
    Value → ExceptT ε (StateM σ) (Value × List Parameter)
  | .atom a => pure (.atom a, [])
  | .tuple items => pure (.tuple items, [])
  | .set members => pure (.set members, [])
  | .anchored n v => pure (.anchored n v, [])
  | .again n => pure (.again n, [])
  | .list items => do
    let (items, parameters) ← extractItems next items
    return (.list items, parameters)
  | .map entries =>
    if isIntrinsic (.map entries) then do
      let token ← next.draw
      return (.str (placeholder token), [(token, .map entries)])
    else do
      let (entries, parameters) ← extractEntries next entries
      return (.map entries, parameters)

def extractItems {σ ε : Type} (next : Generator σ ε) :
    List Value → ExceptT ε (StateM σ) (List Value × List Parameter)
  | [] => pure ([], [])
  | v :: rest => do
    let (v, here) ← extract next v
    let (rest, after) ← extractItems next rest
    return (v :: rest, here ++ after)

def extractEntries {σ ε : Type} (next : Generator σ ε) :
    List (Atom × Value) → ExceptT ε (StateM σ) (List (Atom × Value) × List Parameter)
  | [] => pure ([], [])
  | (k, v) :: rest => do
    let (v, here) ← extract next v
    let (rest, after) ← extractEntries next rest
    return ((k, v) :: rest, here ++ after)

end

mutual

/-- The outermost intrinsics of a tree, in the order in which it is read. -/
def outermost : Value → List Value
  | .list items => outermostItems items
  | .map entries =>
    if isIntrinsic (.map entries) then [.map entries] else outermostEntries entries
  | _ => []

def outermostItems : List Value → List Value
  | [] => []
  | v :: rest => outermost v ++ outermostItems rest

def outermostEntries : List (Atom × Value) → List Value
  | [] => []
  | (_, v) :: rest => outermost v ++ outermostEntries rest

end

end FlowTemplate.Intrinsic
