import FlowTemplate.Yaml.Node
import FlowTemplate.Yaml.TokenStream
/-!
# From tokens to nodes

A document is read from its tokens by descent, one reader for each construct. Anchors are known
from where they stand until the document ends, and no name may stand twice.
-/

namespace FlowTemplate.Yaml

/-- What an anchor names: a node that was read, or the number of one around this place. -/
inductive Anchored where
  | read (node : Node)
  | around (number : Nat)

/-- The tokens that are left and what was declared before them. -/
structure Progress where
  tokens : List Token
  /-- What goes wrong when more tokens are asked for than there are. -/
  ending : Fault
  handles : List (String × String) := []
  anchors : List (String × Anchored) := []
  /-- How many numbers have been given to nodes. -/
  numbered : Nat := 0

abbrev NodeReader (α : Type) := StateT Progress (Except Fault) α

namespace NodeReader

/-- The next token, which stays. -/
def peek : NodeReader Token := fun p =>
  match p.tokens with
  | t :: _ => .ok (t, p)
  | [] => .error p.ending

def drop : NodeReader Unit := modify fun p => { p with tokens := p.tokens.tail }

/-- Whether the next token is one of the given ones. -/
def nextIn (tokens : List Token) : NodeReader Bool := do return tokens.contains (← peek)

/-- Takes a token that must be next. -/
def expect (t : Token) : NodeReader Unit := do
  if (← peek) == t then drop else throw .malformed

/-- Takes a token if it is next, and tells whether it was. -/
def takeIf (t : Token) : NodeReader Bool := do
  if (← peek) == t then
    drop
    return true
  else return false

/-- The full text of a tag. -/
def resolveTag (t : WrittenTag) : NodeReader String := do
  match t.handle with
  | none => return t.suffix
  | some handle => match (← get).handles.lookup handle with
    | some meaning => return meaning ++ t.suffix
    | none => throw .malformed

/-- The anchor and the tag before a node, in either order. -/
def readProperties : NodeReader (Option String × Option String) := do
  let anchor? : NodeReader (Option String) := do
    match ← peek with
    | .anchor name => do drop; return some name
    | _ => return none
  let tag? : NodeReader (Option WrittenTag) := do
    match ← peek with
    | .tag t => do drop; return some t
    | _ => return none
  let first ← anchor?
  let tag ← tag?
  let anchor ← if first.isNone && tag.isSome then anchor? else pure first
  match tag with
  | some t => return (anchor, some (← resolveTag t))
  | none => return (anchor, none)

/-- Declares an anchor; its name must be new. -/
def declare (anchor : Option String) (what : Anchored) : NodeReader Unit := do
  match anchor with
  | none => return ()
  | some name =>
    if ((← get).anchors.lookup name).isSome then throw .malformed
    modify fun p => { p with anchors := (name, what) :: p.anchors }

/-- Puts a node that was read in the place of a declared anchor. -/
def settle (anchor : Option String) (node : Node) : NodeReader Node := do
  match anchor with
  | none => return node
  | some name =>
    modify fun p => { p with
      anchors := (name, .read node) :: p.anchors.filter (·.1 != name) }
    return node

/-- The node an alias stands for. -/
def resolveAlias (name : String) : NodeReader Node := do
  match (← get).anchors.lookup name with
  | some (.read node) => return node
  | some (.around number) => return .again number
  | none => throw .malformed

/-- A number for the node at this place, if it has an anchor or lies in a node that has one. -/
def number (anchor : Option String) (within : Bool) : NodeReader (Option Nat) := do
  if anchor.isSome || within then
    let next := (← get).numbered
    modify fun p => { p with numbered := next + 1 }
    return some next
  else return none

/-- A node with its number, if it has one. -/
def numberedNode : Option Nat → Node → Node
  | some n, node => .anchored n node
  | none, node => node

/-- Declares that an anchor names the node around what comes next. -/
def declareAround (anchor : Option String) (number : Option Nat) : NodeReader Unit := do
  match number with
  | some n => declare anchor (.around n)
  | none => return ()

/-- The tag of a scalar. A lone exclamation mark has its text read as if it were plain. -/
def scalarTag (written : Option String) (plain : Bool) (text : String) : NodeTag :=
  match written with
  | none => if plain then .ofPlain text else .str
  | some "!" => .ofPlain text
  | some t => .ofString t

/-- The tag of a sequence or a mapping. -/
def collectionTag (written : Option String) (default : NodeTag) : NodeTag :=
  match written with
  | none | some "!" => default
  | some t => .ofString t

/-- How a place limits the nodes that can stand there. -/
inductive Place where
  /-- Within brackets. -/
  | flow
  | block
  /-- The value of a block mapping, where a sequence needs no indentation. -/
  | blockValue
  deriving DecidableEq

mutual

/-- A node; `within` tells whether it lies in one that has a number. -/
def readNode (within : Bool) (place : Place) : (fuel : Nat) → NodeReader Node
  | 0 => throw .malformed
  | fuel + 1 => do
    match ← peek with
    | .alias name => do drop; resolveAlias name
    | _ => do
      let (anchor, written) ← readProperties
      let n ← number anchor within
      match ← peek with
      | .scalar text plain => do
        drop
        let node := numberedNode n (.scalar (scalarTag written plain text) text)
        declare anchor (.read node)
        return node
      | .flowSequenceStart => do
        drop
        declareAround anchor n
        let items ← readFlowItems n.isSome true fuel
        settle anchor (numberedNode n (.sequence (collectionTag written .list) items))
      | .flowMappingStart => do
        drop
        declareAround anchor n
        let entries ← readFlowEntries n.isSome true fuel
        settle anchor (numberedNode n (.mapping (collectionTag written .map) entries))
      | t =>
        if t == .blockSequenceStart && place != .flow then do
          drop
          declareAround anchor n
          let items ← readBlockItems n.isSome fuel
          settle anchor (numberedNode n (.sequence (collectionTag written .list) items))
        else if t == .blockMappingStart && place != .flow then do
          drop
          declareAround anchor n
          let entries ← readBlockEntries n.isSome fuel
          settle anchor (numberedNode n (.mapping (collectionTag written .map) entries))
        else if t == .blockEntry && place == .blockValue then do
          declareAround anchor n
          let items ← readLooseItems n.isSome fuel
          settle anchor (numberedNode n (.sequence (collectionTag written .list) items))
        else if anchor.isSome || written.isSome then do
          let node := numberedNode n (.scalar (scalarTag written true "") "")
          declare anchor (.read node)
          return node
        else throw .malformed
termination_by structural fuel => fuel

/-- A node, unless one of the given tokens shows that it was left out. -/
def readNodeBefore (stops : List Token) (within : Bool) (place : Place) :
    (fuel : Nat) → NodeReader Node
  | 0 => throw .malformed
  | fuel + 1 => do
    if ← nextIn stops then return .empty else readNode within place fuel
termination_by structural fuel => fuel

/-- The items of a block sequence and its end. -/
def readBlockItems (within : Bool) : (fuel : Nat) → NodeReader (List Node)
  | 0 => throw .malformed
  | fuel + 1 => do
    if ← takeIf .blockEntry then
      let item ← readNodeBefore [.blockEntry, .blockEnd] within .block fuel
      return item :: (← readBlockItems within fuel)
    else
      expect .blockEnd
      return []
termination_by structural fuel => fuel

/-- The items of a sequence that is not indented. -/
def readLooseItems (within : Bool) : (fuel : Nat) → NodeReader (List Node)
  | 0 => throw .malformed
  | fuel + 1 => do
    if ← takeIf .blockEntry then
      let item ← readNodeBefore [.blockEntry, .key, .value, .blockEnd] within .block fuel
      return item :: (← readLooseItems within fuel)
    else return []
termination_by structural fuel => fuel

/-- The entries of a block mapping and its end. -/
def readBlockEntries (within : Bool) : (fuel : Nat) → NodeReader (List (Node × Node))
  | 0 => throw .malformed
  | fuel + 1 => do
    let stops : List Token := [.key, .value, .blockEnd]
    if ← takeIf .key then
      let key ← readNodeBefore stops within .blockValue fuel
      let value ← if ← takeIf .value then readNodeBefore stops within .blockValue fuel
        else pure .empty
      return (key, value) :: (← readBlockEntries within fuel)
    else
      expect .blockEnd
      return []
termination_by structural fuel => fuel

/-- The items of a sequence in brackets and its end; `first` tells whether none was read yet. -/
def readFlowItems (within : Bool) (first : Bool) : (fuel : Nat) → NodeReader (List Node)
  | 0 => throw .malformed
  | fuel + 1 => do
    if ← takeIf .flowSequenceEnd then return []
    if !first then expect .flowEntry
    if ← takeIf .key then
      let stops : List Token := [.flowEntry, .flowSequenceEnd]
      let n ← number none within
      let key ← readNodeBefore (.value :: stops) within .flow fuel
      let value ← if ← takeIf .value then readNodeBefore stops within .flow fuel
        else pure .empty
      let item := numberedNode n (.mapping .map [(key, value)])
      return item :: (← readFlowItems within false fuel)
    else if ← takeIf .flowSequenceEnd then return []
    else
      let item ← readNode within .flow fuel
      return item :: (← readFlowItems within false fuel)
termination_by structural fuel => fuel

/-- The entries of a mapping in braces and its end. -/
def readFlowEntries (within : Bool) (first : Bool) : (fuel : Nat) → NodeReader (List (Node × Node))
  | 0 => throw .malformed
  | fuel + 1 => do
    if ← takeIf .flowMappingEnd then return []
    if !first then expect .flowEntry
    if ← takeIf .key then
      let stops : List Token := [.flowEntry, .flowMappingEnd]
      let key ← readNodeBefore (.value :: stops) within .flow fuel
      let value ← if ← takeIf .value then readNodeBefore stops within .flow fuel else pure .empty
      return (key, value) :: (← readFlowEntries within false fuel)
    else if ← takeIf .flowMappingEnd then return []
    else
      let key ← readNode within .flow fuel
      return (key, .empty) :: (← readFlowEntries within false fuel)
termination_by structural fuel => fuel

end

/-- The directives before a document, their tag handles added to the given ones. -/
def readDirectives (version : Bool) : (fuel : Nat) → List (String × String) →
    NodeReader (List (String × String))
  | 0, _ => throw .malformed
  | fuel + 1, handles => do
    match ← peek with
    | .directive d => do
      drop
      match d with
      | .version major =>
        if version || major != 1 then throw .malformed else readDirectives true fuel handles
      | .handle name meaning =>
        if (handles.lookup name).isSome then throw .malformed
        else readDirectives version fuel ((name, meaning) :: handles)
      | .unknown => readDirectives version fuel handles
    | _ => return handles

/-- The handles that need no directive. -/
def standardHandles : List (String × String) := [("!", "!"), ("!!", NodeTag.standardHead)]

def dropDocumentEnds : (fuel : Nat) → NodeReader Unit
  | 0 => return ()
  | fuel + 1 => do
    if ← takeIf .documentEnd then dropDocumentEnds fuel

/-- The one document of a text, or nothing if there is none. -/
def readDocument (fuel : Nat) : NodeReader (Option Node) := do
  let opening ← match ← peek with
    | .directive _ | .documentStart | .streamEnd => pure true
    | _ => pure false
  if opening then dropDocumentEnds fuel
  if ← nextIn [.streamEnd] then return none
  let handles ← if opening then readDirectives false fuel [] else pure []
  modify fun p => { p with handles := handles ++ standardHandles }
  if opening then expect .documentStart
  let bare ← match ← peek with
    | .directive _ | .documentStart | .documentEnd | .streamEnd => pure opening
    | _ => pure false
  let node ← if bare then pure .empty else readNode false .block fuel
  dropDocumentEnds fuel
  expect .streamEnd
  return some node

end NodeReader

/-- The tree of a text with one document, or nothing if the text is empty. -/
def Node.ofTokens (stream : TokenStream) : Except Fault (Option Node) :=
  let fuel := 4 * stream.tokens.length + 8
  let start : Progress := {
    tokens := stream.tokens, ending := stream.fault.getD .malformed }
  ((NodeReader.readDocument fuel).run start).map (·.1)

end FlowTemplate.Yaml
