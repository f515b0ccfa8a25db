import FlowTemplate.Json.Limit
import FlowTemplate.Lint.Finding
import FlowTemplate.Lint.Shape
/-!
# Linting a definition

A definition is looked at in two ways. Its shape and that of each state must fit their schemas; a
document or state that does not is not looked at further. Then its graph: the start and the target
of every transition must be states of the same definition, and a state must either go on or end,
unless its type decides that. Definitions nested in `Parallel` and `Map` states are linted in turn.
-/

namespace FlowTemplate.Lint

/-- The findings about the shape of a value at a path. -/
def shapeFindings (schema : Schema) (path : String) (v : Value) : List Finding :=
  (schema.report path v).map fun line => ⟨.shape line, path⟩

/-- The text under a key, empty if there is none. -/
def textAt (fields : Entries) (key : String) : String :=
  ((fields.find? key).bind Value.str?).getD ""

/-- The list under a key, empty if there is none. -/
def listAt (fields : Entries) (key : String) : List Value :=
  match (fields.find? key).map Value.bare with
  | some (.list items) => items
  | _ => []

/-- States of these types do not go on by `Next` or `End`. -/
def terminalTypes : List String := ["Choice", "Succeed", "Fail"]

/-- Whether a state says how it goes on as its type wants it. -/
def continuationFindings (name path : String) (fields : Entries) : List Finding :=
  let type := textAt fields "Type"
  let hasNext := fields.contains "Next"
  let ends := fields.find? "End" == some (.bool true)
  if terminalTypes.contains type then
    if hasNext || fields.contains "End" then [⟨.terminalTransition type name, path⟩] else []
  else if hasNext && ends then [⟨.nextAndEnd name, path⟩]
  else if !hasNext && !ends then [⟨.noTransition name, path⟩]
  else []

/-- The targets under `Next` in the items of a list, each with its path. -/
def nextTargets (key path : String) (items : List Value) : List (String × String) :=
  items.mapIdx fun i item =>
    let target := (item.entries?.map fun fields => textAt fields "Next").getD ""
    (target, s!"{path}.{key}[{i}].Next")

/-- The transitions of a state, as targets with the paths at which they stand. -/
def transitions (path : String) (fields : Entries) : List (String × String) :=
  let at? (key : String) : List (String × String) :=
    if fields.contains key then [(textAt fields key, s!"{path}.{key}")] else []
  let choices :=
    if textAt fields "Type" == "Choice" then
      at? "Default" ++ nextTargets "Choices" path (listAt fields "Choices")
    else []
  at? "Next" ++ choices ++ nextTargets "Catch" path (listAt fields "Catch")

/-- The transitions of a state that lead to no declared state. -/
def targetFindings (declared : Entries) (name path : String) (fields : Entries) : List Finding :=
  (transitions path fields).filterMap fun (target, place) =>
    if declared.contains target then none else some ⟨.unknownTarget name target, place⟩

/-- The start of a definition, if it is no declared state. -/
def startFindings (path : String) (fields : Entries) : List Finding :=
  let start := textAt fields "StartAt"
  let declared := ((fields.find? "States").bind Value.entries?).getD []
  if Entries.contains declared start then []
  else [⟨.unknownStart start, path ++ ".StartAt"⟩]

/-- The key under which a `Map` state holds its definition. -/
def itemKey (fields : Entries) : String :=
  if fields.contains "ItemProcessor" then "ItemProcessor" else "Iterator"

mutual

/-- The findings about a definition at a path. -/
def definitionFindings (path : String) : Value → List Finding
  | .map fields =>
    match shapeFindings definitionShape path (.map fields) with
    | [] => startFindings path fields ++ statesFindings path fields
    | findings => findings
  | .anchored _ v => definitionFindings path v
  | .again _ => []
  | v => shapeFindings definitionShape path v

/-- The findings about the states among the fields of a definition. -/
def statesFindings (path : String) : List (Atom × Value) → List Finding
  | [] => []
  | (k, v) :: rest =>
    if k == .str "States" then declaredFindings path v else statesFindings path rest

/-- The findings about the states that stand under `States`. -/
def declaredFindings (path : String) : Value → List Finding
  | .map states => eachStateFindings states path states
  | .anchored _ v => declaredFindings path v
  | _ => []

/-- The findings about some states of a definition that declares `declared`. -/
def eachStateFindings (declared : Entries) (path : String) : List (Atom × Value) → List Finding
  | [] => []
  | (k, v) :: rest =>
    let name := Literal.displayAtom k
    stateFindings declared name (path ++ ".States." ++ name) v
      ++ eachStateFindings declared path rest

/-- The findings about one state. -/
def stateFindings (declared : Entries) (name path : String) : Value → List Finding
  | .map fields =>
    match shapeFindings stateShape path (.map fields) with
    | [] =>
      continuationFindings name path fields ++ targetFindings declared name path fields ++
        match textAt fields "Type" with
        | "Parallel" => branchesFindings path fields
        | "Map" => nestedFindings (itemKey fields) path fields
        | _ => []
    | findings => findings
  | .anchored _ v => stateFindings declared name path v
  | .again _ => []
  | v => shapeFindings stateShape path v

/-- The findings about the branches among the fields of a state. -/
def branchesFindings (path : String) : List (Atom × Value) → List Finding
  | [] => []
  | (k, v) :: rest =>
    if k == .str "Branches" then branchListFindings path v else branchesFindings path rest

def branchListFindings (path : String) : Value → List Finding
  | .list branches => eachBranchFindings path 0 branches
  | .anchored _ v => branchListFindings path v
  | _ => []

def eachBranchFindings (path : String) (index : Nat) : List Value → List Finding
  | [] => []
  | v :: rest =>
    definitionFindings s!"{path}.Branches[{index}]" v ++ eachBranchFindings path (index + 1) rest

/-- The findings about the definition under a key among the fields of a state. -/
def nestedFindings (key path : String) : List (Atom × Value) → List Finding
  | [] => []
  | (k, v) :: rest =>
    if k == .str key then definitionFindings (path ++ "." ++ key) v
    else nestedFindings key path rest

end

/-- The findings about a definition, which may be written as JSON text. -/
def findings (definition : Value) : List Finding :=
  match definition with
  | .atom (.str text) => match Json.parse text with
    | .ok v => definitionFindings "$" v
    | .error e => [⟨.notJson e.message, "$"⟩]
  | v => definitionFindings "$" v

/-- What keeps a definition that is written as JSON text from being read. -/
def excess? : Value → Option Json.Excess
  | .atom (.str text) => Json.excess? text
  | _ => none

/-- The findings about a definition that can be read. -/
def report (definition : Value) : Except Json.Excess (List Finding) :=
  match excess? definition with
  | some e => .error e
  | none => .ok (findings definition)

/-- Whether a definition gives rise to no finding. -/
def accepts (definition : Value) : Bool := (findings definition).isEmpty

end FlowTemplate.Lint
