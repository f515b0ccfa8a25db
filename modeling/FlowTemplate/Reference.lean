import FlowTemplate.Document.Misfit
import FlowTemplate.Document.Literal
import FlowTemplate.Naming
/-!
# References to functions

A service declares functions by name; in the template each stands under a logical ID of its own.
Resolving turns references to declared names into references to those IDs. Pinning turns a
direct reference to a function of the template into one to the version published for it.
-/

namespace FlowTemplate.Reference

def functionType : String := "AWS::Lambda::Function"

def versionType : String := "AWS::Lambda::Version"

/-- A text split at its first dot; without one the second half is empty. -/
def splitDot (s : String) : String × String :=
  let cs := s.toList
  (String.ofList (cs.takeWhile (· != '.')), String.ofList ((cs.dropWhile (· != '.')).drop 1))

/-- Target and attribute of the argument of `Fn::GetAtt`, written dotted or as a pair. -/
def parts? : Value → Option (Value × Value)
  | .atom (.str s) => let (target, property) := splitDot s; some (.str target, .str property)
  | .list [target, property] => some (target, property)
  | _ => none

/-- The function a value names, if it is declared. -/
def declared? (functions : List String) : Value → Option String
  | .atom (.str s) => if functions.contains s then some s else none
  | _ => none

def getAtt (target : String) (property : Value) : Value :=
  .single "Fn::GetAtt" (.list [.str target, property])

mutual

/-- A value with its references to declared functions resolved. Nothing is resolved inside the
argument of a lone `Fn::GetAtt`. -/
def resolve (functions : List String) : Value → Value
  | .list items => .list (resolveItems functions items)
  | .map [(.str "Ref", v)] =>
    match declared? functions v with
    | some f => .single "Ref" (.str (Naming.lambdaId f))
    | none => .single "Ref" (resolve functions v)
  | .map [(.str "Fn::GetAtt", v)] =>
    match parts? v with
    | some (target, property) => match declared? functions target with
      | some f => getAtt (Naming.lambdaId f) property
      | none => .single "Fn::GetAtt" v
    | none => .single "Fn::GetAtt" v
  | .map entries => .map (resolveEntries functions entries)
  | v => v

def resolveItems (functions : List String) : List Value → List Value
  | [] => []
  | v :: rest => resolve functions v :: resolveItems functions rest

def resolveEntries (functions : List String) : List (Atom × Value) → List (Atom × Value)
  | [] => []
  | (k, v) :: rest => (k, resolve functions v) :: resolveEntries functions rest

end

/-- Why a reference could not be pinned. -/
inductive PinFailure where
  | noVersion (logicalId : String)
  | noResolver (v : Value)
  | misfit (m : Misfit)

/-- The wording of a failure to find a version; a misfit has none. -/
def PinFailure.message : PinFailure → String
  | .noVersion logicalId =>
    s!"Cannot pin {logicalId} to an exact version: no {versionType} resource references it. "
      ++ "Enable function versioning for it."
  | .noResolver v => s!"No version resolver configured to pin {v.literal}"
  | .misfit _ => ""

/-- The resources of a template; anything empty counts as none. -/
def resources (template : Value) : Except Misfit Value := do
  let found ← template.fieldOrNull "Resources"
  return if found.isEmpty then .map [] else found

/-- Whether a resource is a mapping of the given type. -/
def hasType (type : String) (v : Value) : Bool :=
  (v.entries?.bind fun entries => entries.find? "Type") == some (.str type)

/-- What a direct reference refers to: `Ref`, or the address under `Fn::GetAtt`. -/
def directTarget? : Value → Option Value
  | .map [(.str "Fn::GetAtt", v)] => match parts? v with
    | some (target, .atom (.str "Arn")) => some target
    | _ => none
  | .map [(.str "Ref", v)] => some v
  | _ => none

/-- The function of the template that a value refers to directly. -/
def functionTarget? (template v : Value) : Except Misfit (Option String) :=
  match directTarget? v with
  | some (.atom (.str target)) => do
    let found ← (← resources template).field target
    return if found.any (hasType functionType) then some target else none
  | _ => .ok none

/-- Whether the name of a version's function is that of a logical ID, bare or in a reference. -/
def namesFunction (logicalId : String) (name : Value) : Bool :=
  name == .str logicalId || name == .single "Ref" (.str logicalId)

/-- The first version among some resources whose function is the given one. -/
def findVersion (logicalId : String) : Entries → Except Misfit (Option Atom)
  | [] => .ok none
  | (key, resource) :: rest =>
    if hasType versionType resource then do
      let properties ← resource.fieldOrNull "Properties"
      let name ← if properties.isEmpty then pure .null else properties.fieldOrNull "FunctionName"
      if namesFunction logicalId name then return some key else findVersion logicalId rest
    else findVersion logicalId rest

/-- A value with a direct reference to a function of the template turned into one to its version.
Other values stay as they are. -/
def pin (template v : Value) : Except PinFailure Value := do
  match ← (functionTarget? template v).mapError .misfit with
  | none => return v
  | some logicalId =>
    let entries ← ((resources template).bind Value.entries).mapError .misfit
    match ← (findVersion logicalId entries).mapError .misfit with
    | some version => return .single "Ref" (.atom version)
    | none => throw (.noVersion logicalId)

end FlowTemplate.Reference
