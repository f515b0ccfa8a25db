import FlowTemplate.Document.Misfit
import FlowTemplate.Intrinsic
import FlowTemplate.Json.Printer
/-!
# Definition strings

The text form of a definition. A definition that is a text already passes through with its line
breaks removed. A tree becomes JSON text; when it holds intrinsics, the text has placeholders for
them and comes with a parameter for each, to be substituted when the template is deployed.
-/

namespace FlowTemplate

/-- The text of a definition, with parameters when it has placeholders. Parameters are entries of a
mapping, so a repeated name would keep one entry. -/
inductive DefinitionString where
  | plain (text : String)
  | substitution (text : String) (parameters : Entries)

/-- Why a tree has no definition string. -/
inductive DefinitionFailure (ε : Type) where
  /-- The generator of names failed. -/
  | generator (e : ε)
  | misfit (m : Misfit)

namespace DefinitionString

def text : DefinitionString → String
  | .plain text | .substitution text _ => text

/-- The parameters; a plain text has none. -/
def parameters : DefinitionString → Entries
  | .plain _ => []
  | .substitution _ parameters => parameters

/-- A literal definition without carriage returns and line feeds. -/
def withoutLineBreaks (s : String) : String :=
  String.ofList (s.toList.filter fun c => c != '\r' && c != '\n')

/-- The definition string of a tree with placeholders and its parameters. -/
def assemble (style : Json.Style) (resolve : Value → Value) (tree : Value)
    (parameters : List Intrinsic.Parameter) : Except Misfit DefinitionString :=
  match tree.json? style with
  | none => .error .noJson
  | some text =>
    if parameters.isEmpty then .ok (.plain text)
    else .ok (.substitution text
      (.ofPairs (parameters.map fun (token, v) => (.str token, resolve v))))

/-- The definition string of a tree; the references in its parameters are resolved. -/
def ofTree {σ ε : Type} (style : Json.Style) (next : Intrinsic.Generator σ ε)
    (resolve : Value → Value) (tree : Value) :
    ExceptT (DefinitionFailure ε) (StateM σ) DefinitionString := do
  let (tree, parameters) ← (Intrinsic.extract next tree).adapt .generator
  match assemble style resolve tree parameters with
  | .ok definition => return definition
  | .error m => throw (.misfit m)

/-- The definition string of a definition, literal or not. -/
def build {σ ε : Type} (style : Json.Style) (next : Intrinsic.Generator σ ε)
    (resolve : Value → Value) (definition : Value) :
    ExceptT (DefinitionFailure ε) (StateM σ) DefinitionString :=
  match definition with
  | .atom (.str s) => return .plain (withoutLineBreaks s)
  | tree => ofTree style next resolve tree

/-- Changes every parameter, stopping at the first failure. -/
def mapParameters {ε : Type} (f : Value → Except ε Value) :
    DefinitionString → Except ε DefinitionString
  | .plain text => .ok (.plain text)
  | .substitution text parameters => do
    let parameters ← parameters.mapM fun (k, v) => (f v).map fun v => (k, v)
    return .substitution text parameters

/-- What stands in a template for a definition string. -/
def toValue : DefinitionString → Value
  | .plain text => .str text
  | .substitution text parameters =>
    .single "Fn::Sub" (.list [.str text, .map parameters])

end DefinitionString

end FlowTemplate
