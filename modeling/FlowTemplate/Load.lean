import FlowTemplate.Compile.Shared
import FlowTemplate.Folder
import FlowTemplate.Json.Limit
import FlowTemplate.Service
import FlowTemplate.Settings.Basic
import FlowTemplate.Text.Utf8
import FlowTemplate.Yaml.Document
/-!
# Loading

Service documents and templates from files. A file whose name ends in `.json` holds JSON, any other
YAML; both are UTF-8.
-/

namespace FlowTemplate

/-- Why a file does not yield what it should. -/
inductive LoadFailure where
  | badPath (e : PathFault)
  | unreadable (path : String) (e : PathFailure)
  /-- The file is not UTF-8. -/
  | notText
  | badJson (path : String) (e : Json.ParseError)
  /-- A JSON text exceeds what is read. -/
  | excess (e : Json.Excess)
  | badYaml (path : String)
  /-- A scalar under a tag of its own does not write a value. -/
  | badScalar (e : Yaml.Fault)
  | malformedService (issues : List Issue)
  | noObject (path : String)

namespace LoadFailure

/-- The wording of a failure. -/
def message : LoadFailure → String
  | .badPath e => e.message
  | .unreadable path e =>
    s!"Cannot read {path}: [Errno {e.code}] {e.reason}: {Literal.quoted path}"
  | .badJson path e => s!"Cannot parse {path}: {e.message}"
  | .excess e => e.message
  | .badYaml path => s!"Cannot parse {path}"
  | .malformedService issues =>
    let noun := if issues.length == 1 then "error" else "errors"
    s!"Service document is malformed: {issues.length} validation {noun} for ServiceDocument"
  | .noObject path => s!"Template {path} must be a JSON object"
  | .notText => "a file is not UTF-8"
  | .badScalar e => e.message

/-- Whether a failure is one that an author is told about; the others are faults of the data that
nothing checks. -/
def isReported : LoadFailure → Bool
  | .badPath _ | .notText | .excess _ | .badScalar _ => false
  | _ => true

end LoadFailure

namespace Load

/-- Whether the file at a path holds JSON. -/
def isJson (path : String) : Bool := (Path.ending path).map Char.toLower == ".json"

/-- The failure of a file at a path that holds no YAML. -/
def yamlFailure (path : String) : Yaml.Fault → LoadFailure
  | .malformed => .badYaml (Path.plain path)
  | .unread => .notText
  | e => .badScalar e

/-- The value of a text that was read from a path; `numbered` asks for the numbers of containers that
may stand in several places. -/
def parse (numbered : Bool) (path text : String) : Except LoadFailure Value :=
  let text := String.ofList (Text.unifyLineEnds text.toList)
  if isJson path then
    match Json.excess? text with
    | some e => .error (.excess e)
    | none => (Json.parse text).mapError (.badJson (Path.plain path))
  else (if numbered then Yaml.loadNumbered text else Yaml.load text).mapError (yamlFailure path)

/-- The failure of a file at a path that is not all UTF-8: JSON is decoded first, and YAML as it is
read. -/
def undecodable (path : String) (data : List UInt8) : LoadFailure :=
  match if isJson path then none else Text.takenBefore? Text.unifyLineEnds data with
  | some text => yamlFailure path (Yaml.faultOfStart text)
  | none => .notText

/-- The value of the file at a path. -/
def document (numbered : Bool) (folder : Folder) (path : String) : Except LoadFailure Value := do
  if let some e := Path.fault? path then throw (.badPath e)
  let data ← (folder.read (Path.plain path)).mapError (.unreadable (Path.plain path))
  match Text.ofBytes? data with
  | none => throw (undecodable path data)
  | some text => parse numbered path text

/-- The service of a document. -/
def serviceOf (v : Value) : Except LoadFailure Service :=
  (Service.read v).mapError .malformedService

def service (folder : Folder) (path : String) : Except LoadFailure Service := do
  serviceOf (← document false folder path)

/-- The template at a path, or an empty one; its sections exist. `shown` is how a failure names the
path. -/
def template (folder : Folder) (path : Option String) (shown : String → String) :
    Except LoadFailure Value :=
  match path with
  | none => .ok (.map (Pass.withSections []))
  | some path => do
    match (← document true folder path).entries? with
    | some entries => return .map (Pass.withSections entries)
    | none => throw (.noObject (shown path))

end Load

namespace Service

/-- What a pass over the state machines of a service is told. Whether it lints is decided by the
caller, else by the service, else by the settings. -/
def context (service : Service) (settings : Settings) (lints : Option Bool) : Context where
  providerTags := .object service.tags
  functions := some (service.functions.map (·.1))
  lints := ((lints <|> service.lints).getD settings.lints)
  style := { indent := some settings.definitionIndent.toNat, asciiOnly := false }

/-- Compiles the state machines of a service into a template, which may have shared containers. -/
def compile (service : Service) (context : Context) (tokens : TokenSource) (template : Value) :
    Pass.Outcome :=
  match (if template.hasNumbers then template.entries? else none) with
  | some entries => Shared.run context tokens (service.machines.map fun (k, v) => (.str k, v)) entries
  | none => Pass.run context tokens (.object service.machines) template

end Service

end FlowTemplate
