import FlowTemplate.Command.Arguments
import FlowTemplate.Lint.Graph
import FlowTemplate.Load
import FlowTemplate.Placeholder.Choice
import FlowTemplate.Terminal.Markup
import FlowTemplate.Terminal.Table
import FlowTemplate.Text.Casing
/-!
# Running a command

A run is a function of the arguments, the files and the settings. It answers what is printed, what
is written, and how the run ends.
-/

namespace FlowTemplate.Command

/-- What a run finds. -/
structure Surroundings where
  folder : Folder
  settings : Settings
  /-- Where random names come from. -/
  stream : Nat → Char

/-- How a run ends when something goes wrong that it does not report. -/
inductive Crash where
  | load (e : LoadFailure)
  | compile (e : CompileError)
  /-- A definition exceeds what is read. -/
  | excess (e : Json.Excess)
  /-- The template holds a value that has no JSON text. -/
  | noJson (e : JsonFault)
  /-- A text holds half of a surrogate pair. -/
  | notEncodable
  | path (e : PathFault)
  | write (e : PathFailure)
  | markup (e : Markup.Fault)

namespace Crash

def message : Crash → String
  | .load e => e.message
  | .compile e => e.message
  | .excess e => e.message
  | .noJson _ => Misfit.noJson.message
  | .notEncodable => "a text holds half of a surrogate pair"
  | .path e => e.message
  | .write e => e.reason
  | .markup _ => "a text is no markup"

end Crash

structure Outcome where
  exitCode : Nat := 0
  stdout : String := ""
  stderr : String := ""
  /-- Files that are written, by path. -/
  written : List (String × String) := []
  /-- What the run tells about itself on the way. -/
  log : List Log.Entry := []
  crash : Option Crash := none

namespace Outcome

def shown (text : String) : Outcome := { stdout := text }

def ofUsageError (s : Spec) (e : UsageError) : Outcome := { exitCode := 2, stderr := e.report s }

def ofCrash (e : Crash) : Outcome := { exitCode := 1, crash := some e }

def ofCallError (s : Spec) : CallError → Outcome
  | .usage e => ofUsageError s e
  | .path e => ofCrash (.path e)

/-- Whether a text can be printed: as UTF-8. -/
def isEncodable (text : String) : Bool := (Text.plain? text).isSome

/-- Prints a text. -/
def print (text : String) : Outcome := if isEncodable text then shown text else ofCrash .notEncodable

/-- What is printed about errors; halves of surrogate pairs are escaped there. -/
def withPlainErrors (o : Outcome) : Outcome :=
  let plain := (Text.codes o.stderr.toList).flatMap fun n =>
    if Text.isSurrogate n then Json.unicodeEscape n else Text.ofCodePoint n
  { o with stderr := String.ofList plain }

end Outcome

/-- The columns that lines are wrapped at. -/
def terminalWidth : Nat := 4000

/-- Marked up text as it is printed, every line ended. -/
def printed (markup : String) : Except Markup.Fault String :=
  (Markup.plain markup).map fun text =>
    String.ofList ((Text.wrap .fold terminalWidth text).flatMap (· ++ ['\n']))

/-- The report of an error, whose message is no markup. -/
def reportFailure (message : String) : Outcome :=
  match printed ("[bold red]Error:[/bold red] " ++ Markup.escape message) with
  | .ok text => { exitCode := 1, stderr := text }
  | .error e => .ofCrash (.markup e)

def ofLoadFailure (e : LoadFailure) : Outcome :=
  if e.isReported then reportFailure e.message else .ofCrash (.load e)

def ofCompileError (e : CompileError) : Outcome :=
  if e.machine?.isSome then reportFailure e.message else .ofCrash (.compile e)

/-- Writes a compiled template and says so. -/
def writeTemplate (folder : Folder) (path text : String) (count : Nat) : Outcome :=
  let path := Path.plain path
  match folder.checkWrite path with
  | .error e => .ofCrash (.write e)
  | .ok () =>
    if !Outcome.isEncodable text then
      { Outcome.ofCrash .notEncodable with written := [(path, "")] }
    else
      let written := [(path, text ++ "\n")]
      match printed s!"[green]✓[/green] Compiled {count} state machine(s) into {path}" with
      | .ok message => { stderr := message, written }
      | .error e => { Outcome.ofCrash (.markup e) with written }

/-- What comes of a pass over the state machines of a service. -/
def finishCompile (around : Surroundings) (call : Call) (count : Nat) (outcome : Pass.Outcome) :
    Outcome :=
  match outcome.result with
  | .error e => ofCompileError e
  | .ok () => match outcome.template.toJson Json.twoBlanks with
    | .error e => .ofCrash (.noJson e)
    | .ok text => match call.value? outputOption with
      | some output => writeTemplate around.folder output text count
      | none => .print (text ++ "\n")

/-- Compiles the state machines of a service. -/
def runCompile (around : Surroundings) (call : Call) : Outcome :=
  let path := call.arguments.headD ""
  let loaded := do
    let service ← Load.service around.folder path
    let template ← Load.template around.folder (call.value? templateOption) Path.plain
    return (service, template)
  match loaded with
  | .error e => ofLoadFailure e
  | .ok (service, template) =>
    let context := service.context around.settings (call.toggle? validateOption)
    let tokens := TokenSource.ofSettings around.stream around.settings
    let outcome := service.compile context tokens template
    { finishCompile around call service.machines.length outcome with log := outcome.log }

/-- The definition that a block declares, if it is not null. -/
def declaredDefinition (machine : Value) : Option Value :=
  (machine.entries?.bind fun entries => entries.find? "definition").filter (· != .null)

/-- The row of a machine in the report of the linter, as markup, and whether it is fine. -/
def lintRow (name : String) (machine : Value) : Except Json.Excess (List String × Bool) :=
  match declaredDefinition machine with
  | none => .ok ([name, "[red]✕[/red]", "missing definition"], false)
  | some definition =>
    match Lint.report definition with
    | .error e => .error e
    | .ok [] => .ok ([name, "[green]✓[/green]", ""], true)
    | .ok found =>
      let details := found.map fun f => f.path ++ ": " ++ f.message
      .ok ([name, "[red]✕[/red]", "\n".intercalate details], false)

/-- Prints a table whose cells are markup. -/
def printTable (title : Option String) (columns : List Table.Column) (rows : List (List String)) :
    Outcome :=
  match rows.mapM fun row => row.mapM Markup.plain with
  | .ok rows => .print (Table.render terminalWidth { title, columns, rows })
  | .error e => .ofCrash (.markup e)

def lintColumns : List Table.Column :=
  [{ heading := "State machine" }, { heading := "Status", centred := true },
    { heading := "Errors" }]

/-- Lints every state machine of a service. -/
def runLint (around : Surroundings) (call : Call) : Outcome :=
  match Load.service around.folder (call.arguments.headD "") with
  | .error e => ofLoadFailure e
  | .ok service =>
    match service.machines.mapM fun (name, machine) => lintRow name machine with
    | .error e => .ofCrash (.excess e)
    | .ok rows =>
      let outcome := printTable (some "State machine definitions") lintColumns (rows.map (·.1))
      if rows.all (·.2) then outcome else { outcome with exitCode := 1 }

def configColumns : List Table.Column :=
  [{ heading := "Setting" }, { heading := "Env Variable" }, { heading := "Value" }]

/-- Shows the settings. -/
def runConfig (around : Surroundings) (call : Call) : Outcome :=
  if call.value? formatOption == some "json" then
    .shown (((around.settings.toValue).json? { indent := some 2, asciiOnly := true }).getD ""
      ++ "\n")
  else
    let panel := Table.panel "State Machine Compiler Configuration"
    let rows := around.settings.texts.map fun (name, value) => [name, Text.upper name, value]
    let outcome := printTable none configColumns rows
    { outcome with stdout := panel ++ outcome.stdout }

def versionText : String := "smc, version 0.1.0\n"

/-- Runs a command on its arguments. -/
def runSpec (s : Spec) (action : Surroundings → Call → Outcome) (around : Surroundings)
    (arguments : List String) : Outcome :=
  match s.read arguments with
  | .error e => .ofUsageError s e
  | .ok call =>
    if call.shows? == some .help then .shown s.help
    else if call.shows? == some .version then .shown versionText
    else match call.check s around.folder with
      | .error e => .ofCallError s e
      | .ok () => action around call

/-- Runs the command that a name calls. -/
def dispatch (around : Surroundings) (call : Call) : Outcome :=
  match call.arguments with
  | [] => .ofUsageError root .missingCommand
  | "compile" :: rest => runSpec compile runCompile around rest
  | "lint" :: rest => runSpec lint runLint around rest
  | "config" :: rest => runSpec config runConfig around rest
  | name :: rest =>
    match root.read (name :: rest) with
    | .error e => .ofUsageError root e
    | .ok call =>
      if call.shows? == some .help then .shown root.help
      else if call.shows? == some .version then .shown versionText
      else .ofUsageError root (.noSuchCommand name)

/-- Runs the program. -/
def run (around : Surroundings) (arguments : List String) : Outcome :=
  Outcome.withPlainErrors <|
    match root.read arguments with
    | .error e => .ofUsageError root e
    | .ok call =>
      if call.shows? == some .help then .shown root.help
      else if call.shows? == some .version then .shown versionText
      else if arguments.isEmpty then { exitCode := 2, stderr := root.help }
      else dispatch around call

end FlowTemplate.Command
