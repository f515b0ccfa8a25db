import FlowTemplate.Command.Help
import FlowTemplate.Document.Literal
import FlowTemplate.Folder
import FlowTemplate.Text.Closeness
/-!
# Reading arguments

What a command was called with: options and the rest. An option may stand anywhere before a double
dash; in a group everything from the first other argument on belongs to another command.
-/

namespace FlowTemplate.Command

/-- What is wrong with a call. -/
inductive UsageError where
  | noSuchOption (name : String) (close : List String)
  | needsValue (name : String)
  | takesNoValue (name : String)
  | missingArgument (name : String)
  | extraArguments (arguments : List String)
  | badValue (names : List String) (reason : String)
  | noSuchCommand (name : String)
  | missingCommand

namespace UsageError

def message : UsageError → String
  | .noSuchOption name close =>
    let hint := match close with
      | [] => ""
      | [other] => s!" Did you mean {other}?"
      | others => " (Possible options: " ++ ", ".intercalate others ++ ")"
    s!"No such option: {name}" ++ hint
  | .needsValue name => s!"Option {Literal.quoted name} requires an argument."
  | .takesNoValue name => s!"Option {Literal.quoted name} does not take a value."
  | .missingArgument name => s!"Missing argument '{name}'."
  | .extraArguments arguments =>
    let noun := if arguments.length == 1 then "argument" else "arguments"
    s!"Got unexpected extra {noun} (" ++ " ".intercalate arguments ++ ")"
  | .badValue names reason =>
    "Invalid value for " ++ " / ".intercalate (names.map fun name => s!"'{name}'")
      ++ ": " ++ reason
  | .noSuchCommand name => s!"No such command {Literal.quoted name}."
  | .missingCommand => "Missing command."

/-- Whether the usage of the command is shown as well. -/
def showsUsage : UsageError → Bool
  | .needsValue _ | .takesNoValue _ => false
  | _ => true

/-- What is printed about an error in a call. -/
def report (s : Spec) (e : UsageError) : String :=
  let usage :=
    if e.showsUsage then s.usage ++ s!"\nTry '{s.path} --help' for help.\n\n" else ""
  usage ++ "Error: " ++ e.message ++ "\n"

end UsageError

/-- An option as it was given: the spelling, and its value if it takes one. -/
structure Given where
  option : OptionSpec
  spelling : String
  value : String
  deriving DecidableEq

/-- A call taken apart. -/
structure Call where
  given : List Given
  arguments : List String

def Spec.option? (s : Spec) (spelling : String) : Option OptionSpec :=
  s.options.find? fun o => o.spellings.contains spelling

/-- Long spellings close to one that there is not. -/
def Spec.closeTo (s : Spec) (spelling : String) : List String :=
  let all := s.options.flatMap fun o => o.spellings.filter fun name => name.startsWith "--"
  (all.filter fun name => Text.isClose name spelling).mergeSort fun a b => a ≤ b

/-- An option with the value it takes from the arguments behind it. -/
def takeValue (o : OptionSpec) (spelling : String) (attached : Option String)
    (rest : List String) : Except UsageError (Given × List String) :=
  if o.takesValue then
    match attached, rest with
    | some value, rest => .ok (⟨o, spelling, value⟩, rest)
    | none, value :: rest => .ok (⟨o, spelling, value⟩, rest)
    | none, [] => .error (.needsValue spelling)
  else match attached with
    | some _ => .error (.takesNoValue spelling)
    | none => .ok (⟨o, spelling, ""⟩, rest)

/-- Options that are written as letters behind one dash. -/
def takeLetters (s : Spec) : List Char → List String → Except UsageError (List Given × List String)
  | [], rest => .ok ([], rest)
  | c :: letters, rest => do
    let spelling := String.ofList ['-', c]
    match s.option? spelling with
    | none => throw (.noSuchOption spelling [])
    | some o =>
      if o.takesValue then
        let attached := if letters.isEmpty then none else some (String.ofList letters)
        let (given, rest) ← takeValue o spelling attached rest
        return ([given], rest)
      else
        let (others, rest) ← takeLetters s letters rest
        return (⟨o, spelling, ""⟩ :: others, rest)

/-- The options that an argument writes. -/
def takeOption (s : Spec) (argument : String) (rest : List String) :
    Except UsageError (List Given × List String) :=
  let (name, value) := argument.toList.span (· != '=')
  let spelling := String.ofList name
  match s.option? spelling with
  | some o =>
    if spelling.startsWith "--" then do
      let attached := if value.isEmpty then none else some (String.ofList (value.drop 1))
      let (given, rest) ← takeValue o spelling attached rest
      return ([given], rest)
    else takeLetters s (argument.toList.drop 1) rest
  | none =>
    if argument.startsWith "--" then .error (.noSuchOption spelling (s.closeTo spelling))
    else takeLetters s (argument.toList.drop 1) rest

/-- Takes a call apart. Every step takes at least one argument. -/
def readCall (s : Spec) : (fuel : Nat) → List String → Except UsageError Call
  | _, [] => .ok ⟨[], []⟩
  | 0, rest => .ok ⟨[], rest⟩
  | fuel + 1, argument :: rest =>
    if argument == "--" then .ok ⟨[], rest⟩
    else if argument.startsWith "-" && argument.length > 1 then do
      let (given, rest) ← takeOption s argument rest
      let call ← readCall s fuel rest
      return { call with given := given ++ call.given }
    else if s.isGroup then .ok ⟨[], argument :: rest⟩
    else do
      let call ← readCall s fuel rest
      return { call with arguments := argument :: call.arguments }

/-- Takes the arguments of a command apart. -/
def Spec.read (s : Spec) (arguments : List String) : Except UsageError Call :=
  readCall s arguments.length arguments

namespace Call

/-- The value of an option, the last one if it was given more than once. -/
def value? (c : Call) (o : OptionSpec) : Option String :=
  (c.given.reverse.find? fun g => g.option == o).map (·.value)

/-- Whether a toggle was given, and if so whether it is on. -/
def toggle? (c : Call) (o : OptionSpec) : Option Bool :=
  (c.given.reverse.find? fun g => g.option == o).map fun g => o.names.contains g.spelling

/-- The first option given that shows something instead of running the command. -/
def shows? (c : Call) : Option Form :=
  (c.given.find? fun g => g.option.form == .help || g.option.form == .version).map
    (·.option.form)

end Call

/-- Why a call is not carried out. -/
inductive CallError where
  | usage (e : UsageError)
  /-- A path that is none, which nobody is told about. -/
  | path (e : PathFault)

/-- Fails unless a path leads to a file, or to nothing if the file need not be there. -/
def checkFile (folder : Folder) (names : List String) (mustExist : Bool) (path : String) :
    Except CallError Unit :=
  match Path.fault? path, folder.find path with
  | some e, _ => .error (.path e)
  | none, .file _ => .ok ()
  | none, .folder =>
    .error (.usage (.badValue names s!"File {Literal.quoted (Path.shown path)} is a directory."))
  | none, .failure _ =>
    if mustExist then
      .error (.usage (.badValue names s!"File {Literal.quoted (Path.shown path)} does not exist."))
    else .ok ()

/-- Fails unless the value of an option suits it. -/
def checkOption (folder : Folder) (o : OptionSpec) (value : String) : Except CallError Unit :=
  match o.form with
  | .file mustExist => checkFile folder o.names mustExist value
  | .choice values =>
    if values.contains value then .ok ()
    else .error (.usage (.badValue o.names
      (Literal.quoted value ++ " is not one of "
        ++ ", ".intercalate (values.map Literal.quoted) ++ ".")))
  | _ => .ok ()

/-- Fails unless a call suits its command: options first, in the order they were given, then the
arguments. -/
def Call.check (c : Call) (s : Spec) (folder : Folder) : Except CallError Unit := do
  for o in (c.given.map (·.option)).eraseDups do
    checkOption folder o ((c.value? o).getD "")
  for (name, i) in s.arguments.zipIdx do
    match c.arguments[i]? with
    | none => throw (.usage (.missingArgument name))
    | some path => checkFile folder [name] true path
  if c.arguments.length > s.arguments.length then
    throw (.usage (.extraArguments (c.arguments.drop s.arguments.length)))

end FlowTemplate.Command
