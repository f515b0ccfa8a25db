/-!
# Commands

The commands of the program with their options and arguments.
-/

namespace FlowTemplate.Command

/-- What an option takes. -/
inductive Form where
  | flag
  /-- A flag with another one that takes it back. -/
  | toggle (off : String)
  /-- A path to a file, which may have to be there. -/
  | file (mustExist : Bool)
  | choice (values : List String)
  | version
  | help
  deriving DecidableEq

structure OptionSpec where
  /-- How the option is written; the long way first. -/
  names : List String
  form : Form
  help : String
  deriving DecidableEq

namespace OptionSpec

/-- All ways to write an option, that of taking it back included. -/
def spellings (o : OptionSpec) : List String :=
  match o.form with
  | .toggle off => o.names ++ [off]
  | _ => o.names

def takesValue (o : OptionSpec) : Bool :=
  match o.form with
  | .file _ | .choice _ => true
  | _ => false

/-- The mark of the value in a help text. -/
def valueMark (o : OptionSpec) : String :=
  match o.form with
  | .file _ => " FILE"
  | .choice values => " [" ++ "|".intercalate values ++ "]"
  | _ => ""

end OptionSpec

/-- A paragraph of a help text. -/
inductive Paragraph where
  | wrapped (text : String)
  | verbatim (lines : List String)

structure Spec where
  /-- The words that call the command. -/
  path : String
  /-- The mark of what follows the options. -/
  arguments : List String
  about : List Paragraph
  options : List OptionSpec
  /-- Names and summaries of the commands below this one. -/
  commands : List (String × String) := []

/-- Whether what follows the first argument belongs to another command. -/
def Spec.isGroup (s : Spec) : Bool := !s.commands.isEmpty

def helpOption : OptionSpec := ⟨["--help"], .help, "Show this message and exit."⟩

def compileSummary : String := "Compile the state machines of SERVICE_FILE."

def configSummary : String := "Show current configuration."

def lintSummary : String := "Lint every state machine definition in SERVICE_FILE."

def versionOption : OptionSpec := ⟨["--version"], .version, "Show the version and exit."⟩

def verboseOption : OptionSpec :=
  ⟨["--verbose", "-v"], .flag, "Show full error tracebacks for debugging"⟩

/-- The program itself. -/
def root : Spec where
  path := "smc"
  arguments := ["COMMAND", "[ARGS]..."]
  about := [
    .wrapped "Compile Step Functions state machines into CloudFormation resources.",
    .verbatim [
      "Commands:",
      "  compile  - Compile every state machine in a service document",
      "  lint     - Lint every state machine definition",
      "  config   - Show effective settings"]]
  options := [versionOption, verboseOption, helpOption]
  commands := [("compile", compileSummary), ("config", configSummary), ("lint", lintSummary)]

def templateOption : OptionSpec :=
  ⟨["--template", "-t"], .file true, "Existing CloudFormation template (JSON) to merge into"⟩

def outputOption : OptionSpec :=
  ⟨["--output", "-o"], .file false, "Write the compiled template here instead of stdout"⟩

def validateOption : OptionSpec :=
  ⟨["--validate"], .toggle "--no-validate",
    "Lint definitions (default: stepFunctions.validate, then VALIDATE_DEFINITIONS)"⟩

def serviceArgument : String := "SERVICE_FILE"

def compile : Spec where
  path := "smc compile"
  arguments := [serviceArgument]
  about := [
    .wrapped compileSummary,
    .verbatim [
      "Example:",
      "  smc compile serverless.yml",
      "  smc compile serverless.yml --template "
        ++ ".serverless/cloudformation-template-update-stack.json"]]
  options := [templateOption, outputOption, validateOption, helpOption]

def lint : Spec where
  path := "smc lint"
  arguments := [serviceArgument]
  about := [.wrapped lintSummary]
  options := [helpOption]

def formatOption : OptionSpec :=
  ⟨["--format", "-f"], .choice ["json", "table"], "Output format"⟩

def config : Spec where
  path := "smc config"
  arguments := []
  about := [
    .wrapped configSummary,
    .wrapped "Displays configuration values loaded from environment variables and .env file."]
  options := [formatOption, helpOption]

end FlowTemplate.Command
