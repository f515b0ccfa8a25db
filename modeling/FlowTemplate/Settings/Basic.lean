import FlowTemplate.Record.Plain
import FlowTemplate.Settings.EnvFile
/-!
# Settings

What a run takes from its environment: variables, whose names count in any case, and a file of
variables that stands behind them. Every setting has a default; all faults are reported at once.
-/

namespace FlowTemplate

/-- How placeholder names are made. -/
inductive Strategy where
  | sequential | random
  deriving DecidableEq

namespace Strategy

def name : Strategy → String
  | .sequential => "sequential"
  | .random => "random"

def ofName? (s : String) : Option Strategy :=
  if s == "sequential" then some .sequential
  else if s == "random" then some .random
  else none

end Strategy

structure Settings where
  /-- Whether definitions are linted when a service does not say. -/
  lints : Bool := false
  strategy : Strategy := .sequential
  placeholderLength : Int := 10
  definitionIndent : Int := 2
  logLevel : String := "INFO"

namespace Settings

/-- The value of a variable by its lower-case name; of two names that agree the later one
counts. -/
def lookUp {α : Type} (values : List (String × α)) (name : String) : Option α :=
  (values.reverse.find? fun (k, _) => k.map Char.toLower == name).map (·.2)

open Record in
/-- The settings of an environment and the text of a file of variables. -/
def ofEnvironment (environment : List (String × String)) (file : String) : Checked Settings := do
  let fromFile := EnvFile.read environment file
  let setting {α : Type} (name : String) (default : α) (read : String → Checked α) : Checked α :=
    match lookUp environment name <|> (lookUp fromFile name).join with
    | some v => (read v).under name
    | none => .ok default
  let readStrategy (s : String) : Checked Strategy := match Strategy.ofName? s with
    | some strategy => .ok strategy
    | none => refuse .constant
  let lints := setting "validate_definitions" false truthText
  let strategy := setting "placeholder_strategy" .sequential readStrategy
  let length := setting "placeholder_length" 10 (intTextFrom 4)
  let indent := setting "definition_indent" 2 (intTextFrom 0)
  let level := setting "log_level" "INFO" .ok
  let ((((lints, strategy), placeholderLength), definitionIndent), logLevel) ←
    (((lints.and strategy).and length).and indent).and level
  return { lints, strategy, placeholderLength, definitionIndent, logLevel }

/-- A setting's name and its value as text, in the order of a report. -/
def texts (s : Settings) : List (String × String) := [
  ("validate_definitions", if s.lints then "True" else "False"),
  ("placeholder_strategy", s.strategy.name),
  ("placeholder_length", toString s.placeholderLength),
  ("definition_indent", toString s.definitionIndent),
  ("log_level", s.logLevel)]

/-- The settings as a document. -/
def toValue (s : Settings) : Value := .object [
  ("validate_definitions", .bool s.lints),
  ("placeholder_strategy", .str s.strategy.name),
  ("placeholder_length", .int s.placeholderLength),
  ("definition_indent", .int s.definitionIndent),
  ("log_level", .str s.logLevel)]

end Settings

end FlowTemplate
