import FlowTemplate.Schema.Check
/-!
# The shape of definitions and states

Schemas of a workflow definition and of one state in it. Where an intrinsic may stand for a text or
a number, any mapping is accepted: linting looks at definitions before intrinsics are replaced.
-/

namespace FlowTemplate.Lint

def textOrIntrinsic : Schema := .either [.ofKind .string, .ofKind .object]

def path : Schema := .all [.type [.string, .null]]

def count (least : Int) : Schema := .all [.type [.integer], .minimum (.int least)]

def seconds : Schema := .either [count 0, .ofKind .object]

/-- A list of texts that is not empty. -/
def errorNames : Schema := .all [.type [.array], .items 0 (.ofKind .string), .minItems 1]

def retrier : Schema :=
  .all [
    .type [.object],
    .properties [
      ("ErrorEquals", errorNames),
      ("IntervalSeconds", count 1),
      ("MaxAttempts", count 0),
      ("BackoffRate", .all [.type [.number], .minimum (.int 1)])],
    .required ["ErrorEquals"]]

def catcher : Schema :=
  .all [
    .type [.object],
    .properties [("ErrorEquals", errorNames), ("Next", .ofKind .string), ("ResultPath", path)],
    .required ["ErrorEquals", "Next"]]

def choiceRule : Schema :=
  .all [.type [.object], .properties [("Next", .ofKind .string)], .required ["Next"]]

/-- The keywords hold for states of one type. -/
def whenType (type : String) (keywords : List Keyword) : Schema :=
  .all [.conditional
    (.all [.properties [("Type", .all [.const (.str type)])], .required ["Type"]])
    (.all keywords) .always]

/-- A value that holds the given name, with the document that says so. -/
def holding (name : String) : Value × Schema :=
  (.single "required" (.strings [name]), .all [.required [name]])

def task : List Keyword := [.properties [("Resource", textOrIntrinsic)], .required ["Resource"]]

def choice : List Keyword := [
  .properties [
    ("Choices", .all [.type [.array], .items 0 choiceRule, .minItems 1]),
    ("Default", .ofKind .string)],
  .required ["Choices"]]

/-- A wait says in exactly one way how long it lasts. -/
def wait : List Keyword := [
  .properties [
    ("Seconds", seconds),
    ("Timestamp", .ofKind .string),
    ("SecondsPath", .ofKind .string),
    ("TimestampPath", .ofKind .string)],
  .oneOf [holding "Seconds", holding "Timestamp", holding "SecondsPath", holding "TimestampPath"]]

def fail : List Keyword := [.properties [("Error", .ofKind .string), ("Cause", .ofKind .string)]]

def parallel : List Keyword := [
  .properties [("Branches", .all [.type [.array], .items 0 (.ofKind .object), .minItems 1])],
  .required ["Branches"]]

def mapOver : List Keyword := [
  .properties [
    ("Iterator", .ofKind .object),
    ("ItemProcessor", .ofKind .object),
    ("MaxConcurrency", count 0)],
  .anyOf [.all [.required ["Iterator"]], .all [.required ["ItemProcessor"]]]]

def stateTypes : List String :=
  ["Task", "Pass", "Choice", "Wait", "Succeed", "Fail", "Parallel", "Map"]

/-- The fields that a state of any type may have. -/
def commonFields : List (String × Schema) := [
  ("Type", .all [.enum (stateTypes.map .str)]),
  ("Comment", .ofKind .string),
  ("Next", .all [.type [.string], .minLength 1]),
  ("End", .ofKind .boolean),
  ("InputPath", path),
  ("OutputPath", path),
  ("ResultPath", path),
  ("Parameters", .ofKind .object),
  ("ResultSelector", .ofKind .object),
  ("Retry", .all [.type [.array], .items 0 retrier]),
  ("Catch", .all [.type [.array], .items 0 catcher]),
  ("TimeoutSeconds", seconds),
  ("HeartbeatSeconds", seconds)]

/-- The schema of one state. -/
def stateShape : Schema :=
  .all [
    .type [.object],
    .properties commonFields,
    .required ["Type"],
    .allOf [
      whenType "Task" task,
      whenType "Choice" choice,
      whenType "Wait" wait,
      whenType "Fail" fail,
      whenType "Parallel" parallel,
      whenType "Map" mapOver]]

/-- The schema of a definition. -/
def definitionShape : Schema :=
  .all [
    .type [.object],
    .properties [
      ("Comment", .ofKind .string),
      ("StartAt", .all [.type [.string], .minLength 1]),
      ("States", .all [.type [.object], .minProperties 1]),
      ("Version", .ofKind .string),
      ("TimeoutSeconds", count 0)],
    .required ["StartAt", "States"]]

end FlowTemplate.Lint
