import FlowTemplate.Document.Literal
import FlowTemplate.Schema.Basic
/-!
# Violations of a schema

A violation is a fault of a value with the path to the part it concerns. A report holds violations in
the order in which they are met. It can break off when a schema cannot be tried.
-/

namespace FlowTemplate

/-- One step from a value into a part of it. -/
inductive Step where
  | key (k : Atom)
  | index (i : Nat)
  deriving DecidableEq

namespace Step

/-- The text by which steps are ordered. -/
def sortText : Step → String
  | .key k => Literal.displayAtom k
  | .index i => toString i

/-- The text of a step in a path: positions and whole numbers stand in brackets. -/
def text : Step → String
  | .index i => s!"[{i}]"
  | .key (.int i) => s!"[{i}]"
  | .key (.bool b) => "[" ++ (if b then "True" else "False") ++ "]"
  | .key k => "." ++ Literal.displayAtom k

end Step

/-- A fault and the path to the value it concerns. -/
structure Violation where
  path : List Step
  message : String
  deriving DecidableEq

namespace Violation

def under (step : Step) (v : Violation) : Violation := { v with path := step :: v.path }

/-- A fault of the value itself. -/
def here (message : String) : Violation := { path := [], message }

/-- The path written from a given root, and the message. -/
def text (root : String) (v : Violation) : String :=
  root ++ String.join (v.path.map Step.text) ++ ": " ++ v.message

end Violation

/-- Order of lists of texts, item by item; a list comes before those it begins. -/
def textsLe : List String → List String → Bool
  | [], _ => true
  | _ :: _, [] => false
  | a :: as, b :: bs =>
    if Text.codes a.toList == Text.codes b.toList then textsLe as bs else Text.le a b

/-- Order of violations by the texts of their paths. -/
def Violation.le (a b : Violation) : Bool :=
  textsLe (a.path.map Step.sortText) (b.path.map Step.sortText)

namespace Schema

/-- What a value does against a schema, up to a fault if there is one. -/
structure Report where
  violations : List Violation := []
  fault : Option Fault := none

namespace Report

/-- The report of a value that does nothing against a schema. -/
def clean : Report := {}

def broken (fault : Fault) : Report := { fault := some fault }

/-- The report of one fault of the value itself. -/
def fail (message : String) : Report := { violations := [.here message] }

/-- A report and what is met after it. -/
def andThen (a : Report) (next : Unit → Report) : Report :=
  match a.fault with
  | some _ => a
  | none =>
    let b := next ()
    { violations := a.violations ++ b.violations, fault := b.fault }

def under (step : Step) (a : Report) : Report :=
  { a with violations := a.violations.map (·.under step) }

/-- The violations of a report, or what it breaks off at. -/
def violations? (a : Report) : Except Fault (List Violation) :=
  match a.fault with
  | some fault => .error fault
  | none => .ok a.violations

/-- Whether a value is accepted. One violation decides it, whatever comes after it. -/
def isClean (a : Report) : Except Fault Bool :=
  if a.violations.isEmpty then match a.fault with
    | some fault => .error fault
    | none => .ok true
  else .ok false

/-- What follows from a question, unless it cannot be answered. -/
def ofAnswer {α : Type} (answer : Except Fault α) (next : α → Report) : Report :=
  match answer with
  | .error fault => broken fault
  | .ok a => next a

/-- The reports of some parts one after the other. -/
def ofParts {α : Type} (check : α → Report) : List α → Report
  | [] => clean
  | part :: rest => (check part).andThen fun _ => ofParts check rest

end Report

/-- A report with nothing, or with the fault `message` about a value unless `ok`. -/
def expect (ok : Bool) (v : Value) (message : String) : Report :=
  if ok then .clean else .fail (v.literal ++ " " ++ message)

end Schema

end FlowTemplate
