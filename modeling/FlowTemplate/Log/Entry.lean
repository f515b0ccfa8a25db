/-!
# Log entries

What is told about a run as it goes on, and the scale on which it is told. A logger tells what is
at its level or above.
-/

namespace FlowTemplate.Log

/-- The levels of what a run tells. -/
inductive Level where
  | debug | info
  deriving DecidableEq

def Level.name : Level → String
  | .debug => "DEBUG"
  | .info => "INFO"

structure Entry where
  level : Level
  message : String
  deriving DecidableEq

/-- The names of the scale; some places have two, of which the first is written. -/
def scale : List (String × Int) := [
  ("CRITICAL", 50), ("FATAL", 50), ("ERROR", 40), ("WARNING", 30), ("WARN", 30), ("INFO", 20),
  ("DEBUG", 10), ("NOTSET", 0)]

/-- The place of a name on the scale. -/
def placeOf? (name : String) : Option Int := scale.lookup name

/-- The name that a place is written with; a place between those with names has a number. -/
def nameOf (place : Int) : String :=
  match scale.find? fun (_, p) => p == place with
  | some (name, _) => name
  | none => s!"Level {place}"

end FlowTemplate.Log
