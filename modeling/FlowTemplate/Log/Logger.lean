import FlowTemplate.Log.Entry
import FlowTemplate.Settings.Basic
import FlowTemplate.Text.Casing
/-!
# Loggers

A logger is made when its name is first asked for, with the level asked for or that of the
settings, and stays as it is from then on.
-/

namespace FlowTemplate.Log

structure Logger where
  name : String
  /-- The place on the scale from which on things are told. -/
  level : Int
  deriving DecidableEq

/-- The level that settings ask for; a name that is not on the scale means that of information. -/
def defaultLevel (settings : Settings) : Int :=
  (placeOf? (Text.upper settings.logLevel)).getD 20

/-- The loggers made so far. -/
abbrev Registry := List Logger

/-- The logger of a name, and whether it was there before. -/
def Registry.fetch (registry : Registry) (settings : Settings) (name : String)
    (level : Option Int) : Logger × Bool × Registry :=
  match registry.find? fun logger => logger.name == name with
  | some logger => (logger, true, registry)
  | none =>
    let logger := ⟨name, level.getD (defaultLevel settings)⟩
    (logger, false, registry ++ [logger])

end FlowTemplate.Log
