import FlowTemplate.Document.Value
/-!
# Misfits

What goes wrong when a value that nothing has checked meets an operation it does not fit.
-/

namespace FlowTemplate

inductive Misfit where
  /-- Entries or a text operation were asked of a value that has none. -/
  | noEntries
  /-- A value has no JSON text. -/
  | noJson
  /-- A value that holds itself is to be written, or an integer to be read whose text is too long. -/
  | endlessText
  /-- A value that holds itself, or is nested too deep, is gone through to its end. -/
  | endless
  /-- A mapping lacks a key that was asked for. -/
  | noSuchKey
  /-- An item was asked of a value that is not looked up by key. -/
  | notIndexed
  deriving DecidableEq, Repr

def Misfit.message : Misfit → String
  | .noEntries => "a value that should be a mapping is none"
  | .noJson => "a value has no JSON text"
  | .endlessText => "a text goes on beyond what is written or read"
  | .endless => "a value goes on beyond what is gone through"
  | .noSuchKey => "a key that should be there is missing"
  | .notIndexed => "a value that should be looked up by key is not"

namespace Value

/-- The entries of a mapping; any other value is a misfit. -/
def entries (v : Value) : Except Misfit Entries :=
  match v.bare with
  | .map entries => .ok entries
  | _ => .error .noEntries

/-- The value under a text key, if there is one. -/
def field (v : Value) (key : String) : Except Misfit (Option Value) :=
  v.entries.map fun entries => entries.find? key

/-- The value under a text key, null standing for a missing one. -/
def fieldOrNull (v : Value) (key : String) : Except Misfit Value :=
  (v.field key).map fun found => found.getD .null

end Value

end FlowTemplate
