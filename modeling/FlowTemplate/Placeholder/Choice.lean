import FlowTemplate.Document.Literal
import FlowTemplate.Placeholder.Source
import FlowTemplate.Settings.Basic
/-!
# Choosing a source of placeholder names

The strategy and length asked for, or else those of the settings. An empty strategy and a length of
zero ask for nothing.
-/

namespace FlowTemplate

/-- A strategy that there is not. -/
structure UnknownStrategy where
  name : String
  deriving DecidableEq

def UnknownStrategy.message (e : UnknownStrategy) : String :=
  s!"Unknown placeholder strategy {Literal.quoted e.name}; expected 'sequential' or 'random'"

namespace TokenSource

/-- A fresh source. Random characters are taken from the stream. -/
def create (stream : Nat → Char) (strategy : Strategy) (length : Int) : TokenSource :=
  match strategy with
  | .sequential => .counted (.create length Counter.defaultHead)
  | .random => .drawn stream 1000 (.create length.toNat)

/-- A fresh source as the settings ask for it. -/
def ofSettings (stream : Nat → Char) (settings : Settings) : TokenSource :=
  create stream settings.strategy settings.placeholderLength

/-- A fresh source of a strategy and a length that may be given. -/
def choose (stream : Nat → Char) (settings : Settings) (strategy : String) (length : Int) :
    Except UnknownStrategy TokenSource :=
  let length := if length == 0 then settings.placeholderLength else length
  if strategy.isEmpty then .ok (create stream settings.strategy length)
  else match Strategy.ofName? strategy with
    | some strategy => .ok (create stream strategy length)
    | none => .error ⟨strategy⟩

end TokenSource

end FlowTemplate
