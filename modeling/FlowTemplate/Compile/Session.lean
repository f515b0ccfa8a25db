import FlowTemplate.Compile.Error
import FlowTemplate.Json.Printer
import FlowTemplate.Log.Entry
/-!
# Sessions

What a pass carries from one machine to the next: the source of placeholder names and the log so
far. Both survive a failure.
-/

namespace FlowTemplate

structure Session where
  tokens : TokenSource
  log : List Log.Entry

/-- A computation in a session. -/
abbrev Compile (α : Type) := ExceptT CompileError (StateM Session) α

namespace Session

def start (tokens : TokenSource) : Session := { tokens, log := [] }

/-- The next placeholder name. -/
def nextToken (s : Session) : Except TokenFailure String × Session :=
  let (result, tokens) := s.tokens.next
  (result, { s with tokens })

end Session

namespace Compile

def tell (level : Log.Level) (message : String) : Compile Unit :=
  modify fun s => { s with log := s.log ++ [⟨level, message⟩] }

/-- The outcome of a step that needs no session. -/
def lift {ε α : Type} (encode : ε → CompileError) : Except ε α → Compile α
  | .ok a => return a
  | .error e => throw (encode e)

end Compile

/-- What a pass is told beside the machines and the template. -/
structure Context where
  /-- Tags that every machine gets. -/
  providerTags : Value
  /-- The functions whose names are resolved; `none` leaves references as they are, and then
  nothing can be pinned. -/
  functions : Option (List String)
  /-- Whether definitions are linted before they are compiled. -/
  lints : Bool
  style : Json.Style

namespace Context

/-- A reference with the names of declared functions resolved. -/
def resolve (context : Context) : Value → Value :=
  match context.functions with
  | some functions => Reference.resolve functions
  | none => id

/-- A reference pinned to a version that the template holds. -/
def pin (context : Context) (template v : Value) : Except Reference.PinFailure Value :=
  match context.functions with
  | some _ => Reference.pin template v
  | none => .error (.noResolver v)

end Context

end FlowTemplate
