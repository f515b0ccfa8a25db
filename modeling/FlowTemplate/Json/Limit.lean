import FlowTemplate.Json.Parser
import FlowTemplate.Text.Digit
/-!
# Limits of a reader

A text can hold an integer with more digits, or containers nested deeper, than a reader takes. It
stops there, before it looks at what is wrong further on.
-/

namespace FlowTemplate.Json

/-- What a text has too much of. -/
inductive Excess where
  | digits
  | depth
  deriving DecidableEq

def Excess.message : Excess → String
  | .digits => "an integer has too many digits"
  | .depth => "containers are nested too deep"

/-- How deep containers may be nested. -/
def maxDepth : Nat := 985

/-- What is behind the closing quote of a string. -/
def behindString : List Char → List Char
  | [] => []
  | '"' :: rest => rest
  | '\\' :: _ :: rest => behindString rest
  | _ :: rest => behindString rest

/-- Whether a number is an integer with too many digits, and what is behind it. -/
def skipNumber (s : List Char) : Bool × List Char :=
  let (whole, rest) := spanDigits s
  let (fraction, rest) := readFraction rest
  let (exponent, rest) := readExponent rest
  (fraction.isNone && exponent.isNone && whole.length > Text.mostDigits, rest)

/-- The first excess of a text inside of some containers. Every step takes at least one character. -/
def excessWithin : (fuel depth : Nat) → List Char → Option Excess
  | 0, _, _ => none
  | fuel + 1, depth, s =>
    match s with
    | [] => none
    | '"' :: rest => excessWithin fuel depth (behindString rest)
    | c :: rest =>
      if c == '[' || c == '{' then
        if depth == maxDepth then some .depth else excessWithin fuel (depth + 1) rest
      else if c == ']' || c == '}' then excessWithin fuel (depth - 1) rest
      else if c.isDigit then
        let (tooLong, rest) := skipNumber (c :: rest)
        if tooLong then some .digits else excessWithin fuel depth rest
      else excessWithin fuel depth rest

/-- The first excess of a text, up to where it is no longer JSON. -/
def excess? (text : String) : Option Excess :=
  let s := text.toList
  let unread := match parseChars s with
    | .ok _ => 0
    | .error f => f.remaining
  excessWithin s.length 0 (s.take (s.length - unread))

end FlowTemplate.Json
