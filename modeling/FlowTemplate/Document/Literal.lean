import FlowTemplate.Document.Value
import FlowTemplate.Number.Shortest
import FlowTemplate.Text.Printable
import FlowTemplate.Text.Surrogate
/-!
# Literal notation

How a value is written inside a message. Texts stand in quotes: single ones, unless the text holds
a single quote and no double one. Characters that are not printable are escaped. `Value.display`
is the same notation except that a text on its own stands bare.
-/

namespace FlowTemplate.Literal

/-- Numbers in messages are positional from `0.0001` up to sixteen digits before the point. -/
def floatLayout : Binary64.Layout :=
  { nan := "nan", infinity := "inf", positionalFrom := -4, positionalTo := 15 }

def hexDigit (n : Nat) : Char := (Nat.toDigits 16 n).headD '0'

/-- The lowest `width` hexadecimal digits of a number. -/
def hexDigits : Nat → Nat → List Char
  | 0, _ => []
  | width + 1, n => hexDigits width (n / 16) ++ [hexDigit (n % 16)]

/-- One code point between quotes. -/
def quotedCode (quote : Char) (n : Nat) : List Char :=
  if n == quote.toNat || n == 0x5C then ['\\', Char.ofNat n]
  else if n == 0x0A then ['\\', 'n']
  else if n == 0x0D then ['\\', 'r']
  else if n == 0x09 then ['\\', 't']
  else if Text.isPrintable n then [Char.ofNat n]
  else
    if n < 0x100 then '\\' :: 'x' :: hexDigits 2 n
    else if n < 0x10000 then '\\' :: 'u' :: hexDigits 4 n
    else '\\' :: 'U' :: hexDigits 8 n

/-- The quote a text is written with. -/
def quoteFor (s : List Char) : Char :=
  if s.contains '\'' && !s.contains '"' then '"' else '\''

/-- A text in quotes. -/
def quoted (s : String) : String :=
  let quote := quoteFor s.toList
  String.ofList (quote :: (Text.codes s.toList).flatMap (quotedCode quote) ++ [quote])

/-- One byte between quotes: printable ASCII stands for itself. -/
def quotedByte (quote : Char) (b : UInt8) : List Char :=
  if b.toNat < 0x7F then quotedCode quote b.toNat else '\\' :: 'x' :: hexDigits 2 b.toNat

/-- Bytes in quotes, marked by a leading `b`. -/
def quotedBytes (data : List UInt8) : String :=
  let quote := quoteFor (data.map fun b => Char.ofNat b.toNat)
  String.ofList ('b' :: quote :: data.flatMap (quotedByte quote) ++ [quote])

/-- An offset from UTC, as whole days and the seconds left over. -/
def offset (minutes : Int) : String :=
  if minutes = 0 then "datetime.timezone.utc"
  else
    let seconds := (minutes * 60).emod 86400
    let body := if minutes < 0 then s!"days=-1, seconds={seconds}" else s!"seconds={seconds}"
    "datetime.timezone(datetime.timedelta(" ++ body ++ "))"

/-- A timestamp by its fields; zero seconds and microseconds at the end are left out. -/
def timestamp (t : Timestamp) : String :=
  let date := s!"{t.year}, {t.month}, {t.day}"
  match t.clock with
  | none => "datetime.date(" ++ date ++ ")"
  | some c =>
    let seconds :=
      if c.microsecond ≠ 0 then s!", {c.second}, {c.microsecond}"
      else if c.second ≠ 0 then s!", {c.second}"
      else ""
    let zone := match c.offset with
      | none => ""
      | some minutes => ", tzinfo=" ++ offset minutes
    "datetime.datetime(" ++ date ++ s!", {c.hour}, {c.minute}" ++ seconds ++ zone ++ ")"

def atom : Atom → String
  | .null => "None"
  | .bool b => if b then "True" else "False"
  | .int i => toString i
  | .float x => x.text floatLayout
  | .str s => quoted s
  | .bytes data => quotedBytes data
  | .time t => timestamp t

/-- An atom on its own: texts stand bare and times in ISO notation. -/
def displayAtom : Atom → String
  | .str s => s
  | .time t => t.isoText " "
  | a => atom a

end FlowTemplate.Literal

namespace FlowTemplate.Value

/-- What stands for a container inside itself. -/
def dots : Value → String
  | .list _ => "[...]"
  | .tuple _ => "(...)"
  | _ => "\x7b...\x7d"

mutual

/-- A value in literal notation inside containers that have numbers. -/
def literalWithin (around : List (Nat × String)) : Value → String
  | .atom a => Literal.atom a
  | .list items => "[" ++ ", ".intercalate (literalItems around items) ++ "]"
  | .tuple [item] => "(" ++ literalWithin around item ++ ",)"
  | .tuple items => "(" ++ ", ".intercalate (literalItems around items) ++ ")"
  | .set [] => "set()"
  | .set members => "\x7b" ++ ", ".intercalate (members.map Literal.atom) ++ "\x7d"
  | .map entries => "\x7b" ++ ", ".intercalate (literalEntries around entries) ++ "\x7d"
  | .anchored number v => match around.lookup number with
    | some dots => dots
    | none => literalWithin ((number, dots v) :: around) v
  | .again number => (around.lookup number).getD ""

def literalItems (around : List (Nat × String)) : List Value → List String
  | [] => []
  | v :: rest => literalWithin around v :: literalItems around rest

def literalEntries (around : List (Nat × String)) : List (Atom × Value) → List String
  | [] => []
  | (k, v) :: rest =>
    (Literal.atom k ++ ": " ++ literalWithin around v) :: literalEntries around rest

end

/-- A value in literal notation. -/
def literal (v : Value) : String := literalWithin [] v

/-- A value on its own: a text stands bare. -/
def display : Value → String
  | .atom a => Literal.displayAtom a
  | v => v.literal

end FlowTemplate.Value
