import FlowTemplate.Document.Value
import FlowTemplate.Document.Literal
import FlowTemplate.Number.Shortest
import FlowTemplate.Text.Surrogate
/-!
# JSON text of a value

Entries and items stand in their own order. On one line the separators are `", "` and `": "`;
with an indentation every item has a line of its own. Tuples are written as lists, and keys that
are numbers, truth values or null as their text. Sets, bytes and timestamps have no JSON text.
-/

namespace FlowTemplate.Json

/-- Lines and characters of the text. `indent = none` keeps everything on one line. -/
structure Style where
  indent : Option Nat
  /-- Write every character beyond ASCII as an escape. -/
  asciiOnly : Bool
  /-- Leave out the blanks after separators. -/
  tight : Bool := false

/-- One line, characters as they are. -/
def oneLine : Style := { indent := none, asciiOnly := false }

/-- A line per item, with two blanks for each level. -/
def twoBlanks : Style := { indent := some 2, asciiOnly := false }

/-- One line of ASCII characters. -/
def oneAsciiLine : Style := { indent := none, asciiOnly := true }

/-- One line of ASCII characters without blanks. -/
def tightAsciiLine : Style := { indent := none, asciiOnly := true, tight := true }

def floatLayout : Binary64.Layout :=
  { nan := "NaN", infinity := "Infinity", positionalFrom := -4, positionalTo := 15 }

/-- An escape `\uXXXX` with lower-case digits. -/
def unicodeEscape (n : Nat) : List Char := '\\' :: 'u' :: Literal.hexDigits 4 n

/-- A code point beyond ASCII as one escape, or as the two of a surrogate pair. -/
def wideEscape (n : Nat) : List Char :=
  if n < 0x10000 then unicodeEscape n
  else unicodeEscape (0xD800 + (n - 0x10000) / 0x400)
    ++ unicodeEscape (0xDC00 + (n - 0x10000) % 0x400)

/-- One character of a text. -/
def escapedChar (c : Char) : List Char :=
  if c == '"' then ['\\', '"']
  else if c == '\\' then ['\\', '\\']
  else if c == '\n' then ['\\', 'n']
  else if c == '\r' then ['\\', 'r']
  else if c == '\t' then ['\\', 't']
  else if c == '\x08' then ['\\', 'b']
  else if c == '\x0c' then ['\\', 'f']
  else if c.toNat < 0x20 then unicodeEscape c.toNat
  else [c]

/-- One code point of a text in ASCII. -/
def escapedCode (n : Nat) : List Char :=
  if n < 0x7F then escapedChar (Char.ofNat n) else wideEscape n

/-- A text in quotes. -/
def quoted (asciiOnly : Bool) (s : String) : List Char :=
  let body := if asciiOnly then (Text.codes s.toList).flatMap escapedCode
    else s.toList.flatMap escapedChar
  '"' :: body ++ ['"']

def integer (i : Int) : List Char :=
  if i < 0 then '-' :: Nat.toDigits 10 i.natAbs else Nat.toDigits 10 i.natAbs

/-- The text of an atom without quotes, if it has one: what stands for a key that is no text. -/
def bareAtom : Atom → List Char
  | .null => "null".toList
  | .bool b => if b then "true".toList else "false".toList
  | .int i => integer i
  | .float x => (x.text floatLayout).toList
  | .str s => s.toList
  | .bytes _ | .time _ => []

def renderAtom (style : Style) : Atom → List Char
  | .str s => quoted style.asciiOnly s
  | a => bareAtom a

/-- A key, always in quotes. -/
def renderKey (style : Style) : Atom → List Char
  | .str s => quoted style.asciiOnly s
  | a => '"' :: bareAtom a ++ ['"']

/-- What stands after an opening bracket and before a closing one. -/
def lineBreak (style : Style) (depth : Nat) : List Char :=
  match style.indent with
  | none => []
  | some width => '\n' :: List.replicate (width * depth) ' '

/-- What stands between two items. -/
def separator (style : Style) (depth : Nat) : List Char :=
  match style.indent with
  | none => if style.tight then [','] else [',', ' ']
  | some _ => ',' :: lineBreak style depth

/-- What stands between a key and its value. -/
def colon (style : Style) : List Char := if style.tight then [':'] else [':', ' ']

mutual

/-- The JSON text of a value at a nesting depth. Values that have none leave a gap: see
`Value.hasJson`. -/
def render (style : Style) (depth : Nat) : Value → List Char
  | .atom a => renderAtom style a
  | .list [] | .tuple [] => ['[', ']']
  | .list (v :: rest) | .tuple (v :: rest) =>
    '[' :: lineBreak style (depth + 1) ++ render style (depth + 1) v
      ++ renderItems style (depth + 1) rest ++ lineBreak style depth ++ [']']
  | .set _ | .again _ => []
  | .anchored _ v => render style depth v
  | .map [] => ['{', '}']
  | .map ((k, v) :: rest) =>
    '{' :: lineBreak style (depth + 1) ++ renderKey style k ++ colon style
      ++ render style (depth + 1) v ++ renderEntries style (depth + 1) rest
      ++ lineBreak style depth ++ ['}']

def renderItems (style : Style) (depth : Nat) : List Value → List Char
  | [] => []
  | v :: rest => separator style depth ++ render style depth v ++ renderItems style depth rest

def renderEntries (style : Style) (depth : Nat) : List (Atom × Value) → List Char
  | [] => []
  | (k, v) :: rest =>
    separator style depth ++ renderKey style k ++ colon style ++ render style depth v
      ++ renderEntries style depth rest

end

end FlowTemplate.Json

namespace FlowTemplate

/-- Why a value has no JSON text. -/
inductive JsonFault where
  /-- It holds a set, bytes or a timestamp, keys included. -/
  | noText
  /-- It holds a container that holds itself. -/
  | endless
  deriving DecidableEq

/-- Whether an atom can be written in JSON. -/
def Atom.hasJson : Atom → Bool
  | .bytes _ | .time _ => false
  | _ => true

namespace Value

mutual

/-- The first reason why a value has no JSON text, inside containers that have numbers. -/
def jsonFault (around : List Nat) : Value → Option JsonFault
  | .atom a => if a.hasJson then none else some .noText
  | .list items | .tuple items => itemsFault around items
  | .set _ => some .noText
  | .map entries => entriesFault around entries
  | .anchored number v =>
    if around.contains number then some .endless else jsonFault (number :: around) v
  | .again _ => some .endless

def itemsFault (around : List Nat) : List Value → Option JsonFault
  | [] => none
  | v :: rest => match jsonFault around v with
    | some fault => some fault
    | none => itemsFault around rest

def entriesFault (around : List Nat) : List (Atom × Value) → Option JsonFault
  | [] => none
  | (k, v) :: rest =>
    if k.hasJson then match jsonFault around v with
      | some fault => some fault
      | none => entriesFault around rest
    else some .noText

end

/-- Whether a value can be written in JSON. -/
def hasJson (v : Value) : Bool := (v.jsonFault []).isNone

/-- The JSON text of a value, or why it has none. -/
def toJson (style : Json.Style) (v : Value) : Except JsonFault String :=
  match v.jsonFault [] with
  | some fault => .error fault
  | none => .ok (String.ofList (Json.render style 0 v))

/-- The JSON text of a value, if it has one. -/
def json? (style : Json.Style) (v : Value) : Option String := (v.toJson style).toOption

end Value

end FlowTemplate
