import FlowTemplate.Document.Value
import FlowTemplate.Text.Surrogate
/-!
# Reading JSON text

The reader takes the JSON grammar, and besides it the numbers `NaN`, `Infinity` and `-Infinity`
and escapes of unpaired surrogates. A repeated key keeps its first place and its last value. A
fault names what is wrong and how much text was left where it was found, from which line and
column follow.
-/

namespace FlowTemplate.Json

/-- What is wrong with a text. -/
inductive Problem where
  | value
  | propertyName
  | colon
  | comma
  | unterminatedText
  | controlCharacter
  | escape
  | unicodeEscape
  | extraData
  | byteOrderMark
  deriving DecidableEq

def Problem.message : Problem → String
  | .value => "Expecting value"
  | .propertyName => "Expecting property name enclosed in double quotes"
  | .colon => "Expecting ':' delimiter"
  | .comma => "Expecting ',' delimiter"
  | .unterminatedText => "Unterminated string starting at"
  | .controlCharacter => "Invalid control character at"
  | .escape => "Invalid \\escape"
  | .unicodeEscape => "Invalid \\uXXXX escape"
  | .extraData => "Extra data"
  | .byteOrderMark => "Unexpected UTF-8 BOM (decode using utf-8-sig)"

/-- A problem and the number of characters from its place to the end of the text. -/
structure Fault where
  problem : Problem
  remaining : Nat
  deriving DecidableEq

def fault {α : Type} (problem : Problem) (rest : List Char) : Except Fault α :=
  .error ⟨problem, rest.length⟩

def isBlank (c : Char) : Bool := c == ' ' || c == '\t' || c == '\n' || c == '\r'

def skipBlanks (s : List Char) : List Char := s.dropWhile isBlank

/-- The value of a hexadecimal digit. -/
def hexValue? (c : Char) : Option Nat :=
  if '0' ≤ c && c ≤ '9' then some (c.toNat - '0'.toNat)
  else if 'a' ≤ c && c ≤ 'f' then some (c.toNat - 'a'.toNat + 10)
  else if 'A' ≤ c && c ≤ 'F' then some (c.toNat - 'A'.toNat + 10)
  else none

/-- The number of four hexadecimal digits. -/
def hexQuad? (a b c d : Char) : Option Nat :=
  match hexValue? a, hexValue? b, hexValue? c, hexValue? d with
  | some a, some b, some c, some d => some (((a * 16 + b) * 16 + c) * 16 + d)
  | _, _, _, _ => none

/-- The character that a one-letter escape stands for. -/
def shortEscape? : Char → Option Char
  | '"' => some '"'
  | '\\' => some '\\'
  | '/' => some '/'
  | 'b' => some '\x08'
  | 'f' => some '\x0c'
  | 'n' => some '\n'
  | 'r' => some '\r'
  | 't' => some '\t'
  | _ => none

/-- What an escape is followed by, as far as it decides about a surrogate pair. -/
inductive Following where
  | pair (low : Nat)
  | malformed (remaining : Nat)
  | other

/-- Looks for the second escape of a surrogate pair. A text that ends with the escape cannot hold
one, for the closing quote is missing. -/
def following : List Char → Following
  | '\\' :: 'u' :: a :: b :: c :: d :: _ :: rest =>
    match hexQuad? a b c d with
    | some n => if Text.isLowSurrogate n then .pair n else .other
    | none => .malformed (rest.length + 6)
  | _ => .other

/-- The characters up to the closing quote, in reverse, and the text after it. `opening` is the
number of characters left at the opening quote. -/
def readText (opening : Nat) (done : List Char) : List Char → Except Fault (List Char × List Char)
  | [] => .error ⟨.unterminatedText, opening⟩
  | '"' :: rest => .ok (done, rest)
  | '\\' :: [] => .error ⟨.unterminatedText, opening⟩
  | '\\' :: 'u' :: a :: b :: c :: d :: e :: rest =>
    match hexQuad? a b c d with
    | none => fault .unicodeEscape ('u' :: a :: b :: c :: d :: e :: rest)
    | some n =>
      if Text.isHighSurrogate n then
        match following (e :: rest) with
        | .malformed remaining => .error ⟨.unicodeEscape, remaining⟩
        | .other => readText opening ((Text.ofCodePoint n).reverse ++ done) (e :: rest)
        | .pair low =>
          match e, rest with
          | '\\', 'u' :: _ :: _ :: _ :: _ :: rest =>
            readText opening (Char.ofNat (Text.joinSurrogates n low) :: done) rest
          | _, _ => fault .unicodeEscape rest
      else readText opening ((Text.ofCodePoint n).reverse ++ done) (e :: rest)
  | '\\' :: c :: rest =>
    if c == 'u' then fault .unicodeEscape (c :: rest)
    else match shortEscape? c with
      | some decoded => readText opening (decoded :: done) rest
      | none => fault .escape ('\\' :: c :: rest)
  | c :: rest =>
    if c.toNat < 0x20 then fault .controlCharacter (c :: rest)
    else readText opening (c :: done) rest

/-- The text whose opening quote has just been read. -/
def readString (s : List Char) : Except Fault (String × List Char) := do
  let (reversed, rest) ← readText (s.length + 1) [] s
  return (String.ofList reversed.reverse, rest)

/-- The digits at the front of a text and what follows them. -/
def spanDigits (s : List Char) : List Char × List Char :=
  (s.takeWhile Char.isDigit, s.dropWhile Char.isDigit)

/-- The number that a run of decimal digits writes. -/
def digitsValue (digits : List Char) : Nat :=
  digits.foldl (fun n c => n * 10 + (c.toNat - '0'.toNat)) 0

/-- The digits before the point of a number: a zero on its own, or digits that do not start with
zero. -/
def readWhole? : List Char → Option (List Char × List Char)
  | '0' :: rest => some (['0'], rest)
  | c :: rest =>
    if c.isDigit then
      let (digits, rest) := spanDigits rest
      some (c :: digits, rest)
    else none
  | [] => none

/-- The digits after the point; without any the point is not part of the number. -/
def readFraction : List Char → Option (List Char) × List Char
  | '.' :: rest =>
    match spanDigits rest with
    | ([], _) => (none, '.' :: rest)
    | (digits, after) => (some digits, after)
  | s => (none, s)

/-- The sign in front of an exponent. -/
def readSign : List Char → Bool × List Char
  | '-' :: rest => (true, rest)
  | '+' :: rest => (false, rest)
  | s => (false, s)

/-- The exponent of a number; without digits the letter is not part of the number. -/
def readExponent (s : List Char) : Option Int × List Char :=
  match s with
  | c :: rest =>
    if c == 'e' || c == 'E' then
      let (negative, rest) := readSign rest
      match spanDigits rest with
      | ([], _) => (none, s)
      | (digits, after) =>
        let n : Int := digitsValue digits
        (some (if negative then -n else n), after)
    else (none, s)
  | [] => (none, s)

/-- A number at the front of a text. With a fraction or an exponent it is a double. -/
def readNumber? (negative : Bool) (s : List Char) : Option (Atom × List Char) := do
  let (whole, rest) ← readWhole? s
  let (fraction, rest) := readFraction rest
  let (exponent, rest) := readExponent rest
  match fraction, exponent with
  | none, none =>
    let n : Int := digitsValue whole
    return (.int (if negative then -n else n), rest)
  | _, _ =>
    let places := fraction.getD []
    let x := Binary64.ofDecimal negative (digitsValue (whole ++ places))
      (exponent.getD 0 - places.length)
    return (.float x, rest)

/-- The text after a word, if it starts with the word. -/
def dropWord? : List Char → List Char → Option (List Char)
  | [], s => some s
  | w :: word, c :: s => if w == c then dropWord? word s else none
  | _ :: _, [] => none

/-- The words that stand for values. -/
def words : List (String × Atom) :=
  [("null", .null), ("true", .bool true), ("false", .bool false), ("NaN", .float .nan),
    ("Infinity", .float (.infinity false)), ("-Infinity", .float (.infinity true))]

/-- A word or a number at the front of a text. -/
def readScalar? (s : List Char) : Option (Atom × List Char) :=
  match words.findSome? fun (word, a) => (dropWord? word.toList s).map (a, ·) with
  | some found => some found
  | none => match s with
    | '-' :: rest => readNumber? true rest
    | _ => readNumber? false s

mutual

/-- The value at the front of a text. The first argument bounds the depth of the calls; twice the
length of the text is enough. -/
def readValue : Nat → List Char → Except Fault (Value × List Char)
  | 0, s => fault .value s
  | _ + 1, [] => fault .value []
  | _ + 1, '"' :: rest => do
    let (s, rest) ← readString rest
    return (.str s, rest)
  | n + 1, '[' :: rest =>
    match skipBlanks rest with
    | ']' :: rest => .ok (.list [], rest)
    | rest => do
      let (items, rest) ← readItems n rest
      return (.list items, rest)
  | n + 1, '{' :: rest =>
    match skipBlanks rest with
    | '}' :: rest => .ok (.map [], rest)
    | rest => do
      let (pairs, rest) ← readMembers n rest
      return (.map (Entries.ofPairs pairs), rest)
  | _ + 1, s =>
    match readScalar? s with
    | some (a, rest) => .ok (.atom a, rest)
    | none => fault .value s

/-- Items up to the closing bracket. -/
def readItems : Nat → List Char → Except Fault (List Value × List Char)
  | 0, s => fault .value s
  | n + 1, s => do
    let (v, rest) ← readValue n s
    match skipBlanks rest with
    | ']' :: rest => return ([v], rest)
    | ',' :: rest => do
      let (items, rest) ← readItems n (skipBlanks rest)
      return (v :: items, rest)
    | rest => fault .comma rest

/-- Members up to the closing brace. -/
def readMembers : Nat → List Char → Except Fault (List (Atom × Value) × List Char)
  | 0, s => fault .value s
  | n + 1, '"' :: rest => do
    let (key, rest) ← readString rest
    match skipBlanks rest with
    | ':' :: rest =>
      let (v, rest) ← readValue n (skipBlanks rest)
      match skipBlanks rest with
      | '}' :: rest => return ([(.str key, v)], rest)
      | ',' :: rest => do
        let (pairs, rest) ← readMembers n (skipBlanks rest)
        return ((.str key, v) :: pairs, rest)
      | rest => fault .comma rest
    | rest => fault .colon rest
  | _ + 1, s => fault .propertyName s

end

/-- The value a whole text writes. -/
def parseChars (s : List Char) : Except Fault Value := do
  if s.head? == some '\uFEFF' then fault .byteOrderMark s
  let start := skipBlanks s
  let (v, rest) ← readValue (2 * start.length + 2) start
  match skipBlanks rest with
  | [] => return v
  | rest => fault .extraData rest

/-- Where in a text a fault lies. -/
structure Place where
  line : Nat
  column : Nat
  offset : Nat

/-- The place after some characters; lines and columns count from one, in code points. -/
def Place.after (before : List Char) : Place :=
  { line := before.count '\n' + 1
    column := (Text.codes (before.reverse.takeWhile (· != '\n')).reverse).length + 1
    offset := (Text.codes before).length }

/-- A fault with its place in the text. -/
structure ParseError where
  problem : Problem
  place : Place

def ParseError.message (e : ParseError) : String :=
  s!"{e.problem.message}: line {e.place.line} column {e.place.column} (char {e.place.offset})"

/-- The value a text writes, or what is wrong with it. -/
def parse (text : String) : Except ParseError Value :=
  let s := text.toList
  match parseChars s with
  | .ok v => .ok v
  | .error f => .error ⟨f.problem, .after (s.take (s.length - f.remaining))⟩

end FlowTemplate.Json
