import FlowTemplate.Document.Atom
import FlowTemplate.Text.Digit
import FlowTemplate.Yaml.Cursor
import FlowTemplate.Yaml.NodeTag
/-!
# Values of scalars

What the text of a scalar means under its tag. Numbers may have underscores anywhere, parts to base
sixty between colons, and digits to base two, eight or sixteen behind a mark.
-/

namespace FlowTemplate.Yaml

namespace ScalarValue

/-! ## Whole numbers -/

/-- The value of a digit to bases up to sixteen. -/
def digitValue? (base : Nat) (c : Char) : Option Nat :=
  let value? := hexNumber? [c]
  value?.filter (· < base)

/-- The number that digits write; there must be at least one. -/
def digitsValue? (base : Nat) (s : List Char) : Option Nat :=
  if s.isEmpty then none
  else s.foldlM (fun n c => (digitValue? base c).map (base * n + ·)) 0

/-- Digits without the mark of their base. -/
def withoutMark (base : Nat) (s : List Char) : List Char :=
  match s with
  | '0' :: c :: rest =>
    let mark := c.toLower
    if (base == 2 && mark == 'b') || (base == 8 && mark == 'o') || (base == 16 && mark == 'x') then
      rest
    else s
  | _ => s

/-- A whole number to a base, with blanks around it, a sign and the mark of the base allowed. -/
def wholeNumber (base : Nat) (s : List Char) : Except Fault Int :=
  let s := Text.withPlainDigits (Text.trim s)
  let negative := s.head? == some '-'
  let digits := withoutMark base (NodeTag.withoutSign s)
  if base == 10 && digits.length > Text.mostDigits then .error .unreadable
  else match digitsValue? base digits with
    | some n => .ok (if negative then -(n : Int) else n)
    | none => .error .unreadable

/-- Whole parts to base sixty, the greatest first. -/
def sexagesimal (parts : List (List Char)) : Except Fault Int :=
  parts.foldlM (fun n part => (wholeNumber 10 part).map (60 * n + ·)) 0

/-- A text without underscores, and without the sign that it starts with. -/
def signed (s : List Char) : Except Fault (Bool × List Char) :=
  let s := s.filter (· != '_')
  if s.isEmpty then .error .noDigits
  else .ok (s.head? == some '-', NodeTag.withoutSign s)

def int (text : String) : Except Fault Int := do
  let (negative, s) ← signed text.toList
  let n ← match s with
    | ['0'] => pure 0
    | '0' :: 'b' :: rest => wholeNumber 2 rest
    | '0' :: 'x' :: rest => wholeNumber 16 rest
    | '0' :: _ => wholeNumber 8 s
    | [] => throw .noDigits
    | _ => if s.contains ':' then sexagesimal (s.splitOn ':') else wholeNumber 10 s
  return if negative then -n else n

/-! ## Floating point numbers -/

/-- Digits, a point and digits, an exponent. -/
def decimal? (negative : Bool) (s : List Char) : Option Binary64 :=
  let (whole, rest) := s.span Char.isDigit
  let (fraction, rest) := match rest with
    | '.' :: rest => rest.span Char.isDigit
    | _ => ([], rest)
  let exponent? : Option Int := match rest with
    | [] => some 0
    | 'e' :: rest =>
      (digitsValue? 10 (NodeTag.withoutSign rest)).map fun (n : Nat) =>
        if rest.head? == some '-' then -(n : Int) else n
    | _ => none
  match digitsValue? 10 (whole ++ fraction), exponent? with
  | some n, some e => some (.ofDecimal negative n (e - fraction.length))
  | _, _ => none

/-- A number in lower-case letters, with blanks around it and a sign allowed. -/
def float? (s : List Char) : Option Binary64 :=
  let s := Text.withPlainDigits (Text.trim s)
  let negative := s.head? == some '-'
  let digits := NodeTag.withoutSign s
  if ["inf", "infinity"].contains (String.ofList digits) then some (.infinity negative)
  else if digits == ['n', 'a', 'n'] then some .nan
  else decimal? negative digits

/-- The sum of parts to base sixty, the last part first; each is scaled, which has a limit. -/
def sumOfSixtieths : (sum : Binary64) → (scale : Int) → List Binary64 → Except Fault Binary64
  | sum, _, [] => .ok sum
  | sum, scale, x :: rest =>
    match (Binary64.ofInt scale).kind with
    | .infinite _ => .error .tooLarge
    | _ => sumOfSixtieths (sum.add (x.mul (.ofInt scale))) (scale * 60) rest

/-- Parts to base sixty, the greatest first. Each is scaled and added from the last part on. -/
def sexagesimalFloat (parts : List (List Char)) : Except Fault Binary64 :=
  let read (part : List Char) : Except Fault Binary64 := match float? part with
    | some x => .ok x
    | none => .error .unreadable
  do
    let values ← parts.mapM read
    sumOfSixtieths (.ofInt 0) 1 values.reverse

def float (text : String) : Except Fault Binary64 := do
  let (negative, s) ← signed (text.toList.map Char.toLower)
  let x ← if s == ['.', 'i', 'n', 'f'] then pure (.infinity false)
    else if s == ['.', 'n', 'a', 'n'] then pure .nan
    else if s.contains ':' then sexagesimalFloat (s.splitOn ':')
    else match float? s with
      | some x => pure x
      | none => throw .unreadable
  return if negative && !x.isNaN then x.neg else x

/-! ## Truth values, bytes and timestamps -/

def bool (text : String) : Except Fault Bool :=
  let word := text.map Char.toLower
  if ["yes", "true", "on"].contains word then .ok true
  else if ["no", "false", "off"].contains word then .ok false
  else .error .unknownTruth

/-- The value of a letter of base 64. -/
def base64Value? (c : Char) : Option Nat :=
  "ABCDEFGHIJKLMNOPQRSTUVWXYZabcdefghijklmnopqrstuvwxyz0123456789+/".toList.idxOf? c

/-- The bytes of base 64 text. `held` are the letters of a group that is not complete and `pads` the
marks behind them; other characters do not count, and a complete group with marks ends the text. -/
def base64Bytes (held : List Nat) (pads : Nat) : List Char → Option (List UInt8)
  | [] => if held.isEmpty then some [] else none
  | c :: rest =>
    if c == '=' then
      if held.length ≥ 2 then
        if held.length + pads + 1 ≥ 4 then some [] else base64Bytes held (pads + 1) rest
      else base64Bytes held pads rest
    else match base64Value? c with
      | none => base64Bytes held pads rest
      | some n =>
        let put (byte : Nat) (held : List Nat) : Option (List UInt8) :=
          (base64Bytes held 0 rest).map ((byte % 256).toUInt8 :: ·)
        match held with
        | [] => base64Bytes [n] 0 rest
        | [a] => put (a * 4 + n / 16) [a, n]
        | [a, b] => put (b * 16 + n / 4) [a, b, n]
        | _ :: _ :: d :: _ => put (d * 64 + n) []

def binary (text : String) : Except Fault (List UInt8) :=
  if text.toList.all fun c => c.toNat < 0x80 then
    match base64Bytes [] 0 text.toList with
    | some data => .ok data
    | none => .error .malformed
  else .error .malformed

/-- A number of at least `least` and at most `most` digits, and what is behind it. -/
def digitRun? (least most : Nat) (s : List Char) : Option (Nat × List Char) :=
  let digits := (s.take most).takeWhile Char.isDigit
  if digits.length < least then none
  else (digitsValue? 10 digits).map fun n => (n, s.drop digits.length)

/-- What is behind a character. -/
def behind? (c : Char) : List Char → Option (List Char)
  | d :: rest => if c == d then some rest else none
  | [] => none

/-- The digits behind a point as a millionth part; further digits are dropped. -/
def millionths (digits : List Char) : Nat :=
  let six := digits.take 6 ++ List.replicate (6 - digits.length) '0'
  (digitsValue? 10 six).getD 0

/-- An offset from UTC in minutes at the end of a timestamp. -/
def offset? (s : List Char) : Option (Option Int) :=
  match s.dropWhile isBlank with
  | [] => if s.isEmpty then some none else none
  | ['Z'] => some (some 0)
  | sign :: rest =>
    if sign == '+' || sign == '-' then do
      let (hours, rest) ← digitRun? 1 2 rest
      let minutes ← match rest with
        | [] => some 0
        | ':' :: rest => match digitRun? 2 2 rest with
          | some (minutes, []) => some minutes
          | _ => none
        | _ => none
      let total : Int := hours * 60 + minutes
      return some (if sign == '-' then -total else total)
    else none

/-- The time of day of a timestamp, from behind the mark between date and time. -/
def clock? (s : List Char) : Option ClockTime := do
  let (hour, s) ← digitRun? 1 2 s
  let (minute, s) ← digitRun? 2 2 (← behind? ':' s)
  let (second, s) ← digitRun? 2 2 (← behind? ':' s)
  let (fraction, s) := match s with
    | '.' :: rest => rest.span Char.isDigit
    | _ => ([], s)
  let offset ← offset? s
  return { hour, minute, second, microsecond := millionths fraction, offset }

/-- The fields of a timestamp, if the text has its form. -/
def timestampFields? (s : List Char) : Option Timestamp := do
  let (year, s) ← digitRun? 4 4 s
  let (month, s) ← digitRun? 1 2 (← behind? '-' s)
  let (day, s) ← digitRun? 1 2 (← behind? '-' s)
  match s with
  | [] => return { year, month, day, clock := none }
  | mark :: rest =>
    let rest := if isBlank mark then rest.dropWhile isBlank else rest
    if isBlank mark || mark == 'T' || mark == 't' then
      return { year, month, day, clock := some (← clock? rest) }
    else none

def timestamp (text : String) : Except Fault Timestamp :=
  let s := text.toList
  let fields? := timestampFields? s <|>
    (if s.getLast? == some '\n' then timestampFields? s.dropLast else none)
  match fields? with
  | some t => if t.isValid then .ok t else .error .unreadable
  | none => .error .noTimestamp

end ScalarValue

/-- The value of a text under the tag of its node, if that is one for scalars. -/
def NodeTag.atom (tag : NodeTag) (text : String) : Except Fault Atom :=
  match tag with
  | .null => .ok .null
  | .bool => (ScalarValue.bool text).map .bool
  | .int => (ScalarValue.int text).map .int
  | .float => (ScalarValue.float text).map .float
  | .binary => (ScalarValue.binary text).map .bytes
  | .timestamp => (ScalarValue.timestamp text).map .time
  | .str => .ok (.str text)
  | _ => .error .malformed

end FlowTemplate.Yaml
