import FlowTemplate.Record.Reader
import FlowTemplate.Text.Digit
/-!
# Numbers and truth values from plain text

Fields whose values come from outside as text: truth values by name, and whole numbers with an
optional sign, zeros in front, single underscores between digits and a fraction of zeros.
-/

namespace FlowTemplate.Record

/-- The texts that stand for a truth value, in any case. -/
def truthOfText? (s : String) : Option Bool :=
  let s := s.map Char.toLower
  if ["1", "t", "y", "on", "yes", "true"].contains s then some true
  else if ["0", "f", "n", "no", "off", "false"].contains s then some false
  else none

def truthText (s : String) : Checked Bool :=
  match truthOfText? s with
  | some b => .ok b
  | none => if (Text.plain? s).isNone then refuse .textEncoding else refuse .truthText

/-- A number that stands for a truth value. Numbers beyond 64 bits count as no number. -/
def truthOfInt (i : Int) : Checked Bool :=
  if i == 0 then .ok false
  else if i == 1 then .ok true
  else if -(twoTo 63) ≤ i && i < twoTo 63 then refuse .truthText
  else refuse .truth

/-- A truth value, as itself, by name, or as the number 0 or 1. -/
def truth : Value → Checked Bool
  | .atom (.bool b) => .ok b
  | .atom (.str s) => truthText s
  | .atom (.bytes data) => match Text.ofBytes? data with
    | some s => truthText s
    | none => refuse .truthText
  | .atom (.int i) => truthOfInt i
  | .atom (.float x) => match x.toInt? with
    | some i => if -(twoTo 63) < i && i < twoTo 63 then truthOfInt i else refuse .truth
    | none => refuse .truth
  | _ => refuse .truth

/-- The number that a sign and digits write, without zeros in front. The text may not have more digits
than a number is read from; this is seen before what is behind them. -/
def readPlain (s : List Char) : Checked Int :=
  let negative := s.head? == some '-'
  let unsigned := if negative then s.drop 1 else s
  let digits := unsigned.takeWhile Char.isDigit
  if digits.head?.any (· != '0') && s.length - unsigned.length + digits.length > Text.mostDigits then
    refuse .integerSize
  else if unsigned == ['0'] then .ok 0
  else if digits.length < unsigned.length || digits.head?.all (· == '0') then refuse .integerText
  else
    let n : Int := digits.foldl (fun n c => 10 * n + (c.toNat - '0'.toNat)) 0
    .ok (if negative then -n else n)

/-- White space that may stand around a number: all blanks but the separators of ASCII. -/
def isMargin (c : Char) : Bool := Text.isBlank c && !('\x1c' ≤ c && c ≤ '\x1f')

def withoutMargins (s : List Char) : List Char :=
  ((s.dropWhile isMargin).reverse.dropWhile isMargin).reverse

/-- A number without zeros and underscores in front, of which one zero stays before a point or the
end. -/
def withoutLeadingZeros? (s : List Char) : Option (List Char) :=
  match s with
  | '0' :: _ =>
    let (zeros, rest) := s.span fun c => c == '0' || c == '_'
    match rest with
    | [] => some (zeros.drop (zeros.length - 1))
    | '.' :: _ => some (zeros.drop (zeros.length - 1) ++ rest)
    | c :: _ => if c.isDigit then some rest else none
  | c :: _ => if c.isDigit || c == '-' then some s else none
  | [] => none

/-- A number without its point and the zeros behind it; other fractions it may not have. -/
def withoutZeroFraction? (s : List Char) : Option (List Char) :=
  match s.span (· != '.') with
  | (whole, '.' :: fraction) => if fraction.all (· == '0') then some whole else none
  | _ => some s

/-- Whether two underscores stand side by side. -/
def hasDoubleUnderscore : List Char → Bool
  | '_' :: '_' :: _ => true
  | _ :: rest => hasDoubleUnderscore rest
  | [] => false

/-- A number without single underscores inside of it; any others stay. -/
def withoutUnderscores (s : List Char) : List Char :=
  if s.head? == some '_' || s.getLast? == some '_' || hasDoubleUnderscore s then s
  else s.filter (· != '_')

/-- What is left of a number in one of the looser spellings: with blanks around it, a plus, zeros in
front, a fraction of zeros, or underscores. -/
def cleaned? (s : List Char) : Option (List Char) := do
  let s := withoutMargins s
  let s ← match s with
    | '+' :: '-' :: _ => none
    | '+' :: rest => some rest
    | _ => some s
  let s ← withoutLeadingZeros? s
  let s ← withoutZeroFraction? s
  return withoutUnderscores s

/-- The number that a text writes. -/
def intOfText (s : String) : Checked Int :=
  match readPlain s.toList with
  | .error [⟨_, .integerText⟩] => match cleaned? s.toList with
    | some cs => readPlain cs
    | none => refuse .integerText
  | result => result

/-- A whole number that is not below a least one. -/
def intTextFrom (least : Int) (s : String) : Checked Int := do
  let i ← intOfText s
  if i < least then refuse .least else return i

end FlowTemplate.Record
