import FlowTemplate.Document.Literal
import FlowTemplate.Number.Rounded
/-!
# Format directives

A format is a text with directives: a percent sign, perhaps a key in parentheses, flags, a width, a
precision, and a letter for the form. Directives with a key take a value of a mapping, the others
take the values of a list one after the other.
-/

namespace FlowTemplate.Directive

/-- Why a format cannot be filled in. -/
inductive Failure where
  /-- A value does not suit its directive, or there are too few or too many values. -/
  | unsuitable
  /-- The mapping has no such key. -/
  | noSuchKey
  /-- The directive is not complete, its letter is unknown or its measures are too large, or what
  should be a whole number is none. -/
  | malformed
  /-- A number is too large or too small for its directive. -/
  | outOfRange
  deriving DecidableEq

structure Flags where
  left : Bool := false
  signed : Bool := false
  blank : Bool := false
  alternate : Bool := false
  zero : Bool := false

/-- The text for one value in parts: zeros are filled in behind the sign and the mark. -/
structure Piece where
  sign : String := ""
  mark : String := ""
  body : String
  numeric : Bool := false

/-- A piece filled up to a width. -/
def Piece.render (flags : Flags) (width : Nat) (p : Piece) : String :=
  let fill := width - (p.sign.length + p.mark.length + Text.size p.body)
  let run (c : Char) : String := String.ofList (List.replicate fill c)
  if flags.left then p.sign ++ p.mark ++ p.body ++ run ' '
  else if flags.zero && p.numeric then p.sign ++ p.mark ++ run '0' ++ p.body
  else run ' ' ++ p.sign ++ p.mark ++ p.body

def signText (flags : Flags) (negative : Bool) : String :=
  if negative then "-" else if flags.signed then "+" else if flags.blank then " " else ""

/-- A whole number in a base, with at least so many digits. -/
def integerPiece (flags : Flags) (precision : Option Nat) (base : Nat) (mark : String) (i : Int) :
    Piece :=
  let digits := Nat.toDigits base i.natAbs
  let zeros := List.replicate (precision.getD 0 - digits.length) '0'
  { sign := signText flags (i < 0), mark := if flags.alternate then mark else "",
    body := String.ofList (zeros ++ digits), numeric := true }

/-- The whole part of a number. -/
def whole : Value → Except Failure Int
  | .atom (.int i) => .ok i
  | .atom (.bool b) => .ok (if b then 1 else 0)
  | .atom (.float x) => match x.kind with
    | .nan => .error .malformed
    | .infinite _ => .error .outOfRange
    | .finite negative m q =>
      let size := if q < 0 then m / twoTo (-q).toNat else m * twoTo q.toNat
      .ok (if negative then -size else size)
  | _ => .error .unsuitable

/-- A whole number. -/
def integer : Value → Except Failure Int
  | .atom (.int i) => .ok i
  | .atom (.bool b) => .ok (if b then 1 else 0)
  | _ => .error .unsuitable

/-- A number as a double. -/
def double : Value → Except Failure Binary64
  | .atom (.float x) => .ok x
  | v => do
    let x := Binary64.ofInt (← integer v)
    match x.kind with
    | .finite .. => return x
    | _ => throw .outOfRange

/-- A number as a decimal, written by a rule for fractions. -/
def decimalPiece (flags : Flags) (write : (num den : Nat) → List Char) (v : Value) :
    Except Failure Piece :=
  (double v).map fun x => match x.kind with
    | .nan => { sign := signText flags false, body := "nan", numeric := true }
    | .infinite negative => { sign := signText flags negative, body := "inf", numeric := true }
    | .finite negative m q =>
      let body := if q < 0 then write m (twoTo (-q).toNat) else write (m * twoTo q.toNat) 1
      { sign := signText flags negative, body := String.ofList body, numeric := true }

/-- A character by its number, or a text of one character. -/
def character : Value → Except Failure String
  | .atom (.str s) => if Text.size s = 1 then .ok s else .error .unsuitable
  | v => do
    let i ← integer v
    if 0 ≤ i && i < 0x110000 then return String.ofList (Text.ofCodePoint i.toNat)
    else throw .outOfRange

/-- Literal notation in ASCII: other characters are escaped. -/
def asciiLiteral (v : Value) : String :=
  String.ofList ((Text.codes v.literal.toList).flatMap fun n =>
    if n < 0x80 then [Char.ofNat n]
    else if n < 0x100 then '\\' :: 'x' :: Literal.hexDigits 2 n
    else if n < 0x10000 then '\\' :: 'u' :: Literal.hexDigits 4 n
    else '\\' :: 'U' :: Literal.hexDigits 8 n)

/-- The text for a value under the letter of a form. -/
def piece (flags : Flags) (precision : Option Nat) (letter : Char) (v : Value) :
    Except Failure Piece :=
  let cut (s : String) : Piece := { body := match precision with
    | some n => Text.cut n s
    | none => s }
  let upper (p : Piece) : Piece := { p with body := p.body.map Char.toUpper }
  let digits := precision.getD 6
  match letter with
  | 's' => .ok (cut v.display)
  | 'r' => .ok (cut v.literal)
  | 'a' => .ok (cut (asciiLiteral v))
  | 'c' => (character v).map fun s => { body := s }
  | 'd' | 'i' | 'u' => (whole v).map (integerPiece flags precision 10 "")
  | 'o' => (integer v).map (integerPiece flags precision 8 "0o")
  | 'x' => (integer v).map (integerPiece flags precision 16 "0x")
  | 'X' => (integer v).map fun i => upper (integerPiece flags precision 16 "0X" i)
  | 'f' => decimalPiece flags (Rounded.fixed · · digits flags.alternate) v
  | 'F' => (decimalPiece flags (Rounded.fixed · · digits flags.alternate) v).map upper
  | 'e' => decimalPiece flags (Rounded.scientific · · digits flags.alternate) v
  | 'E' => (decimalPiece flags (Rounded.scientific · · digits flags.alternate) v).map upper
  | 'g' => decimalPiece flags (Rounded.general · · digits flags.alternate) v
  | 'G' => (decimalPiece flags (Rounded.general · · digits flags.alternate) v).map upper
  | _ => .error .malformed

/-- The values that are left: a list, of which each is taken once, beside a mapping. -/
structure Supply where
  items : List Value
  entries : Option Entries

def Supply.next (s : Supply) : Except Failure (Value × Supply) :=
  match s.items with
  | v :: rest => .ok (v, { s with items := rest })
  | [] => .error .unsuitable

/-- A text up to the parenthesis that closes the key, parentheses within it in pairs. -/
def readKey : (depth : Nat) → List Char → Option (List Char × List Char)
  | 0, ')' :: rest => some ([], rest)
  | depth + 1, ')' :: rest => (readKey depth rest).map fun (k, rest) => (')' :: k, rest)
  | depth, '(' :: rest => (readKey (depth + 1) rest).map fun (k, rest) => ('(' :: k, rest)
  | depth, c :: rest => (readKey depth rest).map fun (k, rest) => (c :: k, rest)
  | _, [] => none

def readFlags (flags : Flags) : List Char → Flags × List Char
  | '-' :: rest => readFlags { flags with left := true } rest
  | '+' :: rest => readFlags { flags with signed := true } rest
  | ' ' :: rest => readFlags { flags with blank := true } rest
  | '#' :: rest => readFlags { flags with alternate := true } rest
  | '0' :: rest => readFlags { flags with zero := true } rest
  | s => (flags, s)

def readNumber (s : List Char) : Nat × List Char :=
  let (digits, rest) := s.span Char.isDigit
  (digits.foldl (fun n c => 10 * n + (c.toNat - 48)) 0, rest)

/-- A width or precision below a bound: digits, or a star for the next value. -/
def readMeasure (bound : Nat) (supply : Supply) (s : List Char) :
    Except Failure (Int × Supply × List Char) :=
  match s with
  | '*' :: rest => do
    let (v, supply) ← supply.next
    let i ← integer v
    if -(bound : Int) ≤ i && i < bound then return (i, supply, rest) else throw .outOfRange
  | s =>
    let (n, rest) := readNumber s
    if n < bound then .ok (n, supply, rest) else .error .malformed

/-- The text for the directive behind a percent sign, and what is behind it. -/
def readDirective (supply : Supply) (s : List Char) :
    Except Failure (String × Supply × List Char) := do
  let (supply, s) ← match s with
    | '(' :: rest => match supply.entries with
      | none => throw .unsuitable
      | some entries => match readKey 0 rest with
        | none => throw .malformed
        | some (key, rest) => match entries.find? (String.ofList key) with
          | some v => pure ({ supply with items := [v] }, rest)
          | none => throw .noSuchKey
    | s => pure (supply, s)
  let (flags, s) := readFlags {} s
  let (width, supply, s) ← readMeasure (twoTo 63) supply s
  let flags := if width < 0 then { flags with left := true } else flags
  let (precision, supply, s) ← match s with
    | '.' :: rest => do
      let (n, supply, rest) ← readMeasure (twoTo 31) supply rest
      pure (some n.toNat, supply, rest)
    | s => pure (none, supply, s)
  let s := match s with
    | 'h' :: rest | 'l' :: rest | 'L' :: rest => rest
    | s => s
  match s with
  | [] => throw .malformed
  | letter :: rest =>
    let (v, supply) ← supply.next
    let p ← piece flags precision letter v
    return (p.render flags width.natAbs, supply, rest)

/-- Fills in the directives of a text; two percent signs stand for one. Each directive
takes at least one character. -/
def fillIn : (fuel : Nat) → Supply → List Char → Except Failure (String × Supply)
  | _, supply, [] => .ok ("", supply)
  | 0, supply, s => .ok (String.ofList s, supply)
  | fuel + 1, supply, '%' :: '%' :: rest => do
    let (tail, supply) ← fillIn fuel supply rest
    return ("%" ++ tail, supply)
  | fuel + 1, supply, '%' :: rest => do
    let (text, supply, rest) ← readDirective supply rest
    let (tail, supply) ← fillIn fuel supply rest
    return (text ++ tail, supply)
  | fuel + 1, supply, c :: rest => do
    let (tail, supply) ← fillIn fuel supply rest
    return (String.singleton c ++ tail, supply)

/-- A format filled in from a mapping. -/
def ofEntries (entries : Entries) (format : String) : Except Failure String :=
  (fillIn format.length ⟨[.map entries], some entries⟩ format.toList).map (·.1)

/-- A format filled in from a list, all of whose values must be used. -/
def ofItems (items : List Value) (format : String) : Except Failure String := do
  let (text, supply) ← fillIn format.length ⟨items, none⟩ format.toList
  if supply.items.isEmpty then return text else throw .unsuitable

end FlowTemplate.Directive
