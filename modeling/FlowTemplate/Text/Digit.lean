import FlowTemplate.Text.Blank
/-!
# Decimal digits

Every script with decimal digits has its ten of them in a row. The table is that of Unicode 14.
-/

namespace FlowTemplate.Text

/-- The zeros of all scripts. -/
def zeros : Array Nat := #[
  0x30, 0x660, 0x6F0, 0x7C0, 0x966, 0x9E6, 0xA66, 0xAE6, 0xB66, 0xBE6, 0xC66, 0xCE6, 0xD66, 0xDE6,
  0xE50, 0xED0, 0xF20, 0x1040, 0x1090, 0x17E0, 0x1810, 0x1946, 0x19D0, 0x1A80, 0x1A90, 0x1B50,
  0x1BB0, 0x1C40, 0x1C50, 0xA620, 0xA8D0, 0xA900, 0xA9D0, 0xA9F0, 0xAA50, 0xABF0, 0xFF10, 0x104A0,
  0x10D30, 0x11066, 0x110F0, 0x11136, 0x111D0, 0x112F0, 0x11450, 0x114D0, 0x11650, 0x116C0,
  0x11730, 0x118E0, 0x11950, 0x11C50, 0x11D50, 0x11DA0, 0x16A60, 0x16AC0, 0x16B50, 0x1D7CE,
  0x1D7D8, 0x1D7E2, 0x1D7EC, 0x1D7F6, 0x1E140, 0x1E2F0, 0x1E950, 0x1FBF0]

/-- The value of a decimal digit. -/
def digitValue? (n : Nat) : Option Nat :=
  (zeros.find? fun first => first ≤ n && n < first + 10).map (n - ·)

/-- The most decimal digits that an integer may be written with. -/
def mostDigits : Nat := 4300

/-- A text with the digits of all scripts as those of ASCII. -/
def withPlainDigits (s : List Char) : List Char :=
  s.map fun c => match digitValue? c.toNat with
    | some n => Char.ofNat (0x30 + n)
    | none => c

/-- The value of a digit below a base; letters stand for the digits from ten on. -/
def digitIn? (base : Nat) (c : Char) : Option Nat :=
  let value := if c.isAlpha then some (c.toLower.toNat - 0x61 + 10) else digitValue? c.toNat
  value.filter (· < base)

/-- The number that digits write, with single underscores between them. -/
def digitsIn? (base : Nat) (s : List Char) : Option Nat :=
  let parts := s.splitOn '_'
  if parts.any List.isEmpty then none
  else parts.flatten.foldlM (fun n c => (digitIn? base c).map (base * n + ·)) 0

/-- The number that a text writes, with blanks around it and a sign. -/
def integerIn? (base : Nat) (s : List Char) : Option Int :=
  match trim s with
  | '-' :: digits => (digitsIn? base digits).map fun n => -(n : Int)
  | '+' :: digits | digits => (digitsIn? base digits).map fun n => (n : Int)

example : integerIn? 10 " -1_0 ".toList = some (-10) ∧ integerIn? 16 "fF".toList = some 255 := by
  decide +kernel

example : digitValue? 0x37 = some 7 ∧ digitValue? 0x663 = some 3 ∧ digitValue? 0x61 = none := by
  decide +kernel

end FlowTemplate.Text
