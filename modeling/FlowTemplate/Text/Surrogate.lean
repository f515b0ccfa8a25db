/-!
# Unpaired surrogates

An escape such as `\ud83d` can write half of a surrogate pair, which is no character. A text is a
row of code points, halves included, and is kept as a string: a half is written as a mark and a
character of its own, and the mark itself twice. The mark is a character that Unicode sets aside for
such uses. `codes` reads the code points back.
-/

namespace FlowTemplate.Text

/-- What stands before the character for a half, and before itself. -/
def mark : Char := '\uFDD0'

def isHighSurrogate (n : Nat) : Bool := 0xD800 ≤ n && n ≤ 0xDBFF

def isLowSurrogate (n : Nat) : Bool := 0xDC00 ≤ n && n ≤ 0xDFFF

def isSurrogate (n : Nat) : Bool := isHighSurrogate n || isLowSurrogate n

/-- Distance between a half and the character that stands for it behind a mark. -/
def surrogateShift : Nat := 0x800

/-- The characters that write a code point below `0x110000`. -/
def ofCodePoint (n : Nat) : List Char :=
  if isSurrogate n then [mark, Char.ofNat (n + surrogateShift)]
  else if n == mark.toNat then [mark, mark]
  else [Char.ofNat n]

/-- The code points of a text. -/
def codes : List Char → List Nat
  | [] => []
  | [c] => [c.toNat]
  | c :: d :: rest =>
    if c == mark then
      (if d == mark then mark.toNat else d.toNat - surrogateShift) :: codes rest
    else c.toNat :: codes (d :: rest)

/-- The text of some code points. -/
def ofCodes (codes : List Nat) : List Char := codes.flatMap ofCodePoint

/-- How many code points a text has. -/
def size (s : String) : Nat := (codes s.toList).length

/-- The first code points of a text. -/
def cut (count : Nat) (s : String) : String :=
  String.ofList (ofCodes ((codes s.toList).take count))

/-- Order of rows of code points, the first difference deciding. -/
def codesLe : List Nat → List Nat → Bool
  | [], _ => true
  | _ :: _, [] => false
  | a :: as, b :: bs => a < b || (a == b && codesLe as bs)

/-- Order of texts by their code points. -/
def le (a b : String) : Bool := codesLe (codes a.toList) (codes b.toList)

/-- A text of characters only. -/
def ofPlain (s : String) : String := String.ofList (s.toList.flatMap fun c => ofCodePoint c.toNat)

/-- The characters of a text, if there is no half among its code points. -/
def plain? (s : String) : Option String :=
  let all := codes s.toList
  if all.any isSurrogate then none else some (String.ofList (all.map Char.ofNat))

/-- The text that bytes write in UTF-8. -/
def ofBytes? (data : List UInt8) : Option String :=
  (String.fromUTF8? ⟨data.toArray⟩).map ofPlain

/-- The bytes of a text in UTF-8, if it has them. -/
def bytes? (s : String) : Option (List UInt8) := (plain? s).map fun s => s.toUTF8.toList

/-- The code point that a pair of surrogates stands for. -/
def joinSurrogates (high low : Nat) : Nat :=
  0x10000 + (high - 0xD800) * 0x400 + (low - 0xDC00)

example : codes (ofCodes [0xD83D, 0x61, 0xFDD0, 0xDFFF, 0xE000]) =
    [0xD83D, 0x61, 0xFDD0, 0xDFFF, 0xE000] := by decide

end FlowTemplate.Text
