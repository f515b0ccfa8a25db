/-!
# Blank characters

White space in the wide sense: every character that Unicode counts as a separator of words or
lines, and the information separators of ASCII.
-/

namespace FlowTemplate.Text

def isBlank (c : Char) : Bool :=
  let n := c.toNat
  c.isWhitespace || n == 0x0B || n == 0x0C || (0x1C ≤ n && n ≤ 0x1F) || n == 0x85 || n == 0xA0
    || n == 0x1680 || (0x2000 ≤ n && n ≤ 0x200A) || n == 0x2028 || n == 0x2029 || n == 0x202F
    || n == 0x205F || n == 0x3000

theorem isBlank_of_isWhitespace {c : Char} (h : c.isWhitespace = true) : isBlank c = true := by
  simp [isBlank, h]

/-- A text without the blanks at its end. -/
def trimEnd (s : List Char) : List Char := (s.reverse.dropWhile isBlank).reverse

/-- A text without the blanks at both ends. -/
def trim (s : List Char) : List Char := trimEnd (s.dropWhile isBlank)

/-- The words of a text, which blanks divide. -/
def words (s : List Char) : List String :=
  ((s.splitOnP isBlank).filter (!·.isEmpty)).map String.ofList

/-- Lines end in a line feed only: a carriage return, alone or before a line feed, becomes one. -/
def unifyLineEnds : List Char → List Char
  | '\r' :: '\n' :: rest => '\n' :: unifyLineEnds rest
  | '\r' :: rest => '\n' :: unifyLineEnds rest
  | c :: rest => c :: unifyLineEnds rest
  | [] => []

end FlowTemplate.Text
