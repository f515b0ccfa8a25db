import FlowTemplate.Text.Blank
import FlowTemplate.Text.CellWidth
/-!
# Wrapping lines

A line that is wider than a terminal is broken before words. A word that fits on no line is folded
where the width ends, or its line is cut short behind an ellipsis.
-/

namespace FlowTemplate.Text

/-- What becomes of a word that fits on no line. -/
inductive Overflow where
  | fold
  | ellipsis
  deriving DecidableEq

/-- A line in parts: each a word with the blanks around it that no earlier part has. Blanks alone
are no part. -/
def wordParts : (fuel : Nat) → List Char → List (List Char)
  | 0, _ => []
  | fuel + 1, s =>
    let (before, s) := s.span isBlank
    let (word, s) := s.span (!isBlank ·)
    let (after, s) := s.span isBlank
    if word.isEmpty then [] else (before ++ word ++ after) :: wordParts fuel s

/-- Lines from parts, with the line being filled and the width that is used of it. -/
def fill (overflow : Overflow) (width : Nat) (line : List Char) (used : Nat) :
    List (List Char) → List (List Char)
  | [] => [line]
  | part :: rest =>
    let needed := cellsOf (trimEnd part)
    if used + needed ≤ width then fill overflow width (line ++ part) (used + cellsOf part) rest
    else if needed ≤ width then
      if used == 0 || line.isEmpty then fill overflow width (line ++ part) used rest
      else line :: fill overflow width part (cellsOf part) rest
    else
      let before := if line.isEmpty then [] else [line]
      match overflow with
      | .fold =>
        let pieces := chop width part
        let last := pieces.getLast?.getD []
        before ++ pieces.dropLast ++ fill overflow width last (cellsOf last) rest
      | .ellipsis => before ++ fill overflow width part (cellsOf part) rest

/-- A line without the blanks at its end that lie beyond a width. -/
def trimBeyond (width : Nat) (line : List Char) : List Char :=
  let excess := (codes line).length - width
  let blanks := line.length - (trimEnd line).length
  line.take (line.length - min blanks excess)

/-- A line that is no wider than a width. -/
def cutLine (overflow : Overflow) (width : Nat) (line : List Char) : List Char :=
  if cellsOf line ≤ width then line
  else match overflow with
    | .fold => cutCells width line
    | .ellipsis => cutCells (width - 1) line ++ ['…']

/-- A line with every tab replaced by one to eight spaces, up to a column that eight divides. -/
def expandTabs (column : Nat) : List (List Char) → List Char
  | [] => []
  | [part] => part
  | part :: rest =>
    let column := column + cellsOf (part ++ [' '])
    let spaces := (8 - column % 8) % 8
    part ++ ' ' :: List.replicate spaces ' ' ++ expandTabs (column + spaces) rest

/-- A line broken into lines of a width. -/
def wrapLine (overflow : Overflow) (width : Nat) (line : List Char) : List (List Char) :=
  let line := expandTabs 0 (line.splitOn '\t')
  let parts := wordParts line.length line
  let lines := if parts.isEmpty then [line] else fill overflow width [] 0 parts
  lines.map fun line => cutLine overflow width (trimBeyond width line)

/-- The lines of a text, each broken into lines of a width. -/
def wrap (overflow : Overflow) (width : Nat) (s : String) : List (List Char) :=
  (s.toList.splitOn '\n').flatMap (wrapLine overflow width)

end FlowTemplate.Text
