import FlowTemplate.Number.Binary64
import FlowTemplate.Text.Wrap
/-!
# Tables

Tables in frames with rounded corners. A column is as wide as its widest line, unless the table
would be too wide: then the widest columns give way. Cells can have several lines, and a title
stands centred above.
-/

namespace FlowTemplate

structure Table.Column where
  heading : String
  centred : Bool := false

structure Table where
  title : Option String
  columns : List Table.Column
  rows : List (List String)

namespace Table

/-- Whether a character ends a line for the measure of a cell. -/
def endsLine (c : Char) : Bool :=
  c == '\n' || ('\x1c' ≤ c && c ≤ '\x1e') || c == '\u0085' || c == '\u2028' || c == '\u2029'

/-- The width of the widest line of a cell. -/
def cellWidth (cell : String) : Nat :=
  ((cell.toList.splitOnP endsLine).map Text.cellsOf).foldl max 0

/-- The blank columns beside a cell. -/
def padding : Nat := 2

/-- The width of a column that holds the given cells, with the blanks beside them. -/
def columnWidth (room : Nat) (cells : List String) : Nat :=
  min ((cells.map cellWidth).foldl max 0 + padding) room

/-- The widths of columns all added up. -/
def totalWidth (widths : List Nat) : Nat := widths.foldl (· + ·) 0

/-- Takes `excess` columns from the widest of some widths, `count` of them, but no more than `most`
from each. -/
def shrinkWidest (widest most excess count : Nat) : List Nat → List Nat
  | [] => []
  | width :: rest =>
    if width == widest then
      let share := min most (Binary64.roundDiv excess count)
      (width - share) :: shrinkWidest widest most (excess - share) (count - 1) rest
    else width :: shrinkWidest widest most excess count rest

/-- Takes columns from the widest of some widths, at most down to the next, until all fit. Every step
takes at least one. -/
def shrink (room : Nat) : (fuel : Nat) → List Nat → List Nat
  | 0, widths => widths
  | fuel + 1, widths =>
    let excess := totalWidth widths - room
    if excess == 0 then widths
    else
      let widest := widths.foldl max 0
      let next := (widths.filter (· != widest)).foldl max 0
      shrink room fuel
        (shrinkWidest widest (min excess (widest - next)) excess (widths.count widest) widths)

/-- Widths that fit a room: as they are if they do, else with less for the widest. -/
def fitWidths (room : Nat) (widths : List Nat) : List Nat :=
  shrink room (totalWidth widths) widths

def spaces (n : Nat) : List Char := List.replicate n ' '

/-- A line with spaces up to a width. -/
def fillUp (width : Nat) (line : List Char) : List Char :=
  line ++ spaces (width - Text.cellsOf line)

/-- A line at the left of a width. A joiner at its end can take up a space, which is made up for. -/
def padLeft (width : Nat) (line : List Char) : List Char := fillUp width (fillUp width line)

/-- A line in the middle of a width; a space left over goes to the right. -/
def padCentre (width : Nat) (line : List Char) : List Char :=
  let line := Text.trimEnd line
  padLeft width (spaces ((width - Text.cellsOf line) / 2) ++ line)

/-- The lines of a cell in a column of a width. -/
def cellLines (column : Column) (width : Nat) (cell : String) : List (List Char) :=
  (Text.wrap .ellipsis width cell).map
    (if column.centred then padCentre width else padLeft width)

/-- A line of a row between bars. -/
def barLine (parts : List (List Char)) : List Char :=
  '│' :: parts.flatMap fun part => ' ' :: part ++ [' ', '│']

/-- The lines of a row: the `n`th lines of its cells beside one another. -/
def rowLines (columns : List (Column × Nat)) (cells : List String) : List (List Char) :=
  let blocks := (columns.zip cells).map fun ((column, width), cell) =>
    (width, cellLines column width cell)
  let height := (blocks.map fun (_, lines) => lines.length).foldl max 0
  (List.range height).map fun n =>
    barLine (blocks.map fun (width, lines) => (lines[n]?).getD (spaces width))

/-- A line of the frame. -/
def rule (left middle right : Char) (widths : List Nat) : List Char :=
  let runs := widths.map fun width => List.replicate (width + 2) '─'
  left :: ([middle].intercalate runs) ++ [right]

/-- A table as text, no wider than some columns; every line ends in a line feed. -/
def render (room : Nat) (t : Table) : String :=
  let headings := t.columns.map (·.heading)
  let frame := t.columns.length + 1
  let padded := (List.range t.columns.length).map fun i =>
    columnWidth (room - frame) ((headings :: t.rows).map fun row => (row[i]?).getD "")
  let fitted := fitWidths (room - frame) padded
  let widths := fitted.map (· - padding)
  let columns := t.columns.zip widths
  let title := match t.title with
    | some title => [padCentre (totalWidth fitted + frame) title.toList]
    | none => []
  let lines := title ++ [rule '╭' '┬' '╮' widths] ++ rowLines columns headings
    ++ [rule '├' '┼' '┤' widths] ++ t.rows.flatMap (rowLines columns)
    ++ [rule '╰' '┴' '╯' widths]
  String.ofList (lines.flatMap (· ++ ['\n']))

/-- One line in a frame. -/
def panel (text : String) : String :=
  let width := Text.cellsOf text.toList
  let lines := [rule '╭' '─' '╮' [width], barLine [text.toList], rule '╰' '─' '╯' [width]]
  String.ofList (lines.flatMap (· ++ ['\n']))

end Table

end FlowTemplate
