import FlowTemplate.Number.Binary64
import FlowTemplate.Yaml.Cursor
/-!
# The text of scalars

Plain, quoted and block scalars. Each reader takes the place where the scalar starts and answers
its text and the place behind it.
-/

namespace FlowTemplate.Yaml.Scalar

/-! ## Plain scalars -/

/-- Whether a plain scalar ends at a character: at the end of a word, at a colon before one, and
within brackets at their punctuation. -/
def endsPlain (flow : Bool) (c : Char) (next : Option Char) : Bool :=
  endsWord (some c)
    || (c == ':' && (endsWord next || (flow && next.any ",[]\x7b\x7d".toList.contains)))
    || (flow && ",?[]\x7b\x7d".toList.contains c)

/-- The length of a run of a plain scalar. -/
def plainRun (flow : Bool) : List Char → Nat
  | [] => 0
  | c :: rest => if endsPlain flow c rest.head? then 0 else plainRun flow rest + 1

/-- The breaks and spaces behind a break, or nothing if a marker between documents follows a
break. -/
def plainBreaks : (fuel : Nat) → Cursor → Option (List Char) × Cursor
  | 0, c => (some [], c)
  | fuel + 1, c =>
    if c.peek == some ' ' then plainBreaks fuel c.advance
    else match c.lineBreak? with
      | none => (some [], c)
      | some (ch, c) =>
        if c.atSeparator then (none, c)
        else
          let (others, c) := plainBreaks fuel c
          (others.map (ch :: ·), c)

/-- What stands between two runs of a plain scalar. -/
structure Gap where
  /-- The text it stands for; nothing if the scalar ends here. -/
  text : Option (List Char)
  /-- Whether it goes beyond a line. -/
  broken : Bool
  place : Cursor

def plainGap (c : Cursor) : Gap :=
  let (spaces, c) := c.span (· == ' ')
  match c.lineBreak? with
  | none => { text := if spaces.isEmpty then none else some spaces, broken := false, place := c }
  | some (first, c) =>
    if c.atSeparator then { text := none, broken := true, place := c }
    else
      let (others, c) := plainBreaks c.rest.length c
      { text := others.map (foldBreaks first), broken := true, place := c }

/-- A plain scalar; `before` stands between its text so far and this place, and `broken` tells
whether that goes beyond a line. -/
def plainFrom (flow : Bool) (indent : Int) (broken : Bool) (before : List Char) :
    (fuel : Nat) → Cursor → List Char × Bool × Cursor
  | 0, c => ([], broken, c)
  | fuel + 1, c =>
    let run := plainRun flow c.rest
    if c.peek == some '#' || run == 0 then ([], broken, c)
    else
      let part := before ++ c.rest.take run
      let gap := plainGap (c.advanceBy run)
      let ends := gap.place.peek == some '#' || (!flow && (gap.place.column : Int) < indent)
      match gap.text with
      | none => (part, gap.broken, gap.place)
      | some between =>
        if ends then (part, gap.broken, gap.place)
        else
          let (rest, broken, c) := plainFrom flow indent gap.broken between fuel gap.place
          (part ++ rest, broken, c)

/-- The text of a plain scalar, and whether a break stands between it and the next token. -/
def plain (flow : Bool) (indent : Int) (c : Cursor) : String × Bool × Cursor :=
  let (text, broken, c) := plainFrom flow indent false [] (c.rest.length + 1) c
  (String.ofList text, broken, c)

/-! ## Quoted scalars -/

/-- The character that an escape stands for. -/
def escape? (c : Char) : Option Char :=
  ([('0', '\x00'), ('a', '\x07'), ('b', '\x08'), ('t', '\t'), ('\t', '\t'), ('n', '\n'),
    ('v', '\x0b'), ('f', '\x0c'), ('r', '\r'), ('e', '\x1b'), (' ', ' '), ('"', '"'),
    ('\\', '\\'), ('/', '/'), ('N', '\x85'), ('_', '\xa0'), ('L', '\u2028'), ('P', '\u2029')] :
    List (Char × Char)).lookup c

/-- How many digits follow the letter of a numeric escape. -/
def escapeDigits? (c : Char) : Option Nat :=
  if c == 'x' then some 2 else if c == 'u' then some 4 else if c == 'U' then some 8 else none

/-- The characters that write a code. -/
def charsOfCode (n : Nat) : Except Fault (List Char) :=
  if n < 0x110000 then .ok (Text.ofCodePoint n)
  else if n < twoTo 31 then .error .unreadable
  else .error .hugeCode

/-- The breaks at the start of a line and the blanks between them. -/
def quotedBreaks : (fuel : Nat) → Cursor → Except Fault (List Char × Cursor)
  | 0, c => .ok ([], c)
  | fuel + 1, c => do
    if c.atSeparator then throw .malformed
    let c := c.skip isBlank
    match c.lineBreak? with
    | none => return ([], c)
    | some (ch, c) =>
      let (others, c) ← quotedBreaks fuel c
      return (ch :: others, c)

/-- What an escape stands for, read from behind the backslash. -/
def escaped (c : Cursor) : Except Fault (List Char × Cursor) :=
  match c.peek with
  | none => .error .malformed
  | some ch => match escape? ch, escapeDigits? ch with
    | some d, _ => .ok ([d], c.advance)
    | none, some width => do
      let digits := c.advance.rest.take width
      if digits.length < width then throw .malformed
      match hexNumber? digits with
      | none => throw .malformed
      | some n => return (← charsOfCode n, c.advanceBy (width + 1))
    | none, none => match c.lineBreak? with
      | some (_, c) => quotedBreaks c.rest.length c
      | none => .error .malformed

/-- The blanks at this place or what the breaks here stand for. -/
def quotedGap (c : Cursor) : Except Fault (List Char × Cursor) :=
  let (blanks, c) := c.span isBlank
  match c.lineBreak? with
  | some (first, c) => do
    let (others, c) ← quotedBreaks c.rest.length c
    return (foldBreaks first others, c)
  | none => if c.peek.isNone then .error .malformed else .ok (blanks, c)

/-- The text of a quoted scalar from a place behind the opening quote. -/
def quotedFrom (quote : Char) : (fuel : Nat) → Cursor → Except Fault (List Char × Cursor)
  | 0, _ => .error .malformed
  | fuel + 1, c => do
    let double := quote == '"'
    let (part, c) ← match c.rest with
      | [] => throw .malformed
      | '\'' :: '\'' :: _ =>
        if double then pure (['\''], c.advance) else pure (['\''], c.advanceBy 2)
      | ch :: _ =>
        if ch == quote then return ([], c.advance)
        else if isBlank ch || isBreak ch then quotedGap c
        else if double && ch == '\\' then escaped c.advance
        else pure ([ch], c.advance)
    let (rest, c) ← quotedFrom quote fuel c
    return (part ++ rest, c)

/-- The text of a quoted scalar, from its opening quote on. -/
def quoted (quote : Char) (c : Cursor) : Except Fault (String × Cursor) := do
  let c := c.advance
  let (text, c) ← quotedFrom quote (c.rest.length + 1) c
  return (String.ofList text, c)

/-! ## Block scalars -/

/-- What happens to the breaks at the end of a block scalar. -/
inductive Chomping where
  | strip | clip | keep
  deriving DecidableEq

/-- What stands behind the mark of a block scalar: the chomping, and an indentation if it is not to
be found out. -/
def header (c : Cursor) : Except Fault (Chomping × Option Nat × Cursor) :=
  let chomping (c : Cursor) : Chomping × Cursor := match c.peek with
    | some '+' => (.keep, c.advance)
    | some '-' => (.strip, c.advance)
    | _ => (.clip, c)
  let digit (c : Cursor) : Except Fault (Option Nat × Cursor) := match c.peek with
    | some ch =>
      if ch == '0' then .error .malformed
      else if ch.isDigit then .ok (some (ch.toNat - 48), c.advance)
      else .ok (none, c)
    | none => .ok (none, c)
  do
    let (first, c) := chomping c
    let (indent, c) ← digit c
    let (second, c) := if first == .clip && indent.isSome then chomping c else (first, c)
    if endsPart c.peek then return (second, indent, ← c.restOfLine) else throw .malformed

/-- The empty lines at the start of a block scalar and the largest column of a space in them. -/
def measure : (fuel : Nat) → Cursor → List Char × Nat × Cursor
  | 0, c => ([], 0, c)
  | fuel + 1, c =>
    if c.peek == some ' ' then
      let c := c.advance
      let (breaks, widest, d) := measure fuel c
      (breaks, max widest c.column, d)
    else match c.lineBreak? with
      | none => ([], 0, c)
      | some (ch, c) =>
        let (breaks, widest, c) := measure fuel c
        (ch :: breaks, widest, c)

/-- The place behind at most so many columns of spaces. -/
def skipIndent (indent : Int) : (fuel : Nat) → Cursor → Cursor
  | 0, c => c
  | fuel + 1, c =>
    if (c.column : Int) < indent && c.peek == some ' ' then skipIndent indent fuel c.advance else c

/-- Empty lines, and the indentation of the line behind them. -/
def emptyLines (indent : Int) : (fuel : Nat) → Cursor → List Char × Cursor
  | 0, c => ([], c)
  | fuel + 1, c =>
    let c := skipIndent indent c.rest.length c
    match c.lineBreak? with
    | none => ([], c)
    | some (ch, c) =>
      let (breaks, c) := emptyLines indent fuel c
      (ch :: breaks, c)

/-- The lines of a block scalar; `breaks` stand before this place. The answer has the text, and
apart from it the break of the last line and those behind. -/
def lines (folded : Bool) (indent : Int) (breaks : List Char) :
    (fuel : Nat) → Cursor → List Char × List Char × List Char × Cursor
  | 0, c => ([], [], breaks, c)
  | fuel + 1, c =>
    if (c.column : Int) != indent || c.peek.isNone then ([], [], breaks, c)
    else
      let flush := !c.peek.any isBlank
      let (line, c) := c.span (!isBreak ·)
      let (last, c) : List Char × Cursor := match c.lineBreak? with
        | some (ch, c) => ([ch], c)
        | none => ([], c)
      let (next, c) := emptyLines indent (c.rest.length + 1) c
      if (c.column : Int) == indent && c.peek.isSome then
        let folds := folded && last == ['\n'] && flush && !c.peek.any isBlank
        let between := if folds then (if next.isEmpty then [' '] else []) else last
        let (rest, last, next, c) := lines folded indent next fuel c
        (breaks ++ line ++ between ++ rest, last, next, c)
      else (breaks ++ line, last, next, c)

/-- The text of a block scalar, from its mark on; `outer` is the indentation around it. -/
def block (folded : Bool) (outer : Int) (c : Cursor) : Except Fault (String × Cursor) := do
  let (chomping, given, c) ← header c.advance
  let least := max (outer + 1) 1
  let (indent, breaks, c) : Int × List Char × Cursor := match given with
    | some n =>
      let indent := least + n - 1
      let (breaks, c) := emptyLines indent (c.rest.length + 1) c
      (indent, breaks, c)
    | none =>
      let (breaks, widest, c) := measure c.rest.length c
      (max least widest, breaks, c)
  let (text, last, next, c) := lines folded indent breaks (c.rest.length + 1) c
  let tail := match chomping with
    | .strip => []
    | .clip => last
    | .keep => last ++ next
  return (String.ofList (text ++ tail), c)

end FlowTemplate.Yaml.Scalar
