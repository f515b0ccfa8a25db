import FlowTemplate.Text.Surrogate
/-!
# Places in a YAML text

A cursor is the text that is left and the place it starts at. Tabs separate words but never indent,
and the end of the text ends every line.
-/

namespace FlowTemplate.Yaml

/-- Why a document has no value. -/
inductive Fault where
  /-- The text breaks the rules of YAML, or a node does not suit its tag. -/
  | malformed
  /-- A text does not write a value of its tag, or a value that there is. -/
  | unreadable
  /-- An escape names a code that is far too large. -/
  | hugeCode
  /-- A part to base sixty counts for more than any double. -/
  | tooLarge
  /-- A text under the tag for truth values names none. -/
  | unknownTruth
  /-- A number has no digits at all. -/
  | noDigits
  /-- A text under the tag for timestamps has not their form. -/
  | noTimestamp
  /-- A timestamp is written inside a mapping. -/
  | wrappedTimestamp
  /-- A node holds itself. -/
  | endless
  /-- Nodes are nested deeper than they are read. -/
  | tooDeep
  /-- Only the start of the text could be read, in which nothing is wrong. -/
  | unread
  deriving DecidableEq, Repr

def Fault.message : Fault → String
  | .malformed => "the text is no document"
  | .unreadable => "a text writes no value of its tag"
  | .hugeCode => "an escape names no character"
  | .tooLarge => "a number is too large"
  | .unknownTruth => "a text names no truth value"
  | .noDigits => "a number has no digits"
  | .noTimestamp => "a text writes no timestamp"
  | .wrappedTimestamp => "a timestamp stands inside a mapping"
  | .endless => "a node holds itself"
  | .tooDeep => "nodes are nested too deep"
  | .unread => "the text could not be read to its end"

/-- Characters that end a line. -/
def isBreak (c : Char) : Bool :=
  c == '\n' || c == '\r' || c == '\x85' || c == '\u2028' || c == '\u2029'

def isBlank (c : Char) : Bool := c == ' ' || c == '\t'

/-- A line ends here: at a break or where the text ends. -/
def endsLine (c : Option Char) : Bool := c.all isBreak

/-- A word ends here. -/
def endsWord (c : Option Char) : Bool := c.all fun c => isBreak c || isBlank c

/-- A word ends here, tabs not counted. -/
def endsPart (c : Option Char) : Bool := c.all fun c => isBreak c || c == ' '

/-- Characters of names: of anchors, directives and tag handles. -/
def isNameChar (c : Char) : Bool := c.isAlphanum || c == '-' || c == '_'

/-- Characters of tags. -/
def isTagChar (c : Char) : Bool := c.isAlphanum || "-;/?:@&=+$,_.!~*'()[]%".toList.contains c

/-- Code points a text may hold. -/
def isAllowed (n : Nat) : Bool :=
  n == 0x09 || n == 0x0A || n == 0x0D || (0x20 ≤ n && n ≤ 0x7E) || n == 0x85
    || (0xA0 ≤ n && n ≤ 0xD7FF) || (0xE000 ≤ n && n ≤ 0xFFFD) || 0x10000 ≤ n

structure Cursor where
  rest : List Char
  index : Nat := 0
  line : Nat := 0
  column : Nat := 0

namespace Cursor

def peek (c : Cursor) : Option Char := c.rest.head?

/-- The character some places ahead. -/
def ahead (c : Cursor) (n : Nat) : Option Char := c.rest[n]?

/-- The place behind the next character. The two characters of a line end count as one break, and
a byte order mark takes no column. -/
def advance (c : Cursor) : Cursor :=
  match c.rest with
  | [] => c
  | ch :: rest =>
    let index := c.index + 1
    if isBreak ch && !(ch == '\r' && rest.head? == some '\n') then
      { rest, index, line := c.line + 1, column := 0 }
    else
      { rest, index, line := c.line, column := if ch == '\ufeff' then c.column else c.column + 1 }

def advanceBy (c : Cursor) : Nat → Cursor
  | 0 => c
  | n + 1 => c.advance.advanceBy n

/-- The characters from here on that pass a test, and the place behind them. -/
def span (c : Cursor) (test : Char → Bool) : List Char × Cursor :=
  let taken := c.rest.takeWhile test
  (taken, c.advanceBy taken.length)

/-- The place behind the characters that pass a test. -/
def skip (c : Cursor) (test : Char → Bool) : Cursor := (c.span test).2

def skipSpaces (c : Cursor) : Cursor := c.skip (· == ' ')

/-- The place behind a comment, if there is one here. -/
def skipComment (c : Cursor) : Cursor :=
  if c.peek == some '#' then c.skip (!isBreak ·) else c

/-- The break at this place, as the character it stands for, and the place behind it. -/
def lineBreak? (c : Cursor) : Option (Char × Cursor) :=
  match c.rest with
  | '\r' :: '\n' :: _ => some ('\n', c.advanceBy 2)
  | ch :: _ =>
    if ch == '\u2028' || ch == '\u2029' then some (ch, c.advance)
    else if isBreak ch then some ('\n', c.advance)
    else none
  | [] => none

/-- The place behind the break at this place, if there is one. -/
def skipLineBreak (c : Cursor) : Cursor :=
  match c.lineBreak? with
  | some (_, c) => c
  | none => c

/-- Whether three characters and the end of a word are here. -/
def standsAt (c : Cursor) (mark : List Char) : Bool :=
  c.rest.take 3 == mark && endsWord (c.ahead 3)

/-- Whether a marker between documents is here. -/
def atSeparator (c : Cursor) : Bool :=
  c.standsAt ['-', '-', '-'] || c.standsAt ['.', '.', '.']

/-- The place at the end of a line that holds nothing more than a comment. -/
def restOfLine (c : Cursor) : Except Fault Cursor :=
  let c := c.skipSpaces.skipComment
  if endsLine c.peek then .ok c.skipLineBreak else .error .malformed

end Cursor

/-- What breaks between two lines of a scalar stand for: the first alone is a space, further ones
are line feeds. -/
def foldBreaks (first : Char) (others : List Char) : List Char :=
  if first != '\n' then first :: others
  else if others.isEmpty then [' ']
  else others

/-- The number that hexadecimal digits write. -/
def hexNumber? (digits : List Char) : Option Nat :=
  digits.foldlM (fun n c =>
    if '0' ≤ c && c ≤ '9' then some (16 * n + (c.toNat - 48))
    else if 'a' ≤ c && c ≤ 'f' then some (16 * n + (c.toNat - 87))
    else if 'A' ≤ c && c ≤ 'F' then some (16 * n + (c.toNat - 55))
    else none) 0

end FlowTemplate.Yaml
