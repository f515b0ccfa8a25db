import FlowTemplate.Yaml.Scalar
import FlowTemplate.Yaml.Token
/-!
# From text to tokens

Tokens are read from left to right. A colon makes a key of what stands before it, if that began on
the same line and is not too long: the token for the key then goes where the key began. In blocks a
column further right opens a block and one further left closes it.
-/

namespace FlowTemplate.Yaml

/-- A place where a key may have begun. -/
structure KeySpot where
  /-- How many tokens stand before it. -/
  position : Nat
  /-- Whether there must be a key: the text is at the indentation of its block. -/
  required : Bool
  index : Nat
  line : Nat
  column : Nat

/-- What is known while a text is read. -/
structure Scanner where
  cursor : Cursor
  tokens : Array Token := #[]
  /-- How many brackets are open. -/
  depth : Nat := 0
  /-- Whether a key may begin here. -/
  keyAllowed : Bool := true
  indent : Int := -1
  /-- The indentations around that of the present block. -/
  outer : List Int := []
  /-- For each depth at most one place where a key may have begun. -/
  spots : List (Nat × KeySpot) := []

namespace Scanner

def inFlow (s : Scanner) : Bool := s.depth != 0

def push (s : Scanner) (t : Token) : Scanner := { s with tokens := s.tokens.push t }

/-- Reads over so many characters. -/
def forward (s : Scanner) (n : Nat) : Scanner := { s with cursor := s.cursor.advanceBy n }

/-- Reads over spaces, comments and line ends, but no more than `fuel` lines. Behind a line end of a
block a key may begin. -/
def skipFiller : (fuel : Nat) → Scanner → Scanner
  | 0, s => s
  | fuel + 1, s =>
    let c := s.cursor.skipSpaces.skipComment
    match c.lineBreak? with
    | none => { s with cursor := c }
    | some (_, c) => skipFiller fuel { s with cursor := c, keyAllowed := s.keyAllowed || !s.inFlow }

/-- Reads over everything before the next token, and over a byte order mark at the start. -/
def toNextToken (s : Scanner) : Scanner :=
  let c := if s.cursor.index == 0 && s.cursor.peek == some '\ufeff' then s.cursor.advance
    else s.cursor
  skipFiller (c.rest.length + 1) { s with cursor := c }

/-- Forgets places from which a key can no longer reach here; a required key must. -/
def dropStale (s : Scanner) : Except Fault Scanner :=
  let fresh (spot : KeySpot) : Bool :=
    spot.line == s.cursor.line && s.cursor.index ≤ spot.index + 1024
  if s.spots.any fun (_, spot) => !fresh spot && spot.required then .error .malformed
  else .ok { s with spots := s.spots.filter fun (_, spot) => fresh spot }

/-- Forgets the place at the present depth; it must not be required. -/
def dropSpot (s : Scanner) : Except Fault Scanner :=
  match s.spots.lookup s.depth with
  | some spot =>
    if spot.required then .error .malformed
    else .ok { s with spots := s.spots.filter (·.1 != s.depth) }
  | none => .ok s

/-- Remembers this place as one where a key may begin. -/
def saveSpot (s : Scanner) : Except Fault Scanner :=
  if s.keyAllowed then do
    let s ← s.dropSpot
    let c := s.cursor
    let spot : KeySpot := {
      position := s.tokens.size, required := !s.inFlow && s.indent == c.column,
      index := c.index, line := c.line, column := c.column }
    return { s with spots := (s.depth, spot) :: s.spots }
  else .ok s

/-- Closes the blocks that lie further right than a column. -/
def closeBlocks (column : Int) : (outer : List Int) → Scanner → Scanner
  | [], s => s
  | around :: rest, s =>
    if column < s.indent then
      closeBlocks column rest { s.push .blockEnd with indent := around, outer := rest }
    else s

/-- Closes blocks, unless brackets are open. -/
def unwind (s : Scanner) (column : Int) : Scanner :=
  if s.inFlow then s else closeBlocks column s.outer s

/-- Opens a block at a column with a token at a position, if the column is further right. -/
def openBlock (s : Scanner) (column : Nat) (position : Nat) (t : Token) : Scanner :=
  if s.indent < column then
    { s with
      outer := s.indent :: s.outer, indent := column,
      tokens := s.tokens.insertIdxIfInBounds position t }
  else s

/-- Opens a block at this place. -/
def openBlockHere (s : Scanner) (t : Token) : Scanner :=
  if s.inFlow then s else s.openBlock s.cursor.column s.tokens.size t

/-- The end of the text. -/
def fetchEnd (s : Scanner) : Except Fault Scanner := do
  let s ← (s.unwind (-1)).dropSpot
  return { s.push .streamEnd with keyAllowed := false, spots := [] }

def fetchDirective (s : Scanner) : Except Fault Scanner := do
  let s ← (s.unwind (-1)).dropSpot
  let (found, c) ← Token.readDirective s.cursor
  return { s.push (.directive found) with keyAllowed := false, cursor := c }

/-- A marker between documents. -/
def fetchSeparator (s : Scanner) (t : Token) : Except Fault Scanner := do
  let s ← (s.unwind (-1)).dropSpot
  return { (s.push t).forward 3 with keyAllowed := false }

def fetchOpening (s : Scanner) (t : Token) : Except Fault Scanner := do
  let s ← s.saveSpot
  return { (s.push t).forward 1 with depth := s.depth + 1, keyAllowed := true }

def fetchClosing (s : Scanner) (t : Token) : Except Fault Scanner := do
  let s ← s.dropSpot
  return { (s.push t).forward 1 with depth := s.depth - 1, keyAllowed := false }

def fetchFlowEntry (s : Scanner) : Except Fault Scanner := do
  let s ← s.dropSpot
  return { (s.push .flowEntry).forward 1 with keyAllowed := true }

def fetchBlockEntry (s : Scanner) : Except Fault Scanner := do
  if !s.inFlow && !s.keyAllowed then throw .malformed
  let s ← (s.openBlockHere .blockSequenceStart).dropSpot
  return { (s.push .blockEntry).forward 1 with keyAllowed := true }

/-- A question mark before a key. -/
def fetchKey (s : Scanner) : Except Fault Scanner := do
  if !s.inFlow && !s.keyAllowed then throw .malformed
  let s ← (s.openBlockHere .blockMappingStart).dropSpot
  return { (s.push .key).forward 1 with keyAllowed := !s.inFlow }

/-- A colon behind what turns out to be a key. -/
def fetchValueOf (s : Scanner) (spot : KeySpot) : Scanner :=
  let s := { s with
    spots := s.spots.filter (·.1 != s.depth),
    tokens := s.tokens.insertIdxIfInBounds spot.position .key }
  let s := if s.inFlow then s else s.openBlock spot.column spot.position .blockMappingStart
  { (s.push .value).forward 1 with keyAllowed := false }

/-- A colon. -/
def fetchValue (s : Scanner) : Except Fault Scanner :=
  match s.spots.lookup s.depth with
  | some spot => .ok (s.fetchValueOf spot)
  | none => do
    if !s.inFlow && !s.keyAllowed then throw .malformed
    let s := s.openBlockHere .blockMappingStart
    return { (s.push .value).forward 1 with keyAllowed := !s.inFlow }

/-- A token with a text of its own, where a key may begin. -/
def fetchWord (s : Scanner) (read : Cursor → Except Fault (Token × Cursor)) :
    Except Fault Scanner := do
  let s ← s.saveSpot
  let (t, c) ← read s.cursor
  return { s.push t with keyAllowed := false, cursor := c }

def fetchBlockScalar (s : Scanner) (folded : Bool) : Except Fault Scanner := do
  let s ← s.dropSpot
  let (text, c) ← Scalar.block folded s.indent s.cursor
  return { s.push (.scalar text false) with keyAllowed := true, cursor := c }

def fetchPlain (s : Scanner) : Except Fault Scanner := do
  let s ← s.saveSpot
  let (text, broken, c) := Scalar.plain s.inFlow (s.indent + 1) s.cursor
  return { s.push (.scalar text true) with keyAllowed := broken, cursor := c }

/-- Whether a plain scalar can start with a character. -/
def startsPlain (flow : Bool) (c : Char) (next : Option Char) : Bool :=
  !(endsWord (some c) || "-?:,[]\x7b\x7d#&*!|>'\"%@\x60".toList.contains c)
    || (!endsWord next && (c == '-' || (!flow && (c == '?' || c == ':'))))

/-- The next token, from where it starts. -/
def fetchAt (s : Scanner) : Except Fault Scanner :=
  let c := s.cursor
  let next := c.ahead 1
  let marks := s.inFlow || endsWord next
  match c.peek with
  | none => s.fetchEnd
  | some ch =>
    if ch == '%' && c.column == 0 then s.fetchDirective
    else if c.column == 0 && c.standsAt ['-', '-', '-'] then s.fetchSeparator .documentStart
    else if c.column == 0 && c.standsAt ['.', '.', '.'] then s.fetchSeparator .documentEnd
    else if ch == '[' then s.fetchOpening .flowSequenceStart
    else if ch == '{' then s.fetchOpening .flowMappingStart
    else if ch == ']' then s.fetchClosing .flowSequenceEnd
    else if ch == '}' then s.fetchClosing .flowMappingEnd
    else if ch == ',' then s.fetchFlowEntry
    else if ch == '-' && endsWord next then s.fetchBlockEntry
    else if ch == '?' && marks then s.fetchKey
    else if ch == ':' && marks then s.fetchValue
    else if ch == '*' then
      s.fetchWord fun c => (Token.readName c).map fun (name, c) => (.alias name, c)
    else if ch == '&' then
      s.fetchWord fun c => (Token.readName c).map fun (name, c) => (.anchor name, c)
    else if ch == '!' then
      s.fetchWord fun c => (Token.readTag c).map fun (t, c) => (.tag t, c)
    else if ch == '|' && !s.inFlow then s.fetchBlockScalar false
    else if ch == '>' && !s.inFlow then s.fetchBlockScalar true
    else if ch == '\'' || ch == '"' then
      s.fetchWord fun c => (Scalar.quoted ch c).map fun (text, c) => (.scalar text false, c)
    else if startsPlain s.inFlow ch next then s.fetchPlain
    else .error .malformed

/-- The next token, and those that only indentation shows. -/
def fetch (s : Scanner) : Except Fault Scanner := do
  let s ← s.toNextToken.dropStale
  (s.unwind s.cursor.column).fetchAt

/-- The tokens before the first place from which a key can still reach here: it is not known yet what
stands there. -/
def settled (s : Scanner) : List Token :=
  let s := match s.dropStale with
    | .ok s => s
    | .error _ => s
  s.tokens.toList.take ((s.spots.map (·.2.position)).foldl min s.tokens.size)

/-- Whether no more than one character is left. -/
def atEnd (s : Scanner) : Bool := s.cursor.rest.length ≤ 1

/-- The same place with more behind the end of the text. -/
def followedBy (s : Scanner) (more : List Char) : Scanner :=
  { s with cursor := { s.cursor with rest := s.cursor.rest ++ more } }

end Scanner

/-- The tokens of a text; where one cannot be read, those before it and the fault. -/
structure TokenStream where
  tokens : List Token
  fault : Option Fault

namespace TokenStream

/-- Fetches tokens until the text ends. -/
def fetchAll : (fuel : Nat) → Scanner → TokenStream
  | 0, s => { tokens := s.tokens.toList, fault := some .malformed }
  | fuel + 1, s => match s.fetch with
    | .error e => { tokens := s.settled, fault := some e }
    | .ok s =>
      if s.tokens.back? == some .streamEnd then { tokens := s.tokens.toList, fault := none }
      else fetchAll fuel s

/-- The tokens of a text. Every fetch but the last takes at least one character. -/
def ofString (text : String) : TokenStream :=
  let cs := text.toList
  if (Text.codes cs).all isAllowed then fetchAll (cs.length + 1) { cursor := { rest := cs } }
  else { tokens := [], fault := some .malformed }

/-- Fetches tokens until one reaches the end of the text, which could not be read further. A fault
counts if quotes behind the end would not mend it. -/
def fetchStart : (fuel : Nat) → Scanner → TokenStream
  | 0, s => { tokens := s.settled, fault := some .unread }
  | fuel + 1, s => match s.dropStale with
    | .error e => { tokens := s.tokens.toList, fault := some e }
    | .ok s =>
      let unread : TokenStream := { tokens := s.settled, fault := some .unread }
      if s.toNextToken.atEnd then unread
      else match s.fetch with
        | .error e =>
          if (s.followedBy ['\'', '"', '\n']).fetch.isOk then unread
          else { tokens := s.settled, fault := some e }
        | .ok next => if next.atEnd then unread else fetchStart fuel next

/-- The tokens of the start of a text, as far as what follows does not matter. -/
def ofStart (text : String) : TokenStream :=
  let cs := text.toList
  if (Text.codes cs).all isAllowed then fetchStart (cs.length + 1) { cursor := { rest := cs } }
  else { tokens := [], fault := some .malformed }

/-- How deep nodes may be nested. -/
def maxDepth : Nat := 480

/-- How deep the nodes behind a token are nested, given how deep it lies itself. -/
def depthAfter (depth : Nat) : Token → Nat
  | .blockSequenceStart | .blockMappingStart | .flowSequenceStart | .flowMappingStart => depth + 1
  | .blockEnd | .flowSequenceEnd | .flowMappingEnd => depth - 1
  | _ => depth

/-- The tokens up to the first that opens a node too deep, and whether there is one. -/
def shallow (depth : Nat) : List Token → List Token × Bool
  | [] => ([], false)
  | t :: rest =>
    let next := depthAfter depth t
    if next > maxDepth then ([], true)
    else
      let (tokens, cut) := shallow next rest
      (t :: tokens, cut)

/-- The tokens that are read at all: none behind nodes that are nested too deep. -/
def withinDepth (s : TokenStream) : TokenStream :=
  match shallow 0 s.tokens with
  | (tokens, true) => { tokens, fault := some .tooDeep }
  | (_, false) => s

end TokenStream

end FlowTemplate.Yaml
