import FlowTemplate.Text.Digit
import FlowTemplate.Text.WordCharacter
/-!
# Handlers

A tag can name a handler and give it arguments in parentheses, or give just a literal. Arguments are
literals: numbers, texts, `True`, `False`, `None`, and tuples, sets and dictionaries of them. Only
whether a text is such a literal matters here, and of its parts what they can be combined with.
-/

namespace FlowTemplate.Handler

/-- What a literal is, as far as it matters to one around it. -/
inductive Kind where
  /-- An integer or decimal number without a sign. -/
  | number
  /-- A number with `j` behind it, without a sign. -/
  | imaginary
  /-- A number with a sign. -/
  | signed
  /-- A text, or bytes. -/
  | text (isBytes : Bool)
  /-- A dictionary or set, or a tuple with one in it. -/
  | changing
  | other
  deriving DecidableEq

/-- A literal and what is behind it. -/
abbrev Reading := Option (Kind × List Char)

/-- Whether a literal can be a key or in a set. -/
def Kind.isLasting (k : Kind) : Bool := k != .changing

def isGap (c : Char) : Bool := c == ' ' || c == '\t' || c == '\x0c' || c == '\n' || c == '\r'

/-- What is behind blanks and comments, which a number sign starts and the end of a line ends. -/
def skip : (isComment : Bool) → List Char → List Char
  | _, [] => []
  | true, c :: rest => skip (c != '\n') rest
  | false, c :: rest =>
    if isGap c then skip false rest else if c == '#' then skip true rest else c :: rest

def skipGap (s : List Char) : List Char := skip false s

def isNameStart (c : Char) : Bool := c == '_' || c.isAlpha || c.toNat ≥ 128

def isNamePart (c : Char) : Bool := isNameStart c || c.isDigit

/-- What is behind digits with single underscores between them, given that one was read. -/
def skipDigits (isDigit : Char → Bool) : List Char → List Char
  | '_' :: c :: rest => if isDigit c then skipDigits isDigit rest else '_' :: c :: rest
  | c :: rest => if isDigit c then skipDigits isDigit rest else c :: rest
  | [] => []

/-- What is behind digits, if there are any. -/
def digits? (isDigit : Char → Bool) : List Char → Option (List Char)
  | c :: rest => if isDigit c then some (skipDigits isDigit rest) else none
  | [] => none

def isHex (c : Char) : Bool := (Text.digitIn? 16 c).isSome && c.toNat < 128

def isOctal (c : Char) : Bool := '0' ≤ c && c ≤ '7'

def isBinary (c : Char) : Bool := c == '0' || c == '1'

/-- What is behind an exponent, or the whole if there is none. -/
def skipExponent (s : List Char) : List Char :=
  match s with
  | c :: rest =>
    if c == 'e' || c == 'E' then
      let behind := match rest with
        | sign :: more => if sign == '+' || sign == '-' then more else rest
        | [] => rest
      (digits? Char.isDigit behind).getD s
    else s
  | [] => s

/-- What is behind a number in decimal notation, and whether it has a point or an exponent. -/
def decimal? (s : List Char) : Option (Bool × List Char) :=
  let whole := digits? Char.isDigit s
  let fraction := match whole.getD s with
    | '.' :: rest => match digits? Char.isDigit rest, whole with
      | some rest, _ => some rest
      | none, some _ => some rest
      | none, none => none
    | _ => none
  match fraction <|> whole with
  | none => none
  | some rest =>
    let behind := skipExponent rest
    some (fraction.isSome || behind.length < rest.length, behind)

/-- Reads a number. No integer but zero starts with the digit for it. -/
def readNumber (s : List Char) : Reading := do
  let (kind, rest) ← match s with
    | '0' :: c :: rest =>
      let after (isDigit : Char → Bool) : Reading := do
        let rest := match rest with
          | '_' :: more => more
          | _ => rest
        return (Kind.number, ← digits? isDigit rest)
      match c.toLower with
      | 'x' => after isHex
      | 'o' => after isOctal
      | 'b' => after isBinary
      | _ => decimalNumber s
    | _ => decimalNumber s
  if rest.head?.any isNamePart then none else return (kind, rest)
where
  decimalNumber (s : List Char) : Reading := do
    let (isDecimal, rest) ← decimal? s
    match rest with
    | c :: behind =>
      if c == 'j' || c == 'J' then return (Kind.imaginary, behind)
    | [] => pure ()
    let written := s.take (s.length - rest.length)
    if !isDecimal && s.head? == some '0' && written.any fun c => c != '0' && c != '_' then none
    else return (Kind.number, rest)

/-- What is behind the character that a backslash starts, read from behind the backslash. -/
def escape? (isBytes : Bool) (s : List Char) : Option (List Char) :=
  let hex (count : Nat) (rest : List Char) : Option (List Char) :=
    let code := rest.take count
    if code.length == count && code.all isHex
      && (Text.digitsIn? 16 code).any (· ≤ 0x10FFFF) then some (rest.drop count) else none
  match s with
  | [] => none
  | 'x' :: rest => hex 2 rest
  | 'u' :: rest => if isBytes then some rest else hex 4 rest
  | 'U' :: rest => if isBytes then some rest else hex 8 rest
  | 'N' :: rest => if isBytes then some rest else none
  | _ :: rest => some rest

/-- What is behind the quotes that close a text. -/
def closed? (quotes : List Char) (isRaw isBytes : Bool) :
    (fuel : Nat) → List Char → Option (List Char)
  | 0, _ => none
  | fuel + 1, s =>
    if quotes.isPrefixOf s then some (s.drop quotes.length)
    else match s with
      | [] => none
      | '\\' :: rest => do
        closed? quotes isRaw isBytes fuel (← if isRaw then rest.tail? else escape? isBytes rest)
      | c :: rest =>
        if (c == '\n' && quotes.length == 1) || (isBytes && c.toNat ≥ 128) then none
        else closed? quotes isRaw isBytes fuel rest

/-- Reads one text from behind the letters before it. -/
def readQuoted (isRaw isBytes : Bool) : List Char → Reading
  | q :: rest =>
    if q != '\'' && q != '"' then none
    else
      let (quotes, rest) :=
        if [q, q].isPrefixOf rest then ([q, q, q], rest.drop 2) else ([q], rest)
      (closed? quotes isRaw isBytes (rest.length + 1) rest).map (.text isBytes, ·)
  | [] => none

/-- The letters that can stand before a text: whether it is raw, and whether it is bytes. -/
def letters : List (String × Bool × Bool) :=
  [("", false, false), ("u", false, false), ("r", true, false), ("b", false, true),
    ("br", true, true), ("rb", true, true)]

/-- Reads one text with the letters before it. -/
def readText (s : List Char) : Reading :=
  let (before, rest) := s.span Char.isAlpha
  match letters.lookup (String.ofList (before.map Char.toLower)) with
  | some (isRaw, isBytes) => readQuoted isRaw isBytes rest
  | none => none

/-- Reads more texts behind one; all of them are bytes or none. -/
def readTexts : (fuel : Nat) → Kind × List Char → Reading
  | 0, _ => none
  | fuel + 1, (kind, rest) => match readText (skipGap rest) with
    | some (next, rest) => if next == kind then readTexts fuel (kind, rest) else none
    | none => some (kind, rest)

/-- Reads a name of a literal. -/
def readName (s : List Char) : Reading :=
  let (name, rest) := s.span isNamePart
  match String.ofList name with
  | "True" | "False" | "None" => some (.other, rest)
  | "set" => match skipGap rest with
    | '(' :: inner => match skipGap inner with
      | ')' :: rest => some (.changing, rest)
      | _ => none
    | _ => none
  | _ => none

/-- What a sign before a literal makes of it. -/
def signed? : Kind → Option Kind
  | .number => some .signed
  | .imaginary => some .other
  | _ => none

mutual

/-- Reads a literal. -/
def readLiteral : (fuel : Nat) → List Char → Reading
  | 0, _ => none
  | fuel + 1, s => do
    let (kind, rest) ← match skipGap s with
      | c :: inner =>
        if c == '+' || c == '-' then
          (readPart fuel inner).bind fun (kind, rest) => (signed? kind).map (·, rest)
        else readPart fuel (c :: inner)
      | [] => none
    match skipGap rest with
    | c :: behind =>
      if (c == '+' || c == '-') && (kind == .number || kind == .signed) then
        match ← readPart fuel behind with
        | (.imaginary, rest) => return (.other, rest)
        | _ => none
      else return (kind, c :: behind)
    | [] => return (kind, [])

/-- Reads a literal without a sign. -/
def readPart : (fuel : Nat) → List Char → Reading
  | 0, _ => none
  | fuel + 1, s =>
    match skipGap s with
    | '(' :: inner => match readItems fuel inner with
      | some (kinds, hasComma, rest) => match skipGap rest, kinds, hasComma with
        | ')' :: rest, [kind], false => some (kind, rest)
        | ')' :: rest, kinds, _ =>
          some (if kinds.all Kind.isLasting then .other else .changing, rest)
        | _, _, _ => none
      | none => none
    | '\x7b' :: inner => (readMembers fuel none inner).map (.changing, ·)
    | '.' :: '.' :: '.' :: rest => some (.other, rest)
    | s => readNumber s <|> ((readText s).bind fun read => readTexts s.length read) <|> readName s

/-- Reads literals with commas between them, and whether there is a comma. -/
def readItems : (fuel : Nat) → List Char → Option (List Kind × Bool × List Char)
  | 0, _ => none
  | fuel + 1, s =>
    match readLiteral fuel s with
    | none => some ([], false, s)
    | some (kind, rest) => match skipGap rest with
      | ',' :: rest => (readItems fuel rest).map fun (kinds, _, rest) => (kind :: kinds, true, rest)
      | rest => some ([kind], false, rest)

/-- Reads the members of a set or dictionary up to the closing brace; all or none have a value. -/
def readMembers : (fuel : Nat) → (haveValues : Option Bool) → List Char → Option (List Char)
  | 0, _, _ => none
  | fuel + 1, haveValues, s =>
    match skipGap s with
    | '\x7d' :: rest => some rest
    | s => do
      let (key, rest) ← readLiteral fuel s
      let (hasValue, rest) ← match skipGap rest with
        | ':' :: rest => (readLiteral fuel rest).map fun (_, rest) => (true, rest)
        | rest => some (false, rest)
      if !key.isLasting || haveValues.any (· != hasValue) then none
      else match skipGap rest with
        | ',' :: rest => readMembers fuel (some hasValue) rest
        | '\x7d' :: rest => some rest
        | _ => none

end

/-- Whether a text is a literal, or several with commas between them. -/
def isLiteral (s : List Char) : Bool :=
  match readItems (4 * s.length + 4) s with
  | some (kinds, _, rest) => !kinds.isEmpty && (skipGap rest).isEmpty
  | none => false

/-- What is in parentheses behind the name of a handler, or nothing if there are none. -/
def arguments? (s : List Char) : Option (List Char) :=
  match s.dropWhile fun c => Text.isWordCode c.toNat || c == '.' with
  | [] => some "()".toList
  | rest =>
    if rest.head? == some '(' && rest.getLast? == some ')' && !rest.contains '\n' then some rest
    else none

/-- Whether what a tag gives to a handler can be read. -/
def isFine (parameters : String) : Bool :=
  let s := Text.trim parameters.toList
  parameters.isEmpty || isLiteral ((arguments? s).getD s)

example : isFine "f(1, ('a', None))" = true ∧ isFine "f(x)" = false := by decide +kernel

end FlowTemplate.Handler
