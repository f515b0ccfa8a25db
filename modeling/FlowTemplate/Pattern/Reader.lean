import FlowTemplate.Pattern.Basic
import FlowTemplate.Text.Surrogate
/-!
# Notation of patterns

Reads a pattern from its text. A backslash and what follows it are read as one symbol. Marks in
parentheses switch case, lines, dots, blanks and ASCII for a group, or for everything when they stand
first.
-/

namespace FlowTemplate.Pattern

/-- Why a text writes no pattern. -/
inductive Fault where
  | malformed
  /-- A repetition is allowed or wanted far too often. -/
  | hugeCount
  /-- The digits of a repetition are too many for a number. -/
  | longCount
  /-- Both ASCII and all scripts are asked for. -/
  | clashingMarks
  deriving DecidableEq

/-- A character of the notation. -/
structure Symbol where
  code : Nat
  /-- Whether a backslash stands before it. -/
  escaped : Bool := false
  deriving DecidableEq

/-- The symbols of a text; a backslash at the end has nothing to escape. -/
def symbols? : List Nat → Option (List Symbol)
  | [] => some []
  | n :: rest =>
    if n == 0x5C then match rest with
      | m :: rest => (symbols? rest).map (⟨m, true⟩ :: ·)
      | [] => none
    else (symbols? rest).map (⟨n, false⟩ :: ·)

/-- What is switched on. -/
structure Marks where
  caseless : Bool := false
  lines : Bool := false
  dotAll : Bool := false
  verbose : Bool := false
  ascii : Bool := false
  /-- Whether nothing may be repeated. -/
  single : Bool := false
  deriving DecidableEq

def Marks.folding (m : Marks) : Folding :=
  if !m.caseless then .none else if m.ascii then .ascii else .full

/-- What is left to read and what is known from before. -/
structure Reading where
  rest : List Symbol
  /-- Marks for the whole pattern. -/
  marks : Marks := {}
  /-- Whether all scripts were asked for. -/
  scripts : Bool := false
  /-- The widths of the groups so far, from number one on; an open group has none. -/
  groups : List (Option Width) := []
  names : List (String × Nat) := []
  /-- The number of groups where the outermost look behind begins. -/
  behind : Option Nat := none
  /-- Groups that are asked for by number. -/
  wanted : List Nat := []

abbrev Reader (α : Type) := StateT Reading (Except Fault) α

namespace Reader

def peek : Reader (Option Symbol) := return (← get).rest.head?

def take : Reader (Option Symbol) := do
  let first ← peek
  modify fun r => { r with rest := r.rest.tail }
  return first

/-- The next symbol, which there must be. -/
def takeOne : Reader Symbol := do
  match ← take with
  | some s => return s
  | none => throw .malformed

/-- Takes a character if it is next, and tells whether it was. -/
def takeIf (c : Char) : Reader Bool := do
  if (← peek) == some ⟨c.toNat, false⟩ then
    let _ ← take
    return true
  else return false

def expect (c : Char) : Reader Unit := do
  if !(← takeIf c) then throw .malformed

/-- At most so many characters that pass a test. -/
def takeWhile (test : Nat → Bool) (most : Nat) : Reader (List Nat) := do
  let found := ((← get).rest.take most).takeWhile fun s => !s.escaped && test s.code
  modify fun r => { r with rest := r.rest.drop found.length }
  return found.map (·.code)

/-- A name up to a character, which is taken too. Every name has at least one character. -/
def takeName (closing : Char) : Reader String := do
  let (name, rest) := (← get).rest.span (· != ⟨closing.toNat, false⟩)
  if name.isEmpty || rest.isEmpty || name.any (·.escaped) then throw .malformed
  modify fun r => { r with rest := rest.tail }
  return String.ofList (Text.ofCodes (name.map (·.code)))

end Reader

open Reader

def isDigit (n : Nat) : Bool := 0x30 ≤ n && n ≤ 0x39

def isOctal (n : Nat) : Bool := 0x30 ≤ n && n ≤ 0x37

def isHex (n : Nat) : Bool := isDigit n || (0x41 ≤ n && n ≤ 0x46) || (0x61 ≤ n && n ≤ 0x66)

def isLetter (n : Nat) : Bool := (0x41 ≤ n && n ≤ 0x5A) || (0x61 ≤ n && n ≤ 0x7A)

/-- The number that digits write to a base. -/
def numberOf (base : Nat) (digits : List Nat) : Nat :=
  digits.foldl (fun n d =>
    base * n + (if isDigit d then d - 0x30 else Text.lowerAsciiCode d - 0x57)) 0

/-- Whether a text can be the name of a group. -/
def isName (s : String) : Bool :=
  match Text.codes s.toList with
  | [] => false
  | n :: rest => Text.isWordCode n && (Text.digitValue? n).isNone && rest.all Text.isWordCode

/-! ## Escapes -/

/-- The category of a letter, and whether it is negated. -/
def category? (n : Nat) : Option (Category × Bool) :=
  if n == 'd'.toNat then some (.digit, false)
  else if n == 'D'.toNat then some (.digit, true)
  else if n == 's'.toNat then some (.blank, false)
  else if n == 'S'.toNat then some (.blank, true)
  else if n == 'w'.toNat then some (.word, false)
  else if n == 'W'.toNat then some (.word, true)
  else none

/-- The control character of a letter. -/
def control? (n : Nat) : Option Nat :=
  ([('a', 0x07), ('b', 0x08), ('f', 0x0C), ('n', 0x0A), ('r', 0x0D), ('t', 0x09), ('v', 0x0B)].find?
    fun (letter, _) => letter.toNat == n).map (·.2)

/-- A code of exactly so many hexadecimal digits. -/
def readHex (width : Nat) : Reader Nat := do
  let digits ← takeWhile isHex width
  let n := numberOf 16 digits
  if digits.length < width || n > 0x10FFFF then throw .malformed
  return n

/-- A code of octal digits, the first of which was taken. -/
def octalCode (digits : List Nat) : Reader Nat := do
  let n := numberOf 8 digits
  if n > 0xFF then throw .malformed
  return n

/-- The code point of an escape without another meaning. -/
def readCode (n : Nat) : Reader Nat := do
  if n == 'x'.toNat then readHex 2
  else if n == 'u'.toNat then readHex 4
  else if n == 'U'.toNat then readHex 8
  else if isLetter n then throw .malformed
  else return n

/-- What an escape within a set stands for. -/
def readMember (ascii : Bool) (n : Nat) : Reader Member := do
  match control? n, category? n with
  | some code, _ => return .range code code
  | none, some (c, negated) => return .category c ascii negated
  | none, none =>
    let code ←
      if isOctal n then octalCode (n :: (← takeWhile isOctal 2))
      else if isDigit n then throw .malformed
      else readCode n
    return .range code code

/-- A reference to a group that is closed, and in a look behind also older than it. -/
def readReference (m : Marks) (number : Nat) : Reader Pattern := do
  let r ← get
  if number == 0 || ((r.groups[number - 1]?).getD none).isNone then throw .malformed
  if r.behind.any (· < number) then throw .malformed
  return .reference number m.folding

/-- A single character. -/
def oneCode (m : Marks) (n : Nat) : Pattern :=
  .one { negated := false, members := [.range n n], folding := m.folding }

/-- An escape that starts with a digit other than zero: three octal digits, or the number of a
group. -/
def readNumeric (m : Marks) (n : Nat) : Reader Pattern := do
  let digits := n :: (← takeWhile isDigit 1)
  let third ← if digits.length == 2 && digits.all isOctal then takeWhile isOctal 1 else pure []
  if third.isEmpty then readReference m (numberOf 10 digits)
  else return oneCode m (← octalCode (digits ++ third))

/-- An anchor by its letter. -/
def anchor? (m : Marks) (n : Nat) : Option Anchor :=
  if n == 'A'.toNat then some (.start false)
  else if n == 'Z'.toNat then some .finish
  else if n == 'b'.toNat then some (.boundary m.ascii false)
  else if n == 'B'.toNat then some (.boundary m.ascii true)
  else none

/-- What an escape stands for. -/
def readEscape (m : Marks) (n : Nat) : Reader Pattern := do
  match anchor? m n, category? n, control? n with
  | some a, _, _ => return .anchor a
  | none, some (c, negated), _ =>
    return .one {
      negated := false, members := [.category c m.ascii negated], folding := m.folding }
  | none, none, some code => return oneCode m code
  | none, none, none =>
    if n == 0x30 then return oneCode m (numberOf 8 (n :: (← takeWhile isOctal 2)))
    else if isDigit n then readNumeric m n
    else return oneCode m (← readCode n)

/-! ## Sets -/

/-- One end of a range, or a category. -/
def readEnd (ascii : Bool) (s : Symbol) : Reader Member :=
  if s.escaped then readMember ascii s.code else return .range s.code s.code

/-- The members of a set and its closing bracket. A bracket in first place is a member. -/
def readMembers (ascii : Bool) : (fuel : Nat) → List Member → Reader (List Member)
  | 0, _ => throw .malformed
  | fuel + 1, members => do
    let s ← takeOne
    if s == ⟨']'.toNat, false⟩ && !members.isEmpty then return members
    let member ← readEnd ascii s
    if ← takeIf '-' then
      let t ← takeOne
      if t == ⟨']'.toNat, false⟩ then
        return .range '-'.toNat '-'.toNat :: member :: members
      match member, ← readEnd ascii t with
      | .range first _, .range last _ =>
        if last < first then throw .malformed
        readMembers ascii fuel (.range first last :: members)
      | _, _ => throw .malformed
    else readMembers ascii fuel (member :: members)

def readSet (m : Marks) : Reader Pattern := do
  let negated ← takeIf '^'
  let members ← readMembers m.ascii ((← get).rest.length + 1) []
  return .one { negated, members, folding := m.folding }

/-! ## Repetition -/

/-- The least count that is too large. -/
def countLimit : Nat := 0xFFFFFFFF

/-- A count, or nothing if it is left out. -/
def countOf (digits : List Nat) : Reader (Option Nat) := do
  if digits.isEmpty then return none
  if digits.length > Text.mostDigits then throw .longCount
  let n := numberOf 10 digits
  if n ≥ countLimit then throw .hugeCount
  return some n

/-- Bounds behind an opening brace, the least and the most. Braces with anything else in them are
plain characters. -/
def readBounds : Reader (Option (Nat × Option Nat)) := do
  let start ← get
  if start.rest.head? == some ⟨'}'.toNat, false⟩ then return none
  let low ← takeWhile isDigit start.rest.length
  let high ← if ← takeIf ',' then takeWhile isDigit start.rest.length else pure low
  if !(← takeIf '}') then
    set start
    return none
  let least := (← countOf low).getD 0
  let most ← countOf high
  if most.any (· < least) then throw .malformed
  return some (least, most)

/-- The bounds that a mark of repetition stands for. -/
def readTimes (c : Nat) : Reader (Option (Nat × Option Nat)) := do
  if c == '?'.toNat then return some (0, some 1)
  else if c == '*'.toNat then return some (0, none)
  else if c == '+'.toNat then return some (1, none)
  else if c == '{'.toNat then readBounds
  else return none

/-- What the mark behind a repetition prefers. -/
def readPreference : Reader Preference := do
  if ← takeIf '?' then return .lazy
  else if ← takeIf '+' then return .possessive
  else return .greedy

/-! ## Marks -/

/-- Marks by their letters that can be switched off again. -/
def switch? (on : Bool) (n : Nat) (m : Marks) : Option Marks :=
  if n == 'i'.toNat then some { m with caseless := on }
  else if n == 'm'.toNat then some { m with lines := on }
  else if n == 's'.toNat then some { m with dotAll := on }
  else if n == 'x'.toNat then some { m with verbose := on }
  else none

/-- The letters of marks up to a character that ends them, which comes with them. -/
def takeMarks : Reader (List Nat × Nat) := do
  let letters ← takeWhile (fun n => isLetter n) (← get).rest.length
  let closing ← takeOne
  if closing.escaped then throw .malformed
  return (letters, closing.code)

/-- Marks switched on: how they change, and whether all scripts are asked for. -/
def switchOn (letters : List Nat) (m : Marks) : Reader (Marks × Bool) := do
  if letters.contains 'a'.toNat && letters.contains 'u'.toNat then throw .malformed
  let m ← letters.foldlM (fun m n =>
    if n == 'a'.toNat then return { m with ascii := true }
    else if n == 'u'.toNat then return { m with ascii := false }
    else if n == 't'.toNat then return { m with single := true }
    else match switch? true n m with
      | some m => return m
      | none => throw .malformed) m
  return (m, letters.contains 'u'.toNat)

/-- Marks for a group, behind their first letters and up to the colon. -/
def switchGroup (on : List Nat) (closing : Nat) (m : Marks) : Reader Marks := do
  if on.contains 't'.toNat then throw .malformed
  let (m, _) ← switchOn on m
  if closing == ':'.toNat then return m
  if closing != '-'.toNat then throw .malformed
  let (off, closing) ← takeMarks
  if off.isEmpty || closing != ':'.toNat || off.any on.contains then throw .malformed
  off.foldlM (fun m n => match switch? false n m with
    | some m => return m
    | none => throw .malformed) m

/-! ## Groups -/

/-- Opens a group and gives its number. -/
def openGroup (name : Option String) : Reader Nat := do
  let r ← get
  let number := r.groups.length + 1
  match name with
  | none => set { r with groups := r.groups ++ [none] }
  | some name =>
    if !isName name || (r.names.lookup name).isSome then throw .malformed
    set { r with groups := r.groups ++ [none], names := (name, number) :: r.names }
  return number

/-- The width of a group that was closed. -/
def Reading.groupWidth (r : Reading) (number : Nat) : Width :=
  ((r.groups[number - 1]?).getD none).getD (.exactly 0)

def closeGroup (number : Nat) (p : Pattern) : Reader Unit :=
  modify fun r => { r with groups := r.groups.set (number - 1) (some (p.width r.groupWidth)) }

/-- The number of a group that a name or a number in parentheses asks for. -/
def readCondition : Reader Nat := do
  let name ← takeName ')'
  let number ←
    if isName name then match (← get).names.lookup name with
      | some number => pure number
      | none => throw .malformed
    else
      let digits := Text.codes name.toList
      if !digits.all isDigit || digits.length > Text.mostDigits then throw .malformed
      pure (numberOf 10 digits)
  if number == 0 then throw .malformed
  modify fun r => { r with wanted := number :: r.wanted }
  let r ← get
  if r.behind.any fun limit => limit < number || ((r.groups[number - 1]?).getD none).isNone then
    throw .malformed
  return number

def skipComment : Reader Unit := do
  let rest := (← get).rest.dropWhile (· != ⟨')'.toNat, false⟩)
  if rest.isEmpty then throw .malformed
  modify fun r => { r with rest := rest.tail }

/-- Reads over the rest of a line. -/
def skipLine : Reader Unit :=
  modify fun r => { r with rest := (r.rest.dropWhile (· != ⟨0x0A, false⟩)).tail }

/-- What was read of a sequence. -/
inductive Piece where
  | nothing
  /-- A pattern; whether it is an anchor or repeated, and so cannot be repeated. -/
  | item (firm : Bool) (p : Pattern)
  | times (least : Nat) (most : Option Nat)

/-- Items one after the other, the last one first. -/
def sequence (items : List (Bool × Pattern)) : Pattern :=
  items.foldl (fun p (_, q) => if p == .empty then q else .seq q p) .empty

/-- The marks at a place: those of the group around it, else those of the whole pattern. -/
def marksAt (scope : Option Marks) : Reader Marks := do
  match scope with
  | some m => return m
  | none => return (← get).marks

mutual

/-- Alternatives up to a closing parenthesis or the end. -/
def readAlternatives (scope : Option Marks) (first : Bool) : (fuel : Nat) → Reader Pattern
  | 0 => throw .malformed
  | fuel + 1 => do
    let p ← readSequence scope first [] fuel
    if ← takeIf '|' then return .alt p (← readAlternatives scope false fuel)
    else return p

/-- Items with their repetitions; those that were read are given, the last one first. -/
def readSequence (scope : Option Marks) (first : Bool) (items : List (Bool × Pattern)) :
    (fuel : Nat) → Reader Pattern
  | 0 => throw .malformed
  | fuel + 1 => do
    match ← peek with
    | none => return sequence items
    | some s =>
      if !s.escaped && (s.code == '|'.toNat || s.code == ')'.toNat) then return sequence items
      let _ ← take
      let m ← marksAt scope
      if m.verbose && !s.escaped && Category.blank.holds true s.code then
        readSequence scope first items fuel
      else if m.verbose && s == ⟨'#'.toNat, false⟩ then
        skipLine
        readSequence scope first items fuel
      else
        match ← readPiece m (first && items.isEmpty) s fuel with
        | .nothing => readSequence scope first items fuel
        | .item firm p => readSequence scope first ((firm, p) :: items) fuel
        | .times least most => match items with
          | (false, p) :: items =>
            let preference ← readPreference
            if m.single then throw .malformed
            readSequence scope first ((true, .times preference least most p) :: items) fuel
          | _ => throw .malformed

/-- What starts with a symbol that was taken. -/
def readPiece (m : Marks) (first : Bool) (s : Symbol) : (fuel : Nat) → Reader Piece
  | 0 => throw .malformed
  | fuel + 1 => do
    if s.escaped then
      match ← readEscape m s.code with
      | .anchor a => return .item true (.anchor a)
      | p => return .item false p
    else if s.code == '['.toNat then return .item false (← readSet m)
    else if s.code == '.'.toNat then
      return .item false (.one (if m.dotAll then ⟨true, [], .none⟩ else .allBut '\n'))
    else if s.code == '^'.toNat then return .item true (.anchor (.start m.lines))
    else if s.code == '$'.toNat then return .item true (.anchor (.stop m.lines))
    else if s.code == '('.toNat then
      if ← takeIf '?' then readExtension m first fuel
      else return .item false (← readGroup m none fuel)
    else match ← readTimes s.code with
      | some (least, most) => return .times least most
      | none => return .item false (oneCode m s.code)

/-- What follows an opening parenthesis and a question mark. -/
def readExtension (m : Marks) (first : Bool) : (fuel : Nat) → Reader Piece
  | 0 => throw .malformed
  | fuel + 1 => do
    let s ← takeOne
    if s.escaped then throw .malformed
    else if s.code == ':'.toNat then return .item false (← readInside m fuel)
    else if s.code == '>'.toNat then return .item false (.atomic (← readInside m fuel))
    else if s.code == '#'.toNat then
      skipComment
      return .nothing
    else if s.code == '='.toNat then return .item false (.ahead false (← readInside m fuel))
    else if s.code == '!'.toNat then return .item false (.ahead true (← readInside m fuel))
    else if s.code == '<'.toNat then
      let negated ← takeIf '!'
      if !negated then expect '='
      return .item false (← readBehind m negated fuel)
    else if s.code == '('.toNat then
      let number ← readCondition
      let yes ← readSequence (some m) false [] fuel
      let no ← if ← takeIf '|' then readSequence (some m) false [] fuel else pure .empty
      expect ')'
      return .item false (.choice number yes no)
    else if s.code == 'P'.toNat then
      if ← takeIf '<' then
        let name ← takeName '>'
        return .item false (← readGroup m (some name) fuel)
      else
        expect '='
        let name ← takeName ')'
        match (← get).names.lookup name with
        | some number => return .item false (← readReference m number)
        | none => throw .malformed
    else
      modify fun r => { r with rest := s :: r.rest }
      let (on, closing) ← takeMarks
      if closing == ')'.toNat && !on.isEmpty then
        if !first then throw .malformed
        let (marks, scripts) ← switchOn on (← get).marks
        modify fun r => { r with
          marks := { marks with ascii := marks.ascii || r.marks.ascii }
          scripts := r.scripts || scripts }
        return .nothing
      else
        let m ← switchGroup on closing m
        return .item false (← readInside m fuel)

/-- A group that is kept. -/
def readGroup (m : Marks) (name : Option String) : (fuel : Nat) → Reader Pattern
  | 0 => throw .malformed
  | fuel + 1 => do
    let number ← openGroup name
    let p ← readInside m fuel
    closeGroup number p
    return .group number p

/-- What must match before a place; all its matches have one width. -/
def readBehind (m : Marks) (negated : Bool) : (fuel : Nat) → Reader Pattern
  | 0 => throw .malformed
  | fuel + 1 => do
    let outer := (← get).behind
    modify fun r => { r with behind := outer <|> some r.groups.length }
    let p ← readInside m fuel
    modify fun r => { r with behind := outer }
    let w := p.width (← get).groupWidth
    if w.most != some w.least then throw .malformed
    return .behind w.least negated p

/-- Alternatives and a closing parenthesis. -/
def readInside (m : Marks) : (fuel : Nat) → Reader Pattern
  | 0 => throw .malformed
  | fuel + 1 => do
    let p ← readAlternatives (some m) false fuel
    expect ')'
    return p

end

/-- A whole pattern. -/
def readAll (fuel : Nat) : Reader Pattern := do
  let p ← readAlternatives none true fuel
  let r ← get
  if r.marks.ascii && r.scripts then throw .clashingMarks
  if !r.rest.isEmpty || r.wanted.any (r.groups.length < ·) then throw .malformed
  return p

/-- The pattern that a row of code points writes. Every reader that calls another one has taken a
symbol at most five calls before. -/
def ofCodes (codes : List Nat) : Except Fault Pattern :=
  match symbols? codes with
  | none => .error .malformed
  | some rest => ((readAll (8 * rest.length + 8)).run { rest }).map (·.1)

/-- The pattern that a text writes. -/
def ofString (s : String) : Except Fault Pattern := ofCodes (Text.codes s.toList)

end FlowTemplate.Pattern
