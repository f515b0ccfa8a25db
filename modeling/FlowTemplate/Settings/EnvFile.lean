import FlowTemplate.Text.Blank
/-!
# Files of environment variables

One `NAME=value` a line, with comments, quotes and `${NAME:-default}` references. A name alone has
no value. A line that cannot be read is skipped; the lines after it count. All readers here take
text whose lines end in a line feed only.
-/

namespace FlowTemplate.EnvFile

/-- What is left to read, or nothing if the line cannot be read. -/
abbrev Reading (α : Type) := Option (α × List Char)

/-- Blanks within a line. -/
def isGap (c : Char) : Bool := Text.isBlank c && c != '\n'

def skipGap (s : List Char) : List Char := s.dropWhile isGap

/-- The text behind the rest of a line and its end. -/
def skipLine (s : List Char) : List Char :=
  (s.dropWhile (· != '\n')).drop 1

/-- The text behind the word `export` and a gap, if there are both. -/
def skipExport (s : List Char) : List Char :=
  match s with
  | 'e' :: 'x' :: 'p' :: 'o' :: 'r' :: 't' :: c :: rest => if isGap c then skipGap rest else s
  | _ => s

/-- A name: in single quotes, or up to an equals sign, a number sign or a blank. A comment has
none. -/
def readName (s : List Char) : Reading (Option String) :=
  match s with
  | '#' :: _ => some (none, s)
  | '\'' :: rest =>
    match rest.span (· != '\'') with
    | (name@(_ :: _), '\'' :: rest) => some (some (String.ofList name), rest)
    | _ => none
  | _ =>
    match s.span fun c => c != '=' && c != '#' && !Text.isBlank c with
    | (name@(_ :: _), rest) => some (some (String.ofList name), rest)
    | _ => none

/-- The text up to a closing quote. A character behind a backslash closes nothing. -/
def readQuoted (quote : Char) : List Char → Reading (List Char)
  | '\\' :: c :: rest => (readQuoted quote rest).map fun (s, rest) => ('\\' :: c :: s, rest)
  | c :: rest =>
    if c == quote then some ([], rest)
    else (readQuoted quote rest).map fun (s, rest) => (c :: s, rest)
  | [] => none

/-- The character that a letter behind a backslash stands for between double quotes. -/
def escape? : Char → Option Char
  | '\\' => some '\\'
  | '\'' => some '\''
  | '"' => some '"'
  | 'a' => some '\x07'
  | 'b' => some '\x08'
  | 'f' => some '\x0c'
  | 'n' => some '\n'
  | 'r' => some '\r'
  | 't' => some '\t'
  | 'v' => some '\x0b'
  | _ => none

/-- Between single quotes only backslashes and single quotes are escaped. -/
def singleEscape? (c : Char) : Option Char := if c == '\\' || c == '\'' then some c else none

/-- A text with its escapes replaced. -/
def unescape (escape? : Char → Option Char) : List Char → List Char
  | '\\' :: c :: rest => match escape? c with
    | some d => d :: unescape escape? rest
    | none => '\\' :: unescape escape? (c :: rest)
  | c :: rest => c :: unescape escape? rest
  | [] => []
termination_by s => s.length

/-- A text without the comment at its end: a number sign behind a blank, and the blanks before. -/
def withoutComment (pending : List Char) : List Char → List Char
  | [] => pending.reverse
  | c :: rest =>
    if Text.isBlank c then withoutComment (c :: pending) rest
    else if c == '#' && !pending.isEmpty then []
    else pending.reverse ++ c :: withoutComment [] rest

/-- The value behind an equals sign. -/
def readValue (s : List Char) : Reading (List Char) :=
  match s with
  | '\'' :: rest => (readQuoted '\'' rest).map fun (v, rest) => (unescape singleEscape? v, rest)
  | '"' :: rest => (readQuoted '"' rest).map fun (v, rest) => (unescape escape? v, rest)
  | _ =>
    let (line, rest) := s.span (· != '\n')
    some (Text.trimEnd (withoutComment [] line), rest)

/-- The text behind a comment and the end of the line. -/
def readLineEnd (s : List Char) : Option (List Char) :=
  let s := match skipGap s with
    | '#' :: rest => rest.dropWhile (· != '\n')
    | _ => s
  match skipGap s with
  | '\n' :: rest => some rest
  | [] => some []
  | _ => none

/-- A line that can be read: a name with or without a value, or a comment. A line that cannot be
read leaves the text from the place where reading stopped. -/
def readLine (s : List Char) : Except (List Char) ((Option (String × Option String)) × List Char) :=
  let s := skipExport s
  match readName s with
  | none => .error s
  | some (name, rest) =>
    let rest := skipGap rest
    let value : Except (List Char) (Option String × List Char) := match rest with
      | '=' :: rest =>
        let rest := skipGap rest
        match readValue rest with
        | some (v, rest) => .ok (some (String.ofList v), rest)
        | none => .error rest
      | _ => .ok (none, rest)
    match value with
    | .error rest => .error rest
    | .ok (v, rest) => match readLineEnd rest with
      | some next => .ok (name.map (·, v), next)
      | none => .error rest

/-- The names of at most `fuel` lines. -/
def readLines : (fuel : Nat) → List Char → List (String × Option String)
  | 0, _ => []
  | fuel + 1, s =>
    match s.dropWhile Text.isBlank with
    | [] => []
    | s => match readLine s with
      | .ok (some entry, rest) => entry :: readLines fuel rest
      | .ok (none, rest) => readLines fuel rest
      | .error rest => readLines fuel (skipLine rest)

/-- A text without the mark that may stand at the start of a file. -/
def withoutByteOrderMark : List Char → List Char
  | '\ufeff' :: rest => rest
  | s => s

/-- The names of a file, as they are written. Every line has at least one character. -/
def lines (s : String) : List (String × Option String) :=
  let cs := Text.unifyLineEnds (withoutByteOrderMark s.toList)
  readLines cs.length cs

/-- What stands between the braces of a reference: a name, and a default behind `:-`. -/
def readReference (s : List Char) : Reading (String × String) :=
  match s.span fun c => c != '\x7d' && c != ':' with
  | (name, '\x7d' :: rest) => some ((String.ofList name, ""), rest)
  | (name, ':' :: '-' :: rest) => match rest.span (· != '\x7d') with
    | (default, '\x7d' :: rest) => some ((String.ofList name, String.ofList default), rest)
    | _ => none
  | _ => none

/-- A value with its references replaced. A name without a value counts as an empty text. -/
def expand (lookUp : String → Option (Option String)) : (fuel : Nat) → List Char → List Char
  | fuel + 1, '$' :: '\x7b' :: rest => match readReference rest with
    | some ((name, default), rest) =>
      (((lookUp name).getD (some default)).getD "").toList ++ expand lookUp fuel rest
    | none => '$' :: expand lookUp fuel ('\x7b' :: rest)
  | fuel + 1, c :: rest => c :: expand lookUp fuel rest
  | _, s => s

/-- Puts a value under a name, in the place of an earlier one. -/
def put (entries : List (String × Option String)) (name : String) (v : Option String) :
    List (String × Option String) :=
  if entries.any (·.1 == name) then
    entries.map fun (k, w) => if k == name then (k, v) else (k, w)
  else entries ++ [(name, v)]

/-- The variables of a file: references see the variables above them, then the environment. -/
def read (environment : List (String × String)) (s : String) :
    List (String × Option String) :=
  (lines s).foldl (fun entries (name, value) =>
    let lookUp (k : String) : Option (Option String) :=
      entries.lookup k <|> (environment.lookup k).map some
    put entries name (value.map fun v =>
      String.ofList (expand lookUp v.length v.toList))) []

end FlowTemplate.EnvFile
