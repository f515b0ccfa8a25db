import FlowTemplate.Document.Timestamp
import FlowTemplate.Log.Entry
import FlowTemplate.Text.Directive
/-!
# Log lines

How an entry of a log is written for a terminal: the time in UTC, the name of the logger, the name
of the level in its colour and the message.
-/

namespace FlowTemplate.Log

/-- What is known about an entry when it is written. -/
structure Record where
  name : String
  level : Int
  message : String
  /-- Values for the directives of the message; without any the message stands as it is. -/
  arguments : List Value
  /-- Seconds since the beginning of 1970. -/
  created : Value

def lineFormat : String := "%(asctime)s | %(name)s | %(levelname)s | %(message)s"

def timeFormat : String := "%Y-%m-%d %H:%M:%S"

/-- The code that starts the colour of a level. -/
def colour? (levelName : String) : Option String :=
  ([("DEBUG", "\x1b[36m"), ("INFO", "\x1b[32m"), ("WARNING", "\x1b[33m"), ("ERROR", "\x1b[31m"),
    ("CRITICAL", "\x1b[35m")] : List (String × String)).lookup levelName

def coloured (levelName : String) : String :=
  match colour? levelName with
  | some code => code ++ levelName ++ "\x1b[0m"
  | none => levelName

/-- Year, month and day of a count of days since the beginning of 1970, in the calendar of today.
Years are counted from March, so that the leap day is the last of its year. -/
def dayOf (days : Int) : Int × Nat × Nat :=
  let shifted := days + 719468
  let era := shifted.fdiv 146097
  let day := (shifted.fmod 146097).toNat
  let year := (day - day / 1460 + day / 36524 - day / 146096) / 365
  let rest := day - (365 * year + year / 4 - year / 100)
  let month := (5 * rest + 2) / 153
  let dayOfMonth := rest - (153 * month + 2) / 5 + 1
  let month := if month < 10 then month + 3 else month - 9
  ((year : Int) + era * 400 + (if month ≤ 2 then 1 else 0), month, dayOfMonth)

/-- Why a number of seconds is no time. -/
inductive TimeFailure where
  | notANumber
  /-- The seconds, or the year, are more than a clock counts. -/
  | outOfRange
  /-- The year is more than a calendar counts. -/
  | beyondCalendar
  deriving DecidableEq

/-- Whole seconds of a time, rounded down. -/
def seconds (created : Value) : Except TimeFailure Int :=
  match created with
  | .atom (.int i) => .ok i
  | .atom (.float x) => match x.parts? with
    | some (m, q) => .ok (if q < 0 then Int.fdiv m (twoTo (-q).toNat) else m * twoTo q.toNat)
    | none => .error (if x.isNaN then .notANumber else .outOfRange)
  | _ => .ok 0

/-- Whether a number has a place among those of some bits and a sign. -/
def fitsBits (bits : Nat) (n : Int) : Bool := -(twoTo (bits - 1) : Int) ≤ n && n < twoTo (bits - 1)

/-- The time some seconds after the beginning of 1970. Seconds are counted in 64 bits and years in 32,
a calendar counting them from 1900. -/
def timeText (created : Value) : Except TimeFailure String := do
  let seconds ← seconds created
  if !fitsBits 64 seconds then throw .outOfRange
  let (year, month, day) := dayOf (seconds.fdiv 86400)
  if !fitsBits 32 (year - 1900) then throw .beyondCalendar
  if !fitsBits 32 year then throw .outOfRange
  let clock := (seconds.fmod 86400).toNat
  let two := Timestamp.padded 2
  return s!"{year}-{two month}-{two day} "
    ++ s!"{two (clock / 3600)}:{two (clock / 60 % 60)}:{two (clock % 60)}"

/-- Why a line cannot be written. -/
inductive LineFailure where
  | message (e : Directive.Failure)
  | time (e : TimeFailure)
  /-- The format is none, or names what is not known about an entry. -/
  | format
  | line (e : Directive.Failure)
  deriving DecidableEq

/-- The message with its directives filled in. A lone mapping is taken apart by key. -/
def Record.text (r : Record) : Except Directive.Failure String :=
  match r.arguments with
  | [] => .ok r.message
  | [.map (entry :: rest)] => Directive.ofEntries (entry :: rest) r.message
  | items => Directive.ofItems items r.message

/-- Whether a directive with a key starts behind a percent sign. -/
def startsKeyed (s : List Char) : Bool :=
  match s with
  | '(' :: rest =>
    let (key, rest) := rest.span fun c => c.isAlphanum || c == '_'
    match rest with
    | ')' :: rest =>
      let measure (s : List Char) : List Char := match s with
        | '*' :: rest => rest
        | s => s.dropWhile Char.isDigit
      let rest := measure (rest.dropWhile fun c => "#0+ -".toList.contains c)
      let rest := match rest with
        | '.' :: c :: rest => if c == '*' || c.isDigit then measure (c :: rest) else '.' :: c :: rest
        | s => s
      !key.isEmpty && match rest with
        | c :: _ => "diouxefgcrsa%".toList.contains c.toLower
        | [] => false
    | _ => false
  | _ => false

/-- Whether a format has a directive with a key. -/
def hasKeyed : List Char → Bool
  | '%' :: rest => startsKeyed rest || hasKeyed rest
  | _ :: rest => hasKeyed rest
  | [] => false

/-- Whether a text occurs in a format. -/
def mentions (part : List Char) : List Char → Bool
  | [] => part.isEmpty
  | c :: rest => part.isPrefixOf (c :: rest) || mentions part rest

/-- What is known about every entry alike: nothing about where it was logged. -/
def Record.unknownPlace : Entries :=
  let texts := ["pathname", "filename", "module"].map fun key => (Atom.str key, Value.str "")
  let missing := ["funcName", "exc_info", "exc_text", "stack_info"].map fun key =>
    (Atom.str key, Value.null)
  (.str "lineno", .int 0) :: (.str "threadName", .str "MainThread")
    :: (.str "processName", .str "MainProcess") :: texts ++ missing

/-- What a format can name, the time apart. -/
def Record.entries (r : Record) (message : String) : Entries :=
  let arguments : Value := if r.arguments.isEmpty then .null else .tuple r.arguments
  [(.str "name", .str r.name), (.str "levelname", .str (coloured (nameOf r.level))),
    (.str "levelno", .int r.level), (.str "message", .str message), (.str "msg", .str r.message),
    (.str "args", arguments), (.str "created", r.created)] ++ unknownPlace

/-- The line for an entry under a format. -/
def Record.line (r : Record) (format : String) : Except LineFailure String := do
  if !hasKeyed format.toList then throw .format
  let message ← r.text.mapError .message
  let entries := r.entries message
  let entries ← if mentions "%(asctime)".toList format.toList then do
      let time ← (timeText r.created).mapError .time
      pure ((Atom.str "asctime", Value.str time) :: entries)
    else pure entries
  match Directive.ofEntries entries format with
  | .ok line => return line
  | .error .noSuchKey => throw .format
  | .error e => throw (.line e)

end FlowTemplate.Log
