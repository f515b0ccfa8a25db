/-!
# Timestamps

A calendar date, or a date with a time of day and possibly an offset from UTC. Only an explicit
timestamp tag makes one; plain text that looks like a date stays text.
-/

namespace FlowTemplate

/-- A time of day; the offset from UTC is in minutes east. -/
structure ClockTime where
  hour : Nat
  minute : Nat
  second : Nat
  microsecond : Nat
  offset : Option Int
  deriving DecidableEq

structure Timestamp where
  year : Nat
  month : Nat
  day : Nat
  clock : Option ClockTime
  deriving DecidableEq

namespace Timestamp

def isLeapYear (year : Nat) : Bool :=
  year % 4 == 0 && (year % 100 != 0 || year % 400 == 0)

def daysInMonth (year month : Nat) : Nat :=
  if month == 2 then (if isLeapYear year then 29 else 28)
  else if month == 4 || month == 6 || month == 9 || month == 11 then 30
  else 31

/-- Whether the fields name a day and a time of day that exist. -/
def isValid (t : Timestamp) : Bool :=
  1 ≤ t.year && t.year ≤ 9999 && 1 ≤ t.month && t.month ≤ 12 && 1 ≤ t.day
    && t.day ≤ daysInMonth t.year t.month
    && t.clock.all fun c =>
      c.hour < 24 && c.minute < 60 && c.second < 60 && c.microsecond < 1000000
        && c.offset.all fun minutes => -1440 < minutes && minutes < 1440

/-- The days from the start of the year 1 to the start of a year. -/
def daysBeforeYear (year : Nat) : Nat :=
  let past := year - 1
  365 * past + past / 4 - past / 100 + past / 400

/-- The days from the start of a year to the start of a month. -/
def daysBeforeMonth (year month : Nat) : Nat :=
  ((List.range (month - 1)).map fun m => daysInMonth year (m + 1)).foldl (· + ·) 0

/-- The microseconds from the start of the year 1 to a time with an offset. -/
def instant (t : Timestamp) (c : ClockTime) (offset : Int) : Int :=
  let days : Int := daysBeforeYear t.year + daysBeforeMonth t.year t.month + (t.day - 1)
  let minutes : Int := (days * 24 + c.hour) * 60 + c.minute - offset
  (minutes * 60 + c.second) * 1000000 + c.microsecond

/-- Whether two timestamps mean the same: with offsets, the same instant. -/
def sameTime (t u : Timestamp) : Bool :=
  let instant? (t : Timestamp) : Option Int := t.clock.bind fun c => c.offset.map (t.instant c)
  match instant? t, instant? u with
  | some a, some b => a == b
  | none, none => t == u
  | _, _ => false

/-- Decimal digits of `n`, with zeros in front up to a width. -/
def padded (width n : Nat) : String :=
  let digits := Nat.toDigits 10 n
  String.ofList (List.replicate (width - digits.length) '0' ++ digits)

/-- The text `±HH:MM`. -/
def offsetText (minutes : Int) : String :=
  (if minutes < 0 then "-" else "+") ++ padded 2 (minutes.natAbs / 60) ++ ":"
    ++ padded 2 (minutes.natAbs % 60)

def dateText (t : Timestamp) : String :=
  padded 4 t.year ++ "-" ++ padded 2 t.month ++ "-" ++ padded 2 t.day

def clockText (c : ClockTime) : String :=
  padded 2 c.hour ++ ":" ++ padded 2 c.minute ++ ":" ++ padded 2 c.second
    ++ (if c.microsecond = 0 then "" else "." ++ padded 6 c.microsecond)
    ++ (match c.offset with
      | none => ""
      | some minutes => offsetText minutes)

/-- The ISO 8601 text, with the given mark between date and time. -/
def isoText (mark : String) (t : Timestamp) : String :=
  match t.clock with
  | none => t.dateText
  | some c => t.dateText ++ mark ++ clockText c

example : isoText "T" ⟨2001, 2, 3, some ⟨4, 5, 6, 700, some (-90)⟩⟩
    = "2001-02-03T04:05:06.000700-01:30" := by decide +kernel

end Timestamp

end FlowTemplate
