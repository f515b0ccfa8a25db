import FlowTemplate.Number.Binary64
/-!
# Shortest decimal text of a double

The text of a finite double has the fewest digits that read back as the same double, and of those
decimals it is the nearest. A decimal reads back exactly when it lies in the interval of reals that
round to the double; the ends belong to the interval when the significand is even.
-/

namespace FlowTemplate.Binary64

/-- A positive fraction and the interval around it, over a common denominator. -/
structure Rounding where
  value : Nat
  low : Nat
  high : Nat
  den : Nat
  closed : Bool

/-- The reals that round to `m · 2^q`. Below the smallest significand of an exponent the
neighbours are twice as close. -/
def rounding (m : Nat) (q : Int) : Rounding :=
  let below := if m = twoTo 52 && q > -1074 then 1 else 2
  let up := (q - 2).toNat
  let down := (2 - q).toNat
  { value := 4 * m * twoTo up, low := (4 * m - below) * twoTo up, high := (4 * m + 2) * twoTo up
    den := twoTo down, closed := m % 2 == 0 }

/-- Whether `n · 10^e` lies in the interval. -/
def Rounding.holds (r : Rounding) (n : Nat) (e : Int) : Bool :=
  let point := n * tenTo e.toNat * r.den
  let unit := tenTo (-e).toNat
  if r.closed then r.low * unit ≤ point && point ≤ r.high * unit
  else r.low * unit < point && point < r.high * unit

/-- The greatest `n` with `n · 10^e` at most the value. -/
def Rounding.gridFloor (r : Rounding) (e : Int) : Nat :=
  r.value * tenTo (-e).toNat / (r.den * tenTo e.toNat)

/-- Whether the value is nearer to `n` than to `n + 1` on the grid of `10^e`; a tie goes to the
even one. -/
def Rounding.prefersLower (r : Rounding) (n : Nat) (e : Int) : Bool :=
  let twice := 2 * r.value * tenTo (-e).toNat
  let middle := (2 * n + 1) * r.den * tenTo e.toNat
  twice < middle || (twice == middle && n % 2 == 0)

/-- The decimal on the grid of `10^e` that reads back, if there is one. -/
def Rounding.onGrid? (r : Rounding) (e : Int) : Option Nat :=
  let n := r.gridFloor e
  match r.holds n e, r.holds (n + 1) e with
  | true, true => some (if r.prefersLower n e then n else n + 1)
  | true, false => some n
  | false, true => some (n + 1)
  | false, false => none

/-- The exponent of the leading decimal digit, found upward from a guess that is not too high. -/
def Rounding.leading (r : Rounding) : Nat → Int → Int
  | 0, e => e
  | steps + 1, e => if r.gridFloor (e + 1) = 0 then e else r.leading steps (e + 1)

/-- The first grid, from coarse to fine, that holds a decimal which reads back. -/
def Rounding.search (r : Rounding) : Nat → Int → Nat × Int
  | 0, e => (r.gridFloor e, e)
  | steps + 1, e => match r.onGrid? e with
    | some n => (n, e)
    | none => r.search steps (e - 1)

/-- Trailing zeros go into the exponent. -/
def trimZeros : Nat → Nat → Int → Nat × Int
  | 0, n, e => (n, e)
  | steps + 1, n, e => if n != 0 && n % 10 == 0 then trimZeros steps (n / 10) (e + 1) else (n, e)

/-- The digits and the exponent of the shortest decimal for a positive `m · 2^q`. -/
def shortest (m : Nat) (q : Int) : Nat × Int :=
  let r := rounding m q
  let guess := ((m.log2 : Int) + q) * 1233 / 4096 - 2
  let top := r.leading 5 guess
  let (n, e) := r.search 17 top
  trimZeros 20 n e

/-- How the text of a double is laid out. -/
structure Layout where
  nan : String
  infinity : String
  /-- The least exponent of the leading digit that is written without an exponent. -/
  positionalFrom : Int
  /-- The greatest such exponent. -/
  positionalTo : Int

/-- Digits of `n · 10^e` with the point in place; a whole number ends in `.0`. -/
def positional (n : Nat) (e : Int) : String :=
  let digits := Nat.toDigits 10 n
  if e ≥ 0 then String.ofList (digits ++ List.replicate e.toNat '0') ++ ".0"
  else
    let places := (-e).toNat
    let padded := List.replicate (places + 1 - digits.length) '0' ++ digits
    let whole := padded.length - places
    String.ofList (padded.take whole) ++ "." ++ String.ofList (padded.drop whole)

/-- One digit, the rest after a point, and an exponent of at least two digits with its sign. -/
def exponential (n : Nat) (e : Int) : String :=
  let digits := Nat.toDigits 10 n
  let exponent := e + (digits.length : Int) - 1
  let mantissa := match digits with
    | [] => ""
    | [d] => String.singleton d
    | d :: rest => String.singleton d ++ "." ++ String.ofList rest
  let power := Nat.toDigits 10 exponent.natAbs
  let power := if power.length < 2 then '0' :: power else power
  mantissa ++ (if exponent < 0 then "e-" else "e+") ++ String.ofList power

/-- The text of a double under a layout. -/
def text (layout : Layout) (x : Binary64) : String :=
  match x.kind with
  | .nan => layout.nan
  | .infinite negative => (if negative then "-" else "") ++ layout.infinity
  | .finite negative m q =>
    let body :=
      if m = 0 then "0.0"
      else
        let (n, e) := shortest m q
        let leading := e + ((Nat.toDigits 10 n).length : Int) - 1
        if layout.positionalFrom ≤ leading && leading ≤ layout.positionalTo then positional n e
        else exponential n e
    (if negative then "-" else "") ++ body

end FlowTemplate.Binary64
