/-!
# Binary floating point

Doubles as bit patterns, so that equality of values is equality of bits and every function is
exact arithmetic on natural numbers. A finite double is `±significand · 2^exponent`.
-/

/-! ## Powers

Powers of the two bases that numbers are written in: of two in the bits of a double, of ten in its
digits.
-/

namespace FlowTemplate

/-- A power of two. -/
def twoTo (exponent : Nat) : Nat := Nat.pow 2 exponent

/-- A power of ten. -/
def tenTo (exponent : Nat) : Nat := Nat.pow 10 exponent

/-- A double-precision number, by its bits. -/
structure Binary64 where
  bits : UInt64
  deriving DecidableEq, Inhabited

namespace Binary64

/-- What a bit pattern stands for. -/
inductive Kind where
  | nan
  | infinite (negative : Bool)
  | finite (negative : Bool) (significand : Nat) (exponent : Int)
  deriving DecidableEq

def isNegative (x : Binary64) : Bool := x.bits.toNat ≥ twoTo 63

/-- The eleven exponent bits. -/
def exponentField (x : Binary64) : Nat := x.bits.toNat / twoTo 52 % twoTo 11

/-- The fifty-two fraction bits. -/
def fractionField (x : Binary64) : Nat := x.bits.toNat % twoTo 52

def kind (x : Binary64) : Kind :=
  if x.exponentField = 2047 then
    if x.fractionField = 0 then .infinite x.isNegative else .nan
  else if x.exponentField = 0 then .finite x.isNegative x.fractionField (-1074)
  else .finite x.isNegative (twoTo 52 + x.fractionField) (x.exponentField - 1075)

def nan : Binary64 := ⟨0x7FF8000000000000⟩

/-- The double of a sign and the sixty-three bits below it. -/
def ofMagnitude (negative : Bool) (magnitude : Nat) : Binary64 :=
  ⟨UInt64.ofNat (if negative then magnitude + twoTo 63 else magnitude)⟩

def infinity (negative : Bool) : Binary64 := ofMagnitude negative (2047 * twoTo 52)

/-- The quotient `num / den` to the nearest integer, a half going to the even neighbour. -/
def roundDiv (num den : Nat) : Nat :=
  let quotient := num / den
  let twice := 2 * (num % den)
  if twice > den || (twice == den && quotient % 2 == 1) then quotient + 1 else quotient

/-- The value `num / den · 2^(-exponent)` as a fraction of natural numbers. -/
def scaled (num den : Nat) (exponent : Int) : Nat × Nat :=
  if exponent ≥ 0 then (num, den * twoTo exponent.toNat) else (num * twoTo (-exponent).toNat, den)

/-- The exponent at which `num / den` has a significand of fifty-three bits, or `-1074` when it
is too small for that. -/
def exponentFor (num den : Nat) : Int :=
  let guess : Int := (num.log2 : Int) - den.log2 - 52
  let (n, d) := scaled num den guess
  max (if n / d < twoTo 52 then guess - 1 else guess) (-1074)

/-- The double nearest to `±num / den`, ties to the even significand; beyond the largest finite
double the result is infinite. -/
def ofRatio (negative : Bool) (num den : Nat) : Binary64 :=
  if num = 0 then ofMagnitude negative 0
  else
    let exponent := exponentFor num den
    let (n, d) := scaled num den exponent
    let magnitude := (exponent + 1074).toNat * twoTo 52 + roundDiv n d
    if magnitude ≥ 2047 * twoTo 52 then infinity negative else ofMagnitude negative magnitude

/-- The double nearest to an integer. -/
def ofInt (i : Int) : Binary64 := ofRatio (decide (i < 0)) i.natAbs 1

/-- The double nearest to `±digits · 10^exponent`. Exponents far outside the range of doubles are
answered without computing the power. -/
def ofDecimal (negative : Bool) (digits : Nat) (exponent : Int) : Binary64 :=
  if digits = 0 then ofMagnitude negative 0
  else if exponent > 400 then infinity negative
  else if exponent + (digits.log2 : Int) < -1500 then ofMagnitude negative 0
  else if exponent ≥ 0 then ofRatio negative (digits * tenTo exponent.toNat) 1
  else ofRatio negative digits (tenTo (-exponent).toNat)

def neg (x : Binary64) : Binary64 :=
  ⟨UInt64.ofNat ((x.bits.toNat + twoTo 63) % twoTo 64)⟩

/-- The signed significand and the exponent of a finite double. -/
def parts? (x : Binary64) : Option (Int × Int) :=
  match x.kind with
  | .finite negative m q => some (if negative then -(m : Int) else m, q)
  | _ => none

/-- The integer a finite double is equal to, if it has no fraction. -/
def toInt? (x : Binary64) : Option Int :=
  match x.parts? with
  | none => none
  | some (m, q) =>
    if q ≥ 0 then some (m * twoTo q.toNat)
    else if m % (twoTo (-q).toNat : Int) = 0 then some (m / (twoTo (-q).toNat : Int))
    else none

def isInteger (x : Binary64) : Bool := x.toInt?.isSome

def isNaN (x : Binary64) : Bool := x.kind == .nan

/-- The double nearest to `m · 2^q`; a zero keeps the sign asked for. -/
def ofScaled (m q : Int) (negativeZero : Bool) : Binary64 :=
  let negative := if m = 0 then negativeZero else decide (m < 0)
  if q ≥ 0 then ofRatio negative (m.natAbs * twoTo q.toNat) 1
  else ofRatio negative m.natAbs (twoTo (-q).toNat)

/-- The correctly rounded sum. -/
def add (x y : Binary64) : Binary64 :=
  match x.kind, y.kind with
  | .nan, _ | _, .nan => nan
  | .infinite s, .infinite t => if s = t then x else nan
  | .infinite _, _ => x
  | _, .infinite _ => y
  | .finite s m p, .finite t n q =>
    let low := min p q
    let left : Int := (if s then -(m : Int) else m) * twoTo (p - low).toNat
    let right : Int := (if t then -(n : Int) else n) * twoTo (q - low).toNat
    ofScaled (left + right) low (s && t)

/-- The correctly rounded product. -/
def mul (x y : Binary64) : Binary64 :=
  match x.kind, y.kind with
  | .nan, _ | _, .nan => nan
  | .infinite s, .infinite t => infinity (s != t)
  | .infinite s, .finite t n _ | .finite t n _, .infinite s =>
    if n = 0 then nan else infinity (s != t)
  | .finite s m p, .finite t n q =>
    let sign : Int := if s != t then -1 else 1
    ofScaled (sign * (m * n)) (p + q) (s != t)

example : ofDecimal false 1 (-1) = ⟨0x3FB999999999999A⟩ := by decide +kernel
example : ofDecimal false 5 (-324) = ⟨1⟩ ∧ ofDecimal true 0 0 = ⟨0x8000000000000000⟩ := by
  decide +kernel
example : (ofInt 3).toInt? = some 3 ∧ (ofDecimal false 15 (-1)).toInt? = none := by
  decide +kernel

end Binary64

end FlowTemplate
