import FlowTemplate.Number.Binary64
/-!
# Rounded decimals

Fractions written with so many decimals: with places behind the point, with an exponent, or in
whichever of the two ways suits their size. A half goes to the even digit.
-/

namespace FlowTemplate.Rounded

open Binary64 (roundDiv)

/-- Digits with the point behind the first ones. Without places there is only a point if asked
for. -/
def withPoint (point : Bool) (digits : List Char) (before : Nat) : List Char :=
  let places := digits.drop before
  digits.take before ++ (if places.isEmpty && !point then [] else '.' :: places)

/-- The digits of a whole number, with zeros in front up to a count. -/
def digitsOf (count n : Nat) : List Char :=
  let digits := Nat.toDigits 10 n
  List.replicate (count - digits.length) '0' ++ digits

/-- A fraction with so many places behind the point. -/
def fixed (num den places : Nat) (point : Bool) : List Char :=
  let digits := digitsOf (places + 1) (roundDiv (num * tenTo places) den)
  withPoint point digits (digits.length - places)

/-- The first digits of a fraction, so many of them, and the exponent of the first one. Rounding up
to a power of ten makes one digit too many, a zero. -/
def leading (num den count : Nat) : List Char × Int :=
  if num = 0 then (List.replicate count '0', 0)
  else
    let guess : Int := (Nat.toDigits 10 num).length - (Nat.toDigits 10 den).length
    let reached := den * tenTo guess.toNat ≤ num * tenTo (-guess).toNat
    let exponent := if reached then guess else guess - 1
    let shift := (count : Int) - 1 - exponent
    let digits := Nat.toDigits 10
      (roundDiv (num * tenTo shift.toNat) (den * tenTo (-shift).toNat))
    if digits.length > count then (digits.take count, exponent + 1) else (digits, exponent)

/-- An exponent with its sign and at least two digits. -/
def exponentText (exponent : Int) : List Char :=
  'e' :: (if exponent < 0 then '-' else '+') :: digitsOf 2 exponent.natAbs

/-- A fraction with one digit before the point, so many places behind it and an exponent. -/
def scientific (num den places : Nat) (point : Bool) : List Char :=
  let (digits, exponent) := leading num den (places + 1)
  withPoint point digits 1 ++ exponentText exponent

def withoutLastZeros (s : List Char) : List Char := (s.reverse.dropWhile (· == '0')).reverse

/-- A fraction with so many digits, without zeros at the end unless asked for. There is an exponent
if it would be below `-4`, or not below the number of digits. -/
def general (num den digits : Nat) (zeros : Bool) : List Char :=
  let count := max digits 1
  let (digits, exponent) := leading num den count
  let cut (digits : List Char) (before : Nat) : List Char :=
    if zeros then digits
    else digits.take before ++ withoutLastZeros (digits.drop before)
  if exponent < -4 || exponent ≥ count then
    withPoint zeros (cut digits 1) 1 ++ exponentText exponent
  else if exponent < 0 then
    withPoint zeros (cut (List.replicate exponent.natAbs '0' ++ digits) 1) 1
  else withPoint zeros (cut digits (exponent.toNat + 1)) (exponent.toNat + 1)

end FlowTemplate.Rounded
