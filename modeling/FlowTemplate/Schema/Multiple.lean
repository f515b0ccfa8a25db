import FlowTemplate.Schema.Basic
/-!
# Multiples

Whether a number is a multiple of another one. Between integers this is exact. A divisor that is a
double divides in doubles, and the quotient has to be whole; a quotient beyond all doubles is looked
at exactly. A double that an integer divides is looked at exactly as well.
-/

namespace FlowTemplate.Schema

/-- The double of a number, if it is not too large for one. -/
def double : Atom → Except Fault Binary64
  | .int i => match (Binary64.ofInt i).kind with
    | .infinite _ => .error .tooLarge
    | _ => .ok (Binary64.ofInt i)
  | .float x => .ok x
  | _ => .error .unfit

/-- Whether `m · 2^p` is a multiple of `n · 2^q`. -/
def isExactMultiple (m p n q : Int) : Bool :=
  let (a, b) := Quantity.align m p n q
  b != 0 && a % b == 0

/-- The correctly rounded quotient of `m · 2^p` and `n · 2^q`. -/
def quotient (m p n q : Int) : Binary64 :=
  .ofRatio (decide (m < 0) != decide (n < 0)) (m.natAbs * twoTo (p - q).toNat)
    (n.natAbs * twoTo (q - p).toNat)

/-- Whether a double is a multiple of another one. -/
def isDoubleMultiple (x y : Binary64) : Except Fault Bool :=
  match x.kind, y.kind with
  | _, .finite _ 0 _ => .error .division
  | .nan, _ | _, .nan => .error .badText
  | .infinite _, .infinite _ => .error .badText
  | .infinite _, .finite .. => .error .tooLarge
  | .finite .., .infinite _ => .ok true
  | .finite .., .finite .. => match x.parts?, y.parts? with
    | some (m, p), some (n, q) =>
      let ratio := quotient m p n q
      match ratio.kind with
      | .finite .. => .ok ratio.isInteger
      | _ => .ok (isExactMultiple m p n q)
    | _, _ => .error .unfit

/-- Whether a number is a multiple of a divisor. -/
def isMultiple (a divisor : Atom) : Except Fault Bool :=
  match a, divisor with
  | .int i, .int j => if j = 0 then .error .division else .ok (i % j == 0)
  | .float x, .int j => do
    let y ← double (.int j)
    match x.parts?, y.parts? with
    | some (m, p), some (n, q) => if n = 0 then throw .division else return isExactMultiple m p n q
    | _, _ => return false
  | a, .float y => do isDoubleMultiple (← double a) y
  | _, _ => .error .unfit

example : (isMultiple (.float (.ofDecimal false 3 (-1))) (.float (.ofDecimal false 1 (-1)))).toOption =
    some false := by decide +kernel

end FlowTemplate.Schema
