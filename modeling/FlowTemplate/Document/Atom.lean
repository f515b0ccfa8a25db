import FlowTemplate.Number.Binary64
import FlowTemplate.Document.Timestamp
/-!
# Atoms

The values without parts, which are also the keys of mappings. Two atoms are the same key when
they are equal as values, where truth values count as the numbers 0 and 1 and a number is equal
to another whatever its representation: `1`, `1.0` and `true` are one key.
-/

namespace FlowTemplate

inductive Atom where
  | null
  | bool (b : Bool)
  | int (i : Int)
  | float (x : Binary64)
  | str (s : String)
  | bytes (data : List UInt8)
  | time (t : Timestamp)
  deriving DecidableEq, Inhabited

/-- A number apart from its representation. Finite ones are `m · 2^q`. -/
inductive Quantity where
  | nan
  | infinite (negative : Bool)
  | finite (m q : Int)

namespace Quantity

def ofInt (i : Int) : Quantity := .finite i 0

def ofBinary64 (x : Binary64) : Quantity :=
  match x.kind with
  | .nan => .nan
  | .infinite negative => .infinite negative
  | .finite negative m q => .finite (if negative then -(m : Int) else m) q

/-- The significands over the smaller of two exponents. -/
def align (m p n q : Int) : Int × Int :=
  let low := min p q
  (m * twoTo (p - low).toNat, n * twoTo (q - low).toNat)

/-- Whether one number is less than another; nothing is less than or greater than `nan`. -/
def lt : Quantity → Quantity → Bool
  | .nan, _ | _, .nan => false
  | .infinite s, .infinite t => s && !t
  | .infinite s, .finite _ _ => s
  | .finite _ _, .infinite t => !t
  | .finite m p, .finite n q => let (a, b) := align m p n q; a < b

/-- Numeric equality; `nan` is equal to nothing. -/
def eq : Quantity → Quantity → Bool
  | .infinite s, .infinite t => s == t
  | .finite m p, .finite n q => let (a, b) := align m p n q; a == b
  | _, _ => false

end Quantity

namespace Atom

/-- The number an atom stands for, truth values not included. -/
def number? : Atom → Option Quantity
  | .int i => some (.ofInt i)
  | .float x => some (.ofBinary64 x)
  | _ => none

/-- The number an atom counts as, truth values included. -/
def quantity? : Atom → Option Quantity
  | .bool b => some (.ofInt (if b then 1 else 0))
  | a => a.number?

/-- Whether two atoms are the same key of a mapping. What is no number is the same as nothing. -/
def sameKey (a b : Atom) : Bool :=
  match a.quantity?, b.quantity? with
  | some x, some y => x.eq y
  | none, none => match a, b with
    | .time t, .time u => t.sameTime u
    | a, b => a == b
  | _, _ => false

/-- A text key is the same key as an equal text only. -/
theorem sameKey_str (s : String) (b : Atom) : sameKey (.str s) b = (b == .str s) := by
  cases b <;> simp [sameKey, quantity?, number?, Bool.beq_eq_decide_eq, eq_comm]

/-- Whether an atom is null, false, zero or an empty text. -/
def isEmpty : Atom → Bool
  | .null => true
  | .bool b => !b
  | .int i => i == 0
  | .float x => match x.kind with
    | .finite _ m _ => m == 0
    | _ => false
  | .str s => s.isEmpty
  | .bytes data => data.isEmpty
  | .time _ => false

end Atom

end FlowTemplate
