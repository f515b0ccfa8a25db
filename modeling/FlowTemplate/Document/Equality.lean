import FlowTemplate.Document.Value
/-!
# Equality by meaning

Two values are equal by meaning when they hold the same things: numbers compare by value, mappings
without regard to order, lists and tuples alike. Truth values are equal to themselves only.
-/

namespace FlowTemplate

/-- Equality of atoms by meaning. -/
def Atom.sameMeaning : Atom → Atom → Bool
  | .bool a, .bool b => a == b
  | a, b => a == b || match a.number?, b.number? with
    | some x, some y => x.eq y
    | _, _ => false

namespace Value

mutual

/-- Equality of values by meaning. A value that holds itself is equal to none on its left. -/
def sameMeaning (v w : Value) : Bool :=
  match v, w.bare with
  | .atom a, .atom b => a.sameMeaning b
  | .list xs, .list ys | .list xs, .tuple ys | .tuple xs, .list ys | .tuple xs, .tuple ys =>
    sameItems xs ys
  | .set xs, .set ys =>
    xs.length == ys.length && xs.all fun x => ys.any fun y => x.sameKey y
  | .map xs, .map ys => xs.length == ys.length && withinEntries xs ys
  | _, _ => false

def sameItems : List Value → List Value → Bool
  | [], [] => true
  | x :: xs, y :: ys => sameMeaning x y && sameItems xs ys
  | _, _ => false

/-- Whether every entry has an equal one under the same key on the other side. -/
def withinEntries : List (Atom × Value) → Entries → Bool
  | [], _ => true
  | (k, x) :: rest, ys =>
    (match Entries.get? ys k with
      | some y => sameMeaning x y
      | none => false) && withinEntries rest ys

end

end Value

end FlowTemplate
