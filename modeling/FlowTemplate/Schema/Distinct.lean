import FlowTemplate.Document.Equality
import FlowTemplate.Text.Surrogate
/-!
# Distinct items

Whether the items of a list differ from one another. Items that can be put in order are, and then
each is compared with the next one. In the order a truth value inside an item counts as a number, but
on its own it has no place.
-/

namespace FlowTemplate.Value

mutual

/-- A value in which truth values are the numbers 0 and 1. -/
def numeric : Value → Value
  | .atom (.bool b) => .int (if b then 1 else 0)
  | .list items => .list (numericItems items)
  | .map entries => .map (numericEntries entries)
  | v => v

def numericItems : List Value → List Value
  | [] => []
  | v :: rest => numeric v :: numericItems rest

def numericEntries : List (Atom × Value) → List (Atom × Value)
  | [] => []
  | (k, v) :: rest => (k, numeric v) :: numericEntries rest

end

mutual

/-- Whether one value comes before another, if the two can be put in order: numbers, texts, and lists
whose first different items can. -/
def before? : Value → Value → Option Bool
  | .atom (.str s), .atom (.str t) => some (s != t && Text.le s t)
  | .atom a, .atom b => match a.number?, b.number? with
    | some x, some y => some (x.lt y)
    | _, _ => none
  | .list xs, .list ys => beforeItems? xs ys
  | _, _ => none

def beforeItems? : List Value → List Value → Option Bool
  | [], ys => some (!ys.isEmpty)
  | _ :: _, [] => some false
  | x :: xs, y :: ys => if x.sameMeaning y then beforeItems? xs ys else before? x y

end

/-- Whether each of some values can be put in order with all others. -/
def areOrderable : List Value → Bool
  | [] => true
  | v :: rest => rest.all (fun w => (before? v w).isSome) && areOrderable rest

/-- Whether no value is equal to the next one. -/
def neighboursDiffer : List Value → Bool
  | v :: w :: rest => !v.sameMeaning w && neighboursDiffer (w :: rest)
  | _ => true

/-- Whether no value is equal to any other one. -/
def allDiffer : List Value → Bool
  | [] => true
  | v :: rest => rest.all (fun w => !v.sameMeaning w) && allDiffer rest

def isTruth : Value → Bool
  | .atom (.bool _) => true
  | _ => false

/-- Whether the items of a list differ. -/
def areDistinct (items : List Value) : Bool :=
  if !items.any isTruth && areOrderable (items.map numeric) then
    let sorted := items.mergeSort fun v w => before? w.numeric v.numeric != some true
    neighboursDiffer sorted
  else allDiffer items

end FlowTemplate.Value
