import FlowTemplate.Document.Value
/-!
# Containers in several places

What the numbers of containers mean. In a value that was read, a number in front of a container means
that it may stand elsewhere too, and a number alone stands for a container around it. `settled` keeps
the numbers of containers that hold themselves only, and `unrolled` writes these out further, so that
what is near the root can be looked at as in a tree.
-/

namespace FlowTemplate.Value

/-- A container with a number; values without parts have none. -/
def numbered (number : Nat) : Value → Value
  | .atom a => .atom a
  | v => .anchored number v

mutual

/-- Whether a container of some numbers is mentioned in a value. -/
def mentions (numbers : List Nat) : Value → Bool
  | .again n => numbers.contains n
  | .anchored _ v => mentions numbers v
  | .list items | .tuple items => itemsMention numbers items
  | .map entries => entriesMention numbers entries
  | _ => false

def itemsMention (numbers : List Nat) : List Value → Bool
  | [] => false
  | v :: rest => mentions numbers v || itemsMention numbers rest

def entriesMention (numbers : List Nat) : List (Atom × Value) → Bool
  | [] => false
  | (_, v) :: rest => mentions numbers v || entriesMention numbers rest

end

mutual

/-- A value in which only containers that hold themselves have numbers, be it by way of one around
them. -/
def settled (around : List Nat) : Value → Value
  | .anchored n v =>
    if mentions (n :: around) v then .anchored n (settled (n :: around) v) else settled around v
  | .list items => .list (settledItems around items)
  | .tuple items => .tuple (settledItems around items)
  | .map entries => .map (settledEntries around entries)
  | v => v

def settledItems (around : List Nat) : List Value → List Value
  | [] => []
  | v :: rest => settled around v :: settledItems around rest

def settledEntries (around : List Nat) : List (Atom × Value) → List (Atom × Value)
  | [] => []
  | (k, v) :: rest => (k, settled around v) :: settledEntries around rest

end

mutual

/-- A value with a container in the places that its number stands for it. -/
def refill (number : Nat) (whole : Value) : Value → Value
  | .again n => if n = number then whole else .again n
  | .anchored n v => .anchored n (if n = number then v else refill number whole v)
  | .list items => .list (refillItems number whole items)
  | .tuple items => .tuple (refillItems number whole items)
  | .map entries => .map (refillEntries number whole entries)
  | v => v

def refillItems (number : Nat) (whole : Value) : List Value → List Value
  | [] => []
  | v :: rest => refill number whole v :: refillItems number whole rest

def refillEntries (number : Nat) (whole : Value) : List (Atom × Value) → List (Atom × Value)
  | [] => []
  | (k, v) :: rest => (k, refill number whole v) :: refillEntries number whole rest

end

mutual

/-- A value in which every number that stands for a container gives way to the container, once. -/
def turned : Value → Value
  | .anchored n v => .anchored n (refill n (.anchored n (turned v)) (turned v))
  | .list items => .list (turnedItems items)
  | .tuple items => .tuple (turnedItems items)
  | .map entries => .map (turnedEntries entries)
  | v => v

def turnedItems : List Value → List Value
  | [] => []
  | v :: rest => turned v :: turnedItems rest

def turnedEntries : List (Atom × Value) → List (Atom × Value)
  | [] => []
  | (k, v) :: rest => (k, turned v) :: turnedEntries rest

end

/-- A value in which containers that hold themselves are written out three levels deep. -/
def unrolled (v : Value) : Value := (v.settled []).turned.turned

mutual

/-- Whether a value holds a container that has a number. -/
def hasNumbers : Value → Bool
  | .anchored .. | .again _ => true
  | .list items | .tuple items => itemsHaveNumbers items
  | .map entries => entriesHaveNumbers entries
  | _ => false

def itemsHaveNumbers : List Value → Bool
  | [] => false
  | v :: rest => hasNumbers v || itemsHaveNumbers rest

def entriesHaveNumbers : List (Atom × Value) → Bool
  | [] => false
  | (_, v) :: rest => hasNumbers v || entriesHaveNumbers rest

end

end FlowTemplate.Value
