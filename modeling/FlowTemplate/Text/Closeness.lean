import FlowTemplate.Text.Surrogate
/-!
# Close spellings

Two texts are close when their common runs make up most of both. The longest common run is found
first, then those to its left and to its right.
-/

namespace FlowTemplate.Text

/-- The length of the run that two texts start with alike. -/
def commonStart : List Nat → List Nat → Nat
  | a :: as, b :: bs => if a == b then commonStart as bs + 1 else 0
  | _, _ => 0

/-- The longest common run of two texts: where it starts in either, and its length. Of several the
one that starts first counts. -/
def longestRun (a b : List Nat) : Nat × Nat × Nat :=
  (List.range a.length).foldl (fun best i =>
    (List.range b.length).foldl (fun best j =>
      let size := commonStart (a.drop i) (b.drop j)
      if size > best.2.2 then (i, j, size) else best) best) (0, 0, 0)

/-- How many characters lie in common runs. -/
def commonCount : (fuel : Nat) → List Nat → List Nat → Nat
  | 0, _, _ => 0
  | fuel + 1, a, b =>
    let (i, j, size) := longestRun a b
    if size == 0 then 0
    else commonCount fuel (a.take i) (b.take j) + size
      + commonCount fuel (a.drop (i + size)) (b.drop (j + size))

/-- Whether common runs make up at least three fifths of two texts. -/
def isClose (a b : String) : Bool :=
  let a := codes a.toList
  let b := codes b.toList
  10 * commonCount a.length a b ≥ 3 * (a.length + b.length)

end FlowTemplate.Text
