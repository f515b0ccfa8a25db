import FlowTemplate.Placeholder.Random
import FlowTemplate.Placeholder.Sequential
/-!
# Sources of placeholder names

A pass draws all its names from one source, counted or random.
-/

namespace FlowTemplate

inductive TokenSource where
  | counted (counter : Counter)
  /-- Characters come from the stream; `attempts` bounds the blocks tried for one name. -/
  | drawn (stream : Nat → Char) (attempts : Nat) (drawing : Drawing)

/-- Why a source has no further name. -/
inductive TokenFailure where
  | exhausted (e : Exhausted)
  /-- Every block tried had been issued before. -/
  | onlyRepeats (attempts : Nat)

def TokenFailure.message : TokenFailure → String
  | .exhausted e => e.message
  | .onlyRepeats attempts => s!"No new placeholder name in {attempts} attempts"

/-- The next name of a source and the source after it, which a failure leaves as it was. -/
def TokenSource.next : TokenSource → Except TokenFailure String × TokenSource
  | .counted counter =>
    let (result, counter) := counter.next
    (result.mapError .exhausted, .counted counter)
  | .drawn stream attempts drawing =>
    match drawing.next? stream attempts with
    | some (name, drawing) => (.ok name, .drawn stream attempts drawing)
    | none => (.error (.onlyRepeats attempts), .drawn stream attempts drawing)

end FlowTemplate
