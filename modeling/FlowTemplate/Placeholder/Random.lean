/-!
# Drawn placeholder names

Names drawn character by character from an endless stream. A name that was issued before is
skipped, so the names of one pass are distinct whatever the stream yields.
-/

namespace FlowTemplate

/-- The names issued and the number of characters drawn so far. -/
structure Drawing where
  length : Nat
  issued : List String
  drawn : Nat

namespace Drawing

def create (length : Nat) : Drawing := { length, issued := [], drawn := 0 }

/-- The characters a name may have. -/
def pool : List Char :=
  "abcdefghijklmnopqrstuvwxyzABCDEFGHIJKLMNOPQRSTUVWXYZ0123456789".toList

/-- A stream of characters that look random; streams of different seeds differ. -/
def stream (seed : UInt64) (i : Nat) : Char :=
  let mix (shift factor z : UInt64) : UInt64 := (z ^^^ (z >>> shift)) * factor
  let z := seed + i.toUInt64 * 0x9E3779B97F4A7C15
  let z := mix 31 1 (mix 27 0x94D049BB133111EB (mix 30 0xBF58476D1CE4E5B9 z))
  pool.getD (z.toNat % pool.length) 'a'

/-- The `length` characters of a stream from a position on. -/
def block (stream : Nat → Char) (start length : Nat) : String :=
  String.ofList ((List.range length).map fun i => stream (start + i))

/-- The next name that was not issued yet, unless `attempts` blocks in a row were. -/
def next? (stream : Nat → Char) : (attempts : Nat) → Drawing → Option (String × Drawing)
  | 0, _ => none
  | attempts + 1, d =>
    let name := block stream d.drawn d.length
    let d := { d with drawn := d.drawn + d.length }
    if d.issued.contains name then next? stream attempts d
    else some (name, { d with issued := name :: d.issued })

end Drawing

end FlowTemplate
