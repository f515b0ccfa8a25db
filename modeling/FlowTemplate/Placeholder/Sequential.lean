import FlowTemplate.Number.Shortest
import FlowTemplate.Text.Surrogate
/-!
# Counted placeholder names

Names made of a fixed head and a counter in base 62, all of one length. The head is cut short when
the length asked for leaves no room for a counter.
-/

/-! ## Base 62

Numbers written with digits, lower-case and upper-case letters, most significant digit first.
Zero has no digits of its own; padding with `0` brings a number to a width.
-/

namespace FlowTemplate.Base62

/-- The digits in ascending order of value. -/
def alphabet : List Char :=
  "0123456789abcdefghijklmnopqrstuvwxyzABCDEFGHIJKLMNOPQRSTUVWXYZ".toList

/-- The digit of a value below 62. -/
def digit (n : Nat) : Char := alphabet.getD n '0'

/-- The value of a digit. -/
def digitValue? (c : Char) : Option Nat := alphabet.idxOf? c

/-- The digits of a number. -/
def digits (n : Nat) : List Char :=
  if n = 0 then [] else digits (n / 62) ++ [digit (n % 62)]
termination_by n
decreasing_by omega

/-- The digits of a number, with zeros in front up to a width. -/
def encode (n width : Nat) : List Char :=
  List.replicate (width - (digits n).length) '0' ++ digits n

/-- The number that a run of digits writes. -/
def decode? (s : List Char) : Option Nat :=
  s.foldlM (fun n c => (digitValue? c).map (n * 62 + ·)) 0

example : encode 62 3 = ['0', '1', '0'] := by decide +kernel

end FlowTemplate.Base62

namespace FlowTemplate

/-- A counter and the shape of its names. The counter starts at zero, which is no name. -/
structure Counter where
  head : String
  length : Int
  issued : Nat
  deriving DecidableEq

/-- Why a counter has no further name. -/
structure Exhausted where
  capacity : String
  length : Int
  deriving DecidableEq

def Exhausted.message (e : Exhausted) : String :=
  s!"Placeholder space exhausted after {e.capacity} names; "
    ++ s!"raise PLACEHOLDER_LENGTH above {e.length}"

namespace Counter

def defaultHead : String := "smParam"

/-- A head for names of a length: itself if at least one place is left for the counter, else as
much of it as leaves three places, but at least one character. -/
def fittingHead (length : Int) (head : String) : String :=
  if length ≤ Text.size head then Text.cut (max (length - 3) 1).toNat head else head

/-- A counter that has issued no name. -/
def create (length : Int) (head : String) : Counter :=
  { head := fittingHead length head, length, issued := 0 }

/-- The places of the counter; below zero the length is smaller than the head. -/
def width (c : Counter) : Int := c.length - Text.size c.head

/-- How many names there are: every code of the width except that of zero. -/
def capacity (c : Counter) : Nat :=
  if c.width < 0 then 0 else Nat.pow 62 c.width.toNat - 1

/-- How the number of names is written. A width below zero gives a fraction of a name too few. -/
def capacityText (c : Counter) : String :=
  if c.width < 0 then
    let part := Binary64.ofRatio false 1 (Nat.pow 62 (-c.width).toNat)
    (part.add (Binary64.ofInt (-1))).text
      { nan := "nan", infinity := "inf", positionalFrom := -4, positionalTo := 15 }
  else toString c.capacity

/-- The name of a number. -/
def name (c : Counter) (n : Nat) : String :=
  c.head ++ String.ofList (Base62.encode n c.width.toNat)

/-- The next name, or that there is none; a counter without names stays as it is. -/
def next (c : Counter) : Except Exhausted String × Counter :=
  if c.issued ≥ c.capacity then (.error ⟨c.capacityText, c.length⟩, c)
  else (.ok (c.name (c.issued + 1)), { c with issued := c.issued + 1 })

end Counter

end FlowTemplate
