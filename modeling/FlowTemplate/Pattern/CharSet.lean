import FlowTemplate.Text.Blank
import FlowTemplate.Text.Digit
import FlowTemplate.Text.LowerCase
import FlowTemplate.Text.WordCharacter
/-!
# Character sets

What a pattern allows at one place: ranges of code points and categories, or everything but these.
Case counts, or it does not for ASCII letters or for letters of all scripts.
-/

namespace FlowTemplate.Pattern

/-- Kinds of characters that have a letter of their own in patterns. -/
inductive Category where
  | digit | blank | word
  deriving DecidableEq

/-- Whether a code point is of a category, in ASCII or in all scripts. -/
def Category.holds (ascii : Bool) (n : Nat) : Category → Bool
  | .digit => if ascii then 0x30 ≤ n && n ≤ 0x39 else (Text.digitValue? n).isSome
  | .blank => if ascii then n == 0x20 || (0x09 ≤ n && n ≤ 0x0D) else Text.isBlank (Char.ofNat n)
  | .word => if ascii then Text.isAsciiWordCode n else Text.isWordCode n

/-- Letters for which case does not count. -/
inductive Folding where
  | none | ascii | full
  deriving DecidableEq

namespace Folding

/-- The code points that count as the same. -/
def variants : Folding → Nat → List Nat
  | .none, n => [n]
  | .ascii, n => Text.asciiCaseVariants n
  | .full, n => Text.caseVariants n

/-- The code point that stands for its variants where single ones are compared. -/
def standard : Folding → Nat → Nat
  | .none, n => n
  | .ascii, n => Text.lowerAsciiCode n
  | .full, n => Text.lowerCode n

end Folding

/-- Part of a set. -/
inductive Member where
  | range (first last : Nat)
  | category (c : Category) (ascii negated : Bool)
  deriving DecidableEq

def Member.holds (folding : Folding) (n : Nat) : Member → Bool
  | .range first last => (folding.variants n).any fun n => first ≤ n && n ≤ last
  | .category c ascii negated => negated != c.holds ascii (folding.standard n)

/-- A set of code points, by its members or by what is left out of it. -/
structure CharSet where
  negated : Bool
  members : List Member
  folding : Folding := .none
  deriving DecidableEq

namespace CharSet

def contains (s : CharSet) (n : Nat) : Bool :=
  s.negated != s.members.any fun member => member.holds s.folding n

/-- Just one character. -/
def single (c : Char) : CharSet := { negated := false, members := [.range c.toNat c.toNat] }

/-- The code points of some ranges. -/
def ofRanges (ranges : List (Char × Char)) : CharSet :=
  { negated := false, members := ranges.map fun (first, last) => .range first.toNat last.toNat }

/-- Every code point but one. -/
def allBut (c : Char) : CharSet := { negated := true, members := [.range c.toNat c.toNat] }

end CharSet

end FlowTemplate.Pattern
