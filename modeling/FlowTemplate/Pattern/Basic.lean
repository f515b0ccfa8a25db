import FlowTemplate.Pattern.CharSet
/-!
# Text patterns

Regular expressions: sets of characters, anchors, groups and references to them, alternatives,
repetition, and assertions about what is before or behind a place.
-/

namespace FlowTemplate

namespace Pattern

/-- A place that takes no characters. -/
inductive Anchor where
  /-- The start of the text, or that of any line of it. -/
  | start (anyLine : Bool)
  /-- The end of the text or a line feed that ends it, or the end of any line. -/
  | stop (anyLine : Bool)
  /-- The end of the text. -/
  | finish
  /-- Between a character of words and another one; or anywhere else. -/
  | boundary (ascii negated : Bool)
  deriving DecidableEq

/-- How often something is tried to be repeated. -/
inductive Preference where
  /-- As often as possible, but less often if nothing else fits. -/
  | greedy
  /-- As rarely as possible. -/
  | lazy
  /-- As often as possible. -/
  | possessive
  deriving DecidableEq

end Pattern

inductive Pattern where
  | empty
  | one (s : Pattern.CharSet)
  | anchor (a : Pattern.Anchor)
  | seq (p q : Pattern)
  | alt (p q : Pattern)
  /-- From `least` to `most` times; without a bound, as often as it goes. -/
  | times (preference : Pattern.Preference) (least : Nat) (most : Option Nat) (p : Pattern)
  /-- What matches is kept under a number. -/
  | group (number : Nat) (p : Pattern)
  /-- Only the preferred match counts. -/
  | atomic (p : Pattern)
  /-- What a group holds, once more. -/
  | reference (number : Nat) (folding : Pattern.Folding)
  /-- What follows matches, or does not. -/
  | ahead (negated : Bool) (p : Pattern)
  /-- What so many characters before match, or do not. -/
  | behind (width : Nat) (negated : Bool) (p : Pattern)
  /-- One of two patterns by whether a group holds anything. -/
  | choice (number : Nat) (yes no : Pattern)
  deriving DecidableEq

namespace Pattern

def literal (c : Char) : Pattern := .one (.single c)

/-- Characters one after the other. -/
def text (s : String) : Pattern := s.toList.foldr (fun c p => .seq (literal c) p) .empty

def plus (p : Pattern) : Pattern := .times .greedy 1 none p

/-- How many characters a pattern takes. -/
structure Width where
  least : Nat
  /-- Nothing if there is no bound. -/
  most : Option Nat
  deriving DecidableEq

namespace Width

def exactly (n : Nat) : Width := ⟨n, some n⟩

def and (a b : Width) : Width :=
  ⟨a.least + b.least, do return (← a.most) + (← b.most)⟩

def or (a b : Width) : Width :=
  ⟨min a.least b.least, do return max (← a.most) (← b.most)⟩

def times (least : Nat) (most : Option Nat) (w : Width) : Width :=
  ⟨w.least * least, if w.most == some 0 then some 0 else do return (← w.most) * (← most)⟩

end Width

/-- The width of a pattern, given those of the groups it refers to. -/
def width (groups : Nat → Width) : Pattern → Width
  | .empty | .anchor _ | .ahead .. | .behind .. => .exactly 0
  | .one _ => .exactly 1
  | .seq p q => (p.width groups).and (q.width groups)
  | .alt p q | .choice _ p q => (p.width groups).or (q.width groups)
  | .times _ least most p => (p.width groups).times least most
  | .group _ p | .atomic p => p.width groups
  | .reference number _ => groups number

end Pattern

end FlowTemplate
