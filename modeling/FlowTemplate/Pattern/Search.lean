import FlowTemplate.Pattern.Basic
/-!
# Searching a text

A pattern is looked for at every place of a text, from the left. At one place its ways to match are
tried in order of preference, each with all that follows.
-/

namespace FlowTemplate.Pattern

/-- How far a match has come, and what groups hold: start and end, the latest first. -/
structure Progress where
  place : Nat
  groups : List (Nat × Nat × Nat) := []

/-- The rest of a match: where it ends if it fits. -/
abbrev Rest := Progress → Option Progress

/-- Whether there is a character of words at a place. -/
def isWordAt (text : Array Nat) (ascii : Bool) (place : Nat) : Bool :=
  text[place]?.any (Category.word.holds ascii)

def Anchor.holds (text : Array Nat) (place : Nat) : Anchor → Bool
  | .start anyLine => place == 0 || (anyLine && text[place - 1]? == some 0x0A)
  | .stop anyLine => place == text.size
    || (text[place]? == some 0x0A && (anyLine || place + 1 == text.size))
  | .finish => place == text.size
  | .boundary ascii negated =>
    let before := place != 0 && isWordAt text ascii (place - 1)
    !text.isEmpty && negated == (before == isWordAt text ascii place)

/-- Repeats a step. `most` counts the repetitions that are still allowed, and `last` is where the
last one began; one that would begin there again is none. Every repetition beyond the least number
makes progress, so `fuel` need only be greater than their number. -/
def repeated (step : Rest → Rest) (lazy : Bool) (next : Rest) :
    (fuel least : Nat) → (most last : Option Nat) → Rest
  | 0, _, _, _, _ => none
  | fuel + 1, least + 1, most, last, s =>
    step (repeated step lazy next fuel least (most.map (· - 1)) last) s
  | fuel + 1, 0, most, last, s =>
    let ends := most == some 0 || last == some s.place
    let again (_ : Unit) : Option Progress :=
      step (repeated step lazy next fuel 0 (most.map (· - 1)) (some s.place)) s
    if ends then next s
    else if lazy then next s <|> again ()
    else again () <|> next s

/-- Repeats a step without a way back. -/
def repeatedFirmly (step : Rest → Rest) : (fuel least : Nat) → (most : Option Nat) → Rest
  | 0, _, _, _ => none
  | fuel + 1, least + 1, most, s => do
    repeatedFirmly step fuel least (most.map (· - 1)) (← step some s)
  | fuel + 1, 0, most, s =>
    if most == some 0 then some s
    else match step some s with
      | some t => if t.place == s.place then some t
        else repeatedFirmly step fuel 0 (most.map (· - 1)) t
      | none => some s

/-- Whether the characters from one place on are those from another place on. -/
def standsAgain (text : Array Nat) (folding : Folding) (start place length : Nat) : Bool :=
  place + length ≤ text.size && (List.range length).all fun i =>
    (text[start + i]?).map folding.standard == (text[place + i]?).map folding.standard

/-- The end of a match of a pattern at a place and of what follows it. -/
def accepts (text : Array Nat) : Pattern → Rest → Rest
  | .empty, next, s => next s
  | .one cls, next, s => match text[s.place]? with
    | some n => if cls.contains n then next { s with place := s.place + 1 } else none
    | none => none
  | .anchor a, next, s => if a.holds text s.place then next s else none
  | .seq p q, next, s => p.accepts text (q.accepts text next) s
  | .alt p q, next, s => p.accepts text next s <|> q.accepts text next s
  | .times preference least most p, next, s =>
    let fuel := least + text.size + 2
    match preference with
    | .greedy => repeated (p.accepts text) false next fuel least most none s
    | .lazy => repeated (p.accepts text) true next fuel least most none s
    | .possessive => (repeatedFirmly (p.accepts text) fuel least most s).bind next
  | .group number p, next, s =>
    p.accepts text (fun t => next { t with groups := (number, s.place, t.place) :: t.groups }) s
  | .atomic p, next, s => (p.accepts text some s).bind next
  | .reference number folding, next, s => match s.groups.lookup number with
    | some (start, stop) =>
      if standsAgain text folding start s.place (stop - start) then
        next { s with place := s.place + (stop - start) }
      else none
    | none => none
  | .ahead negated p, next, s => match p.accepts text some s with
    | some t => if negated then none else next { s with groups := t.groups }
    | none => if negated then next s else none
  | .behind width negated p, next, s =>
    let found := if s.place < width then none
      else p.accepts text some { s with place := s.place - width }
    match found with
    | some t => if negated then none else next { s with groups := t.groups }
    | none => if negated then next s else none
  | .choice number yes no, next, s =>
    if (s.groups.lookup number).isSome then yes.accepts text next s else no.accepts text next s

/-- Whether a pattern matches anywhere in a row of code points. -/
def search (p : Pattern) (codes : List Nat) : Bool :=
  let text := codes.toArray
  (List.range (text.size + 1)).any fun place => (p.accepts text some { place }).isSome

end FlowTemplate.Pattern
