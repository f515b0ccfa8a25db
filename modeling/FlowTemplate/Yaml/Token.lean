import FlowTemplate.Yaml.Cursor
/-!
# Tokens

The marks of a YAML text. Blocks that only indentation shows have tokens where they start and end.
-/

namespace FlowTemplate.Yaml

/-- A tag as it is written: with a handle, or in full. -/
structure WrittenTag where
  handle : Option String
  suffix : String
  deriving DecidableEq

inductive Directive where
  | version (major : Nat)
  | handle (name meaning : String)
  | unknown
  deriving DecidableEq

inductive Token where
  | directive (d : Directive)
  | documentStart
  | documentEnd
  | blockSequenceStart
  | blockMappingStart
  | blockEnd
  | flowSequenceStart
  | flowSequenceEnd
  | flowMappingStart
  | flowMappingEnd
  | blockEntry
  | flowEntry
  | key
  | value
  | alias (name : String)
  | anchor (name : String)
  | tag (t : WrittenTag)
  | scalar (text : String) (plain : Bool)
  | streamEnd
  deriving DecidableEq

namespace Token

/-- The name behind an ampersand or an asterisk. -/
def readName (c : Cursor) : Except Fault (String × Cursor) :=
  let (name, c) := c.advance.span isNameChar
  if name.isEmpty then .error .malformed
  else if endsWord c.peek || c.peek.any "?:,]\x7d%@\x60".toList.contains then
    .ok (String.ofList name, c)
  else .error .malformed

/-- The bytes of a run of percent escapes. -/
def escapedBytes : (fuel : Nat) → Cursor → Except Fault (List UInt8 × Cursor)
  | 0, c => .ok ([], c)
  | fuel + 1, c =>
    if c.peek != some '%' then .ok ([], c)
    else
      let digits := c.advance.rest.take 2
      match hexNumber? digits with
      | none => .error .malformed
      | some n => do
        if digits.length < 2 then throw .malformed
        let (bytes, c) ← escapedBytes fuel (c.advanceBy 3)
        return (n.toUInt8 :: bytes, c)

/-- A run of the characters of a tag, its percent escapes replaced. -/
def tagText : (fuel : Nat) → Cursor → Except Fault (List Char × Cursor)
  | 0, c => .ok ([], c)
  | fuel + 1, c =>
    match c.peek with
    | some '%' => do
      let (bytes, c) ← escapedBytes c.rest.length c
      match Text.ofBytes? bytes with
      | none => throw .malformed
      | some s =>
        let (rest, c) ← tagText fuel c
        return (s.toList ++ rest, c)
    | some ch =>
      if isTagChar ch then do
        let (rest, c) ← tagText fuel c.advance
        return (ch :: rest, c)
      else .ok ([], c)
    | none => .ok ([], c)

/-- The characters of a tag, at least one. -/
def readTagText (c : Cursor) : Except Fault (String × Cursor) := do
  if !c.peek.any isTagChar then throw .malformed
  let (text, c) ← tagText c.rest.length c
  return (String.ofList text, c)

/-- A tag handle: an exclamation mark, alone before a space, or a name between two. -/
def readHandle (c : Cursor) : Except Fault (String × Cursor) := do
  if c.peek != some '!' then throw .malformed
  let (name, d) := c.advance.span isNameChar
  if c.ahead 1 == some ' ' then return ("!", c.advance)
  else if d.peek == some '!' then return ("!" ++ String.ofList name ++ "!", d.advance)
  else throw .malformed

/-- A tag, from its exclamation mark on. -/
def readTag (c : Cursor) : Except Fault (WrittenTag × Cursor) := do
  let next := c.ahead 1
  let (written, c) ←
    if next == some '<' then do
      let (suffix, c) ← readTagText (c.advanceBy 2)
      if c.peek != some '>' then throw .malformed
      pure (WrittenTag.mk none suffix, c.advance)
    else if endsWord next then pure (WrittenTag.mk none "!", c.advance)
    else do
      let word := c.advance.rest.takeWhile fun ch => !endsPart (some ch)
      let (handle, c) ← if word.contains '!' then readHandle c else pure ("!", c.advance)
      let (suffix, c) ← readTagText c
      pure (WrittenTag.mk (some handle) suffix, c)
  if endsPart c.peek then return (written, c) else throw .malformed

/-- A run of decimal digits. -/
def readNumber (c : Cursor) : Except Fault (Nat × Cursor) :=
  let (digits, c) := c.span Char.isDigit
  if digits.isEmpty then .error .malformed
  else .ok (digits.foldl (fun n d => 10 * n + (d.toNat - 48)) 0, c)

/-- A version, of which only the first number counts. -/
def readVersion (c : Cursor) : Except Fault (Directive × Cursor) := do
  let (major, c) ← readNumber c.skipSpaces
  if c.peek != some '.' then throw .malformed
  let (_, c) ← readNumber c.advance
  if endsPart c.peek then return (.version major, c) else throw .malformed

/-- A tag handle and what it stands for. -/
def readHandleMeaning (c : Cursor) : Except Fault (Directive × Cursor) := do
  let (name, c) ← readHandle c.skipSpaces
  if c.peek != some ' ' then throw .malformed
  let (meaning, c) ← readTagText c.skipSpaces
  if endsPart c.peek then return (.handle name meaning, c) else throw .malformed

/-- A directive, from its percent sign on. -/
def readDirective (c : Cursor) : Except Fault (Directive × Cursor) := do
  let (name, c) := c.advance.span isNameChar
  if name.isEmpty || !endsPart c.peek then throw .malformed
  let (found, c) ← match String.ofList name with
    | "YAML" => readVersion c
    | "TAG" => readHandleMeaning c
    | _ => pure (.unknown, c.skip (!isBreak ·))
  return (found, ← c.restOfLine)

end Token

end FlowTemplate.Yaml
