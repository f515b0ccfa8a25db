import FlowTemplate.Text.Surrogate
/-!
# Bytes that are not all UTF-8

A file is decoded in blocks, and its text is taken in pieces. When a block cannot be decoded, only
the pieces before it have been taken, and at least two pieces are taken at the start.
-/

namespace FlowTemplate.Text

/-- What the bytes behind the first one of a character may be, if a character can start with it. -/
def followers? (first : Nat) : Option (List (Nat × Nat)) :=
  let any := (0x80, 0xBF)
  if first < 0x80 then some []
  else if first < 0xC2 then none
  else if first < 0xE0 then some [any]
  else if first == 0xE0 then some [(0xA0, 0xBF), any]
  else if first == 0xED then some [(0x80, 0x9F), any]
  else if first < 0xF0 then some [any, any]
  else if first == 0xF0 then some [(0x90, 0xBF), any, any]
  else if first < 0xF4 then some [any, any, any]
  else if first == 0xF4 then some [(0x80, 0x8F), any, any]
  else none

/-- How many bytes come before the first that no text can have there, given what may come next within
a character. -/
def soundBytes : (expected : List (Nat × Nat)) → List UInt8 → Nat
  | _, [] => 0
  | [], b :: rest => match followers? b.toNat with
    | some expected => soundBytes expected rest + 1
    | none => 0
  | (low, high) :: expected, b :: rest =>
    if low ≤ b.toNat && b.toNat ≤ high then soundBytes expected rest + 1 else 0

/-- The bytes of a block. -/
def blockSize : Nat := 8192

/-- The code points of a piece. -/
def pieceSize : Nat := 4096

/-- The text that bytes write, without a character at the end that is not complete. -/
def ofSoundBytes (data : List UInt8) : String :=
  ((List.range 4).findSome? fun n => ofBytes? (data.take (data.length - n))).getD ""

/-- The text that is taken from bytes before a block that cannot be decoded, if any is. -/
def takenBefore? (unify : List Char → List Char) (data : List UInt8) : Option String :=
  let sound := soundBytes [] data
  let decoded := if sound == data.length then data else data.take (sound / blockSize * blockSize)
  let text := String.ofList (unify (ofSoundBytes decoded).toList)
  let pieces := size text / pieceSize
  if pieces < 2 then none else some (cut (pieces * pieceSize) text)

example : soundBytes [] [0x61, 0xC3, 0xA9, 0xE2, 0x82, 0x28] = 5 := by decide

end FlowTemplate.Text
