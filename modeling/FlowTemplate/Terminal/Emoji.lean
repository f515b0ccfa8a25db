import FlowTemplate.Terminal.EmojiName
import FlowTemplate.Text.Blank
import FlowTemplate.Text.LowerCase
/-!
# Emoji codes

A name between colons calls for an emoji, in any case; behind the name can stand in which style it
is to be drawn. Colons around anything else stay.
-/

namespace FlowTemplate.Emoji

/-- How an emoji is drawn, and the mark for it. -/
def styles : List (List Char × Char) :=
  [("-emoji".toList, '\ufe0f'), ("-text".toList, '\ufe0e')]

/-- What stands before an ending, if a text has that ending. -/
def withoutEnding? (ending s : List Char) : Option (List Char) :=
  if ending.isSuffixOf s then some (s.take (s.length - ending.length)) else none

/-- A code without its colons as a name and the mark of a style. -/
def splitStyle (code : List Char) : List Char × List Char :=
  let found := styles.findSome? fun (ending, mark) =>
    (withoutEnding? ending code).map fun name => (name, [mark])
  found.getD (code, [])

/-- What a code between colons shows, if it has a name that there is. -/
def shown? (code : List Char) : Option (List Char) :=
  let (name, mark) := splitStyle code
  (named.lookup (String.ofList (Text.lower name))).map fun emoji => emoji.toList ++ mark

/-- The code at the start of a text, behind its first colon, and what is behind its last colon. -/
def readCode (s : List Char) : Option (List Char × List Char) :=
  match s.span fun c => c != ':' && !Text.isBlank c with
  | (code, ':' :: rest) => some (code, rest)
  | _ => none

/-- A text with emoji in place of codes. Colons that have been used up start no other code. Every step
takes at least one character. -/
def expandCodes : (fuel : Nat) → List Char → List Char
  | 0, s => s
  | fuel + 1, s =>
    match s with
    | [] => []
    | ':' :: rest => match readCode rest with
      | some (code, rest) =>
        (shown? code).getD (':' :: code ++ [':']) ++ expandCodes fuel rest
      | none => ':' :: expandCodes fuel rest
    | c :: rest => c :: expandCodes fuel rest

/-- A text with emoji in place of codes. -/
def expand (s : List Char) : List Char := expandCodes s.length s

end FlowTemplate.Emoji
