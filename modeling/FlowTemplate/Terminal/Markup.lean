import FlowTemplate.Terminal.Emoji
import FlowTemplate.Terminal.Handler
import FlowTemplate.Terminal.Style
/-!
# Markup

Text for a terminal can hold style tags in brackets. A tag starts with a lower-case letter, a slash,
a number sign or an at sign; a slash closes the style of that name, or the last one. What a tag with an
at sign gives to a handler is read when it is closed. Tags do not show. A backslash before a tag
makes it plain text. Outside of tags, codes show as emoji.
-/

namespace FlowTemplate.Markup

/-- Part of a marked up text. -/
inductive Piece where
  | text (s : List Char)
  | tag (s : List Char)
  deriving DecidableEq

/-- The text of a tag and what is behind it, read from behind its opening bracket. -/
def readTag (s : List Char) : Option (List Char × List Char) :=
  if s.head?.any fun c => ('a' ≤ c && c ≤ 'z') || "#/@".toList.contains c then
    match s.span fun c => c != ']' && c != '[' with
    | (tag, ']' :: rest) => some (tag, rest)
    | _ => none
  else none

/-- Puts a character before the first piece. -/
def consChar (c : Char) : List Piece → List Piece
  | .text s :: rest => .text (c :: s) :: rest
  | pieces => .text [c] :: pieces

/-- Puts characters before the first piece. -/
def consText (s : List Char) (pieces : List Piece) : List Piece := s.foldr consChar pieces

/-- The pieces of a text. Of backslashes before a tag every two show as one, and one left over makes
the tag plain text. Each piece takes at least one character. -/
def pieces : (fuel : Nat) → List Char → List Piece
  | 0, s => [.text s]
  | fuel + 1, s =>
    match s with
    | [] => []
    | c :: rest =>
      let (slashes, behind) := s.span (· == '\\')
      match behind with
      | '[' :: inner => match readTag inner with
        | some (tag, after) =>
          let shown : List Piece :=
            if slashes.length < 2 then [] else [.text (List.replicate (slashes.length / 2) '\\')]
          let tagged : Piece :=
            if slashes.length % 2 == 1 then .text ('[' :: tag ++ [']']) else .tag tag
          .text [] :: shown ++ tagged :: .text [] :: pieces fuel after
        | none => consText (slashes ++ ['[']) (pieces fuel inner)
      | _ => if slashes.isEmpty then consChar c (pieces fuel rest)
        else consText slashes (pieces fuel behind)

/-- A text without the backslashes that stand before a bracket. -/
def bareBrackets : List Char → List Char
  | '\\' :: '[' :: rest => '[' :: bareBrackets rest
  | c :: rest => c :: bareBrackets rest
  | [] => []

/-- Why a text is no markup. -/
inductive Fault where
  /-- A closing tag without the tag it closes. -/
  | unmatched (tag : String)
  /-- A tag with a colour that has a part which is no number. -/
  | badColour
  /-- A tag that gives a handler something that cannot be read. -/
  | badHandler (parameters : String)
  deriving DecidableEq

/-- The name of the style that a tag opens or closes. -/
def styleName (s : List Char) : Except Fault String :=
  (Style.canonical s).mapError fun _ => .badColour

/-- A tag that is open. -/
structure OpenTag where
  /-- The name of its style. -/
  name : String
  /-- What is behind an equals sign. -/
  parameters : String

/-- Whether a tag can be closed: what it gives to a handler, if it names one, can be read. -/
def OpenTag.isFine (t : OpenTag) : Bool := !t.name.startsWith "@" || Handler.isFine t.parameters

/-- The tag that a closing tag closes, and the others. -/
def close? (tags : List OpenTag) (name : List Char) : Except Fault (Option (OpenTag × List OpenTag)) :=
  if name.all Text.isBlank then
    .ok (tags.head?.map fun t => (t, tags.tail))
  else do
    let name ← styleName name
    return (tags.find? (·.name == name)).map fun t => (t, tags.eraseP (·.name == name))

/-- The text that shows, given the tags that are open, the innermost first. -/
def visible (tags : List OpenTag) : List Piece → Except Fault (List Char)
  | [] => .ok []
  | .text s :: rest => (visible tags rest).map (Emoji.expand (bareBrackets s) ++ ·)
  | .tag s :: rest => do
    match s.span (· != '=') with
    | ('/' :: name, _) => match ← close? tags name with
      | some (closed, others) =>
        if closed.isFine then visible others rest else throw (.badHandler closed.parameters)
      | none => throw (.unmatched (String.ofList s))
    | (name, behind) =>
      let opened : OpenTag := ⟨← styleName name, String.ofList (behind.drop 1)⟩
      visible (opened :: tags) rest

/-- Characters that a terminal would act on and that are left out. -/
def isControl (c : Char) : Bool :=
  c == '\x07' || c == '\x08' || c == '\x0b' || c == '\x0c' || c == '\r'

/-- What shows of a marked up text. -/
def plain (markup : String) : Except Fault String :=
  let cs := markup.toList
  let shown :=
    if cs.contains '[' then visible [] (pieces (cs.length + 1) cs) else .ok (Emoji.expand cs)
  shown.map fun s => String.ofList (s.filter (!isControl ·))

/-- A text with a backslash before every tag, and those before it doubled. -/
def escapeTags : (fuel : Nat) → List Char → List Char
  | 0, s => s
  | fuel + 1, s =>
    match s with
    | [] => []
    | c :: rest =>
      let (slashes, behind) := s.span (· == '\\')
      match behind with
      | '[' :: inner => match readTag inner with
        | some (tag, after) =>
          slashes ++ slashes ++ '\\' :: '[' :: tag ++ ']' :: escapeTags fuel after
        | none => slashes ++ '[' :: escapeTags fuel inner
      | _ => if slashes.isEmpty then c :: escapeTags fuel rest
        else slashes ++ escapeTags fuel behind

/-- Markup that shows a text. A lone backslash at the end is doubled. -/
def escape (s : String) : String :=
  let cs := escapeTags (s.length + 1) s.toList
  let lone := match cs.reverse with
    | '\\' :: '\\' :: _ => false
    | '\\' :: _ => true
    | _ => false
  String.ofList (if lone then cs ++ ['\\'] else cs)

end FlowTemplate.Markup
