/-!
# Addresses

Schemas are named by addresses such as `https://example.org/a/b?c#d`. An address is read into its
parts, and a reference is completed from the address of the place where it stands: `../x` beside
`/a/b/c` is `/a/x`. Whether a scheme has paths and hosts that can be completed is known for some
schemes only.
-/

namespace FlowTemplate

/-- An address in its parts. Parameters follow the last segment of the path behind a semicolon. -/
structure Address where
  scheme : List Char := []
  host : List Char := []
  path : List Char := []
  parameters : List Char := []
  query : List Char := []
  fragment : List Char := []
  deriving DecidableEq

namespace Address

/-- Schemes whose addresses can be completed from one another; a missing scheme is one. -/
def relativeSchemes : List String :=
  ["", "ftp", "http", "gopher", "nntp", "imap", "wais", "file", "https", "shttp", "mms",
    "prospero", "rtsp", "rtsps", "rtspu", "sftp", "svn", "svn+ssh", "ws", "wss"]

/-- Schemes whose addresses have hosts. -/
def hostSchemes : List String :=
  relativeSchemes ++ ["telnet", "snews", "rsync", "nfs", "git", "git+ssh"]

/-- Schemes whose addresses have parameters. -/
def parameterSchemes : List String :=
  ["", "ftp", "hdl", "prospero", "http", "imap", "https", "shttp", "rtsp", "rtsps", "rtspu", "sip",
    "sips", "mms", "sftp", "tel"]

def isIn (scheme : List Char) (schemes : List String) : Bool :=
  schemes.contains (String.ofList scheme)

/-- What is before the first character of some kind, and what is after it. -/
def cutAt (stop : Char → Bool) (s : List Char) : List Char × Option (List Char) :=
  match s.span fun c => !stop c with
  | (before, []) => (before, none)
  | (before, _ :: after) => (before, some after)

def isSchemeChar (c : Char) : Bool := c.isAlphanum || c == '+' || c == '-' || c == '.'

/-- The scheme in front of a colon, in small letters, and the rest. -/
def takeScheme (other s : List Char) : List Char × List Char :=
  match s, cutAt (· == ':') s with
  | first :: _, (before, some after) =>
    if first.isAlpha && before.all isSchemeChar then (before.map Char.toLower, after) else (other, s)
  | _, _ => (other, s)

/-- The host behind two slashes, and the rest. -/
def takeHost : List Char → List Char × List Char
  | '/' :: '/' :: s => s.span fun c => c != '/' && c != '?' && c != '#'
  | s => ([], s)

/-- A path and its parameters: what follows the first semicolon of the last segment. -/
def takeParameters (s : List Char) : List Char × List Char :=
  let last := (s.reverse.takeWhile (· != '/')).reverse
  match cutAt (· == ';') last with
  | (before, some after) => (s.take (s.length - last.length) ++ before, after)
  | (_, none) => (s, [])

/-- Whether a host in brackets is one of hexadecimal digits and colons. -/
def isHostNumber (s : List Char) : Bool :=
  2 ≤ s.count ':' && s.all fun c => c.isDigit || c == ':' || c == '.' || c == '%'
    || ('a' ≤ c.toLower && c.toLower ≤ 'f')

/-- Whether the brackets of a host are in order. -/
def isHost (s : List Char) : Bool :=
  match cutAt (· == '[') s with
  | (_, none) => !s.contains ']'
  | (_, some after) => s.contains ']' && isHostNumber (cutAt (· == ']') after).1

/-- The parts of an address, its parameters in the path; `other` is its scheme if it names none.
Control characters in front of it and line breaks in it are left out. -/
def parts? (other s : List Char) : Option Address :=
  let s := s.dropWhile fun c => c.toNat ≤ 0x20
  let s := s.filter fun c => c != '\t' && c != '\r' && c != '\n'
  let (scheme, s) := takeScheme other s
  let (host, s) := takeHost s
  if isHost host then
    let (s, fragment) := cutAt (· == '#') s
    let (s, query) := cutAt (· == '?') s
    some { scheme, host, path := s, query := query.getD [], fragment := fragment.getD [] }
  else none

/-- The parts of an address. -/
def ofChars? (other s : List Char) : Option Address :=
  (parts? other s).map fun a =>
    if isIn a.scheme parameterSchemes then
      let (path, parameters) := takeParameters a.path
      { a with path, parameters }
    else a

/-- A part behind its mark, if there is any. -/
def marked (mark : Char) (part : List Char) : List Char :=
  if part.isEmpty then [] else mark :: part

/-- The text of an address. -/
def toChars (a : Address) : List Char :=
  let path := a.path ++ marked ';' a.parameters
  let path :=
    if !a.host.isEmpty || (!a.scheme.isEmpty && isIn a.scheme hostSchemes)
        || path.take 2 == ['/', '/'] then
      '/' :: '/' :: a.host ++ (if path.isEmpty || path.head? == some '/' then path else '/' :: path)
    else path
  (if a.scheme.isEmpty then [] else a.scheme ++ [':']) ++ path ++ marked '?' a.query
    ++ marked '#' a.fragment

/-- The segments of a path. -/
def segments (s : List Char) : List (List Char) :=
  match s with
  | [] => [[]]
  | c :: rest => match segments rest with
    | first :: more => if c == '/' then [] :: first :: more else (c :: first) :: more
    | [] => [[c]]

/-- Segments without those in the middle that are empty. -/
def withoutEmpty (s : List (List Char)) : List (List Char) :=
  s.take 1 ++ ((s.drop 1).dropLast.filter fun t => !t.isEmpty) ++ (s.drop 1).drop (s.length - 2)

/-- Goes through segments, where two dots step back and one dot stays. -/
def walk (s : List (List Char)) : List (List Char) :=
  let reached := s.foldl (fun done t =>
    if t == ['.', '.'] then done.dropLast else if t == ['.'] then done else done ++ [t]) []
  if s.getLast?.any fun t => t == ['.', '.'] || t == ['.'] then reached ++ [[]] else reached

/-- The path of a reference beside another path. -/
def joinPath (base path : List Char) : List Char :=
  let front := segments base
  let front := if front.getLast? == some [] then front else front.dropLast
  let all := if path.head? == some '/' then segments path
    else withoutEmpty (front ++ segments path)
  let joined := ['/'].intercalate (walk all)
  if joined.isEmpty then ['/'] else joined

/-- Completes a reference from the address of the place where it stands. -/
def complete (base reference : Address) : Address :=
  if isIn reference.scheme hostSchemes && !reference.host.isEmpty then reference
  else
    let host := if isIn reference.scheme hostSchemes then base.host else reference.host
    if reference.path.isEmpty && reference.parameters.isEmpty then
      { reference with
        host, path := base.path, parameters := base.parameters,
        query := if reference.query.isEmpty then base.query else reference.query }
    else { reference with host, path := joinPath base.path reference.path }

/-- The address that a reference means at a place. Nothing if one of the two is none. -/
def join? (base reference : String) : Option String :=
  if base.isEmpty then some reference
  else if reference.isEmpty then some base
  else do
    let place ← ofChars? [] base.toList
    let target ← ofChars? place.scheme reference.toList
    if target.scheme != place.scheme || !isIn target.scheme relativeSchemes then return reference
    else return String.ofList (complete place target).toChars

/-- An address without its fragment, and the fragment. -/
def split? (s : String) : Option (String × String) :=
  if s.toList.contains '#' then
    (ofChars? [] s.toList).map fun a =>
      (String.ofList { a with fragment := [] }.toChars, String.ofList a.fragment)
  else some (s, "")

/-- An address in its standard form. -/
def standard? (s : String) : Option String :=
  (parts? [] s.toList).map fun a => String.ofList a.toChars

/-- A text without number signs at its end. -/
def trimmed (s : String) : String :=
  String.ofList (s.toList.reverse.dropWhile (· == '#')).reverse

example : join? "http://a/b/c" "../d#e" = some "http://a/d#e" := by decide +kernel
example : split? "http://a/b#c" = some ("http://a/b", "c") := by decide +kernel

end Address

end FlowTemplate
