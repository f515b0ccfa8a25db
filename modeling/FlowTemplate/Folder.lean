import FlowTemplate.Text.Surrogate
/-!
# Folders

Files by path, as a run finds them. A path is a row of names; empty names and single dots in it do
not count. A folder is there when it is listed or something lies in it; the usual folders below the
root are always there, and so is the file that stays empty whatever is written to it.
-/

namespace FlowTemplate

/-- Why nothing can be read or written at a path. -/
inductive PathFailure where
  | missing
  | isFolder
  | notFolder
  /-- A name, or the path as a whole, has too many bytes. -/
  | tooLong
  deriving DecidableEq

namespace PathFailure

def code : PathFailure → Nat
  | .missing => 2
  | .notFolder => 20
  | .isFolder => 21
  | .tooLong => 36

def reason : PathFailure → String
  | .missing => "No such file or directory"
  | .notFolder => "Not a directory"
  | .isFolder => "Is a directory"
  | .tooLong => "File name too long"

end PathFailure

/-- Why a text is no path. -/
inductive PathFault where
  /-- It holds the character that ends a path. -/
  | terminator
  /-- It has no bytes. -/
  | notEncodable
  deriving DecidableEq

def PathFault.message : PathFault → String
  | .terminator => "a path holds a null character"
  | .notEncodable => "a path holds half of a surrogate pair"

namespace Path

/-- The names of a path, the root apart. -/
def inner (path : String) : List String :=
  ((path.toList.splitOn '/').map String.ofList).filter fun name => name != "" && name != "."

/-- The names of a path. The first one of a path from the root is a slash. -/
def names (path : String) : List String :=
  if path.startsWith "/" then "/" :: inner path else inner path

/-- How a path from the root starts: with one slash, or with two if there are just two. -/
def start (path : String) : String :=
  match path.toList with
  | ['/', '/'] => "//"
  | '/' :: '/' :: c :: _ => if c == '/' then "/" else "//"
  | '/' :: _ => "/"
  | _ => ""

/-- A path without empty names and single dots; one without names is a dot. -/
def plain (path : String) : String :=
  let text := start path ++ "/".intercalate (inner path)
  if text.isEmpty then "." else text

/-- The places that a path leads through, and at last the path itself. -/
def onTheWay (path : String) : List String :=
  (List.range (inner path).length).map fun n =>
    start path ++ "/".intercalate ((inner path).take (n + 1))

/-- The ending of the last name from its last dot on; a dot at either end of a name starts none. -/
def ending (path : String) : String :=
  match ((names path).getLast?.getD "").toList.reverse.span (· != '.') with
  | (tail@(_ :: _), '.' :: _ :: _) => String.ofList ('.' :: tail.reverse)
  | _ => ""

/-- Whether a code point stands for one byte of a name that is no text. -/
def isLoneByte (n : Nat) : Bool := 0xDC80 ≤ n && n ≤ 0xDCFF

/-- What keeps a text from being a path. -/
def fault? (path : String) : Option PathFault :=
  let codes := Text.codes path.toList
  if codes.any fun n => Text.isSurrogate n && !isLoneByte n then some .notEncodable
  else if codes.contains 0 then some .terminator
  else none

/-- The bytes of a code point in a path. -/
def bytesOf (n : Nat) : Nat :=
  if n < 0x80 || isLoneByte n then 1 else if n < 0x800 then 2 else if n < 0x10000 then 3 else 4

/-- A path as it is shown: a byte that is no text shows as the sign for that. -/
def shown (path : String) : String :=
  String.ofList ((Text.codes path.toList).flatMap fun n =>
    if isLoneByte n then ['\ufffd'] else Text.ofCodePoint n)

/-- How many bytes a path or a name has. -/
def size (s : String) : Nat := (Text.codes s.toList).foldl (fun total n => total + bytesOf n) 0

/-- The bytes that a name may have. -/
def maxNameSize : Nat := 255

/-- The bytes that a path may have. -/
def maxSize : Nat := 4095

end Path

/-- Files by the names of their paths, and folders that are listed. -/
structure Folder where
  files : List (List String × List UInt8)
  folders : List (List String)

namespace Folder

/-- What is found at a path. -/
inductive Found where
  | file (data : List UInt8)
  | folder
  | failure (e : PathFailure)

/-- The file that takes everything and stays empty. -/
def sink : List String := ["/", "dev", "null"]

/-- The folders below the root that are always there. -/
def usualFolders : List String :=
  ["bin", "boot", "dev", "etc", "home", "lib", "media", "mnt", "opt", "proc", "root", "run", "sbin",
    "srv", "sys", "tmp", "usr", "var"]

def file? (f : Folder) (names : List String) : Option (List UInt8) :=
  if names == sink then some [] else f.files.lookup names

/-- Whether names lead out of the folder that paths start from, to the root or a folder above. -/
def isOutside (names : List String) : Bool := names.all fun name => name == ".." || name == "/"

/-- Whether names are those of a folder that is always there. -/
def isUsual : List String → Bool
  | ["/", name] => usualFolders.contains name
  | names => isOutside names

def hasFolder (f : Folder) (names : List String) : Bool :=
  isUsual names || (f.files.map (·.1) ++ f.folders).any fun other =>
    names.isPrefixOf other && ((f.file? other).isNone || names != other)

/-- The folder above a place. -/
def above (names : List String) : List String :=
  if names == ["/"] then names
  else if isOutside names then names ++ [".."]
  else names.dropLast

/-- The place that a name leads to. -/
def step (here : List String) (name : String) : List String :=
  if name == ".." then above here else here ++ [name]

/-- The place that a path leads to. -/
def place (path : String) : List String := (Path.names path).foldl step []

/-- The shortest path to the place that a path leads to, if that is inside of the folder that paths
start from. -/
def insidePath? (path : String) : Option String :=
  match place path with
  | [] | "/" :: _ | ".." :: _ => none
  | names => some ("/".intercalate names)

/-- What is found by going through names one after the other, from a place on. -/
def walk (f : Folder) : (here : List String) → List String → Found
  | here, [] => match f.file? here with
    | some data => .file data
    | none => if f.hasFolder here then .folder else .failure .missing
  | here, name :: rest =>
    if (f.file? here).isSome then .failure .notFolder
    else if !f.hasFolder here then .failure .missing
    else if Path.size name > Path.maxNameSize then .failure .tooLong
    else walk f (step here name) rest

/-- What is found at a path. The empty path leads nowhere, and no file lies at a path that ends in
a slash, or in a slash and a dot. -/
def find (f : Folder) (path : String) : Found :=
  if path.isEmpty then .failure .missing
  else if Path.size path > Path.maxSize then .failure .tooLong
  else match f.walk [] (Path.names path) with
    | .file data =>
      if path.endsWith "/" || path.endsWith "/." then .failure .notFolder else .file data
    | found => found

/-- The bytes of the file at a path. -/
def read (f : Folder) (path : String) : Except PathFailure (List UInt8) :=
  match f.find path with
  | .file data => .ok data
  | .folder => .error .isFolder
  | .failure e => .error e

/-- Whether something can be written at a path: what is there is no folder, and it lies in one. -/
def checkWrite (f : Folder) (path : String) : Except PathFailure Unit :=
  match f.find path with
  | .file _ => .ok ()
  | .folder => .error .isFolder
  | .failure .missing => match f.walk [] (Path.names path).dropLast with
    | .folder => .ok ()
    | .file _ => .error .notFolder
    | .failure e => .error e
  | .failure e => .error e

end Folder

end FlowTemplate
