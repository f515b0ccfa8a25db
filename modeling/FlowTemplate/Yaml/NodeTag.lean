/-!
# Tags of nodes

What a node says about its kind: one of the standard kinds, the short form of an intrinsic, or
something that no reader knows. A plain scalar without a tag gets one by its text.
-/

namespace FlowTemplate.Yaml

inductive NodeTag where
  | null | bool | int | float | binary | timestamp | str
  | list | map | orderedMap | pairs | set
  /-- A key whose value is merged into its mapping. -/
  | merge
  /-- A key whose value stands for its mapping. -/
  | value
  /-- An exclamation mark and a name. -/
  | shortForm (name : String)
  | unknown
  deriving DecidableEq, Repr

namespace NodeTag

/-- What all standard tags start with. -/
def standardHead : String := "tag:yaml.org,2002:"

/-- The standard tags by the rest of their text. -/
def standard : List (String × NodeTag) := [
  ("null", .null), ("bool", .bool), ("int", .int), ("float", .float), ("binary", .binary),
  ("timestamp", .timestamp), ("str", .str), ("seq", .list), ("map", .map), ("omap", .orderedMap),
  ("pairs", .pairs), ("set", .set), ("merge", .merge), ("value", .value)]

/-- The tag of a text. -/
def ofString (s : String) : NodeTag :=
  match standard.find? fun (name, _) => standardHead ++ name == s with
  | some (_, tag) => tag
  | none => match s.toList with
    | '!' :: name => .shortForm (String.ofList name)
    | _ => .unknown

/-! ## Tags by text -/

def isBoolWord (s : String) : Bool :=
  ["yes", "Yes", "YES", "no", "No", "NO", "true", "True", "TRUE", "false", "False", "FALSE", "on",
    "On", "ON", "off", "Off", "OFF"].contains s

def isNullWord (s : String) : Bool := ["", "~", "null", "Null", "NULL"].contains s

def withoutSign : List Char → List Char
  | '+' :: rest | '-' :: rest => rest
  | s => s

/-- At least one character, all of which pass a test. -/
def run (test : Char → Bool) (s : List Char) : Bool := !s.isEmpty && s.all test

def isDigitOrLine (c : Char) : Bool := c.isDigit || c == '_'

/-- A digit and then digits and underscores. -/
def isNumeral (s : List Char) : Bool := s.head?.any Char.isDigit && s.all isDigitOrLine

/-- A numeral that does not start with zero. -/
def isPositive (s : List Char) : Bool := isNumeral s && s.head? != some '0'

/-- One or two digits of a number below sixty. -/
def isSixtieth : List Char → Bool
  | [a] => a.isDigit
  | [a, b] => '0' ≤ a && a ≤ '5' && b.isDigit
  | _ => false

/-- Parts between colons: a head and sixtieths. -/
def isSexagesimal (head : List Char → Bool) (s : List Char) : Bool :=
  match s.splitOn ':' with
  | first :: rest@(_ :: _) => head first && rest.all isSixtieth
  | _ => false

def isIntText (s : List Char) : Bool :=
  let digits := withoutSign s
  digits == ['0'] || isPositive digits || isSexagesimal isPositive digits || match digits with
    | '0' :: 'b' :: rest => run (fun c => c == '0' || c == '1' || c == '_') rest
    | '0' :: 'x' :: rest =>
      run (fun c => isDigitOrLine c || ('a' ≤ c && c ≤ 'f') || ('A' ≤ c && c ≤ 'F')) rest
    | '0' :: rest => run (fun c => ('0' ≤ c && c ≤ '7') || c == '_') rest
    | _ => false

/-- Nothing, or a signed exponent. -/
def isExponent : List Char → Bool
  | [] => true
  | e :: sign :: digits =>
    (e == 'e' || e == 'E') && (sign == '+' || sign == '-') && run Char.isDigit digits
  | _ => false

/-- Digits and underscores behind a point, perhaps with an exponent. -/
def isFraction (s : List Char) : Bool := isExponent (s.dropWhile isDigitOrLine)

def isFloatText (s : List Char) : Bool :=
  let digits := withoutSign s
  let special := [".inf", ".Inf", ".INF"].contains (String.ofList digits)
    || [".nan", ".NaN", ".NAN"].contains (String.ofList s)
  special || match s, digits.span (· != '.') with
    | '.' :: rest, _ => rest.head?.any Char.isDigit && isFraction rest
    | _, (whole, '.' :: rest) =>
      (isNumeral whole && isFraction rest)
        || (isSexagesimal isNumeral whole && rest.all isDigitOrLine)
    | _, _ => false

/-- The tag that the text of a plain scalar has without a line feed at its end. -/
def ofLine (s : String) : NodeTag :=
  if isBoolWord s then .bool
  else if isFloatText s.toList then .float
  else if isIntText s.toList then .int
  else if s == "<<" then .merge
  else if isNullWord s then .null
  else if s == "=" then .value
  else if ["!", "&", "*"].contains s then .unknown
  else .str

/-- The tag of a plain scalar; one line feed at the end of its text does not count. -/
def ofPlain (s : String) : NodeTag :=
  match s.toList.reverse with
  | '\n' :: c :: rest => ofLine (String.ofList (c :: rest).reverse)
  | ['\n'] => .str
  | _ => ofLine s

end NodeTag

end FlowTemplate.Yaml
