import FlowTemplate.Text.Digit
import FlowTemplate.Text.LowerCase
/-!
# Styles

How text is drawn on a terminal: attributes, a colour, a background and a link. Two definitions say
the same if they read as one style, which has one spelling: the attributes in a fixed order, then
the colours, then the link.
-/

namespace FlowTemplate

/-- What a style sets; the attributes that were given last come first. -/
structure Style where
  attributes : List (String × Bool) := []
  colour : Option String := none
  background : Option String := none
  link : Option String := none

namespace Style

/-- The attributes in the order in which they are written. -/
def attributeNames : List String := ["bold", "dim", "italic", "underline", "blink", "blink2",
  "reverse", "conceal", "strike", "underline2", "frame", "encircle", "overline"]

/-- Short names of attributes. -/
def shortNames : List (String × String) := [("d", "dim"), ("b", "bold"), ("i", "italic"),
  ("u", "underline"), ("r", "reverse"), ("c", "conceal"), ("s", "strike"), ("uu", "underline2"),
  ("o", "overline")]

/-- The attribute that a word names. -/
def attribute? (word : String) : Option String :=
  if attributeNames.contains word then some word else shortNames.lookup word

/-- The colours that have names. -/
def colourListing : String := "
  black red green yellow blue magenta cyan white bright_black bright_red bright_green
  bright_yellow bright_blue bright_magenta bright_cyan bright_white grey0 gray0 navy_blue
  dark_blue blue3 blue1 dark_green deep_sky_blue4 dodger_blue3 dodger_blue2 green4 spring_green4
  turquoise4 deep_sky_blue3 dodger_blue1 green3 spring_green3 dark_cyan light_sea_green
  deep_sky_blue2 deep_sky_blue1 spring_green2 cyan3 dark_turquoise turquoise2 green1 spring_green1
  medium_spring_green cyan2 cyan1 dark_red deep_pink4 purple4 purple3 blue_violet orange4 grey37
  gray37 medium_purple4 slate_blue3 royal_blue1 chartreuse4 dark_sea_green4 pale_turquoise4
  steel_blue steel_blue3 cornflower_blue chartreuse3 cadet_blue sky_blue3 steel_blue1 pale_green3
  sea_green3 aquamarine3 medium_turquoise chartreuse2 sea_green2 sea_green1 aquamarine1
  dark_slate_gray2 dark_magenta dark_violet purple light_pink4 plum4 medium_purple3 slate_blue1
  yellow4 wheat4 grey53 gray53 light_slate_grey light_slate_gray medium_purple light_slate_blue
  dark_olive_green3 dark_sea_green light_sky_blue3 sky_blue2 dark_sea_green3 dark_slate_gray3
  sky_blue1 chartreuse1 light_green pale_green1 dark_slate_gray1 red3 medium_violet_red magenta3
  dark_orange3 indian_red hot_pink3 medium_orchid3 medium_orchid medium_purple2 dark_goldenrod
  light_salmon3 rosy_brown grey63 gray63 medium_purple1 gold3 dark_khaki navajo_white3 grey69
  gray69 light_steel_blue3 light_steel_blue yellow3 dark_sea_green2 light_cyan3 light_sky_blue1
  green_yellow dark_olive_green2 dark_sea_green1 pale_turquoise1 deep_pink3 magenta2 hot_pink2
  orchid medium_orchid1 orange3 light_pink3 pink3 plum3 violet light_goldenrod3 tan misty_rose3
  thistle3 plum2 khaki3 light_goldenrod2 light_yellow3 grey84 gray84 light_steel_blue1 yellow2
  dark_olive_green1 honeydew2 light_cyan1 red1 deep_pink2 deep_pink1 magenta1 orange_red1
  indian_red1 hot_pink dark_orange salmon1 light_coral pale_violet_red1 orchid2 orchid1 orange1
  sandy_brown light_salmon1 light_pink1 pink1 plum1 gold1 navajo_white1 misty_rose1 thistle1
  yellow1 light_goldenrod1 khaki1 wheat1 cornsilk1 grey100 gray100 grey3 gray3 grey7 gray7 grey11
  gray11 grey15 gray15 grey19 gray19 grey23 gray23 grey27 gray27 grey30 gray30 grey35 gray35
  grey39 gray39 grey42 gray42 grey46 gray46 grey50 gray50 grey54 gray54 grey58 gray58 grey62
  gray62 grey66 gray66 grey70 gray70 grey74 gray74 grey78 gray78 grey82 gray82 grey85 gray85
  grey89 gray89 grey93 gray93"

def colourNames : List String := "default" :: Text.words colourListing.toList

/-- Why a definition is no style. -/
inductive Problem where
  | unknown
  /-- A part of a colour is no number at all. -/
  | noNumber
  deriving DecidableEq

/-- What is between a head and a closing bracket at the end. -/
def argument? (head : String) (word : List Char) : Option (List Char) :=
  if head.toList.isPrefixOf word then
    match (word.drop head.length).reverse with
    | ')' :: inner => some inner.reverse
    | _ => none
  else none

/-- A part of a colour: a number up to 255. -/
def checkPart (part : List Char) : Except Problem Bool :=
  match Text.digitsIn? 10 part with
  | some n => .ok (n ≤ 255)
  | none => .error .noNumber

/-- Whether a word in lower case is a colour: a name, six hexadecimal digits, the number of a colour,
or three parts. -/
def isColour (word : String) : Except Problem Bool :=
  let cs := word.toList
  if colourNames.contains word then .ok true
  else match cs, argument? "color(" cs, argument? "rgb(" cs with
    | '#' :: digits, _, _ =>
      .ok (digits.length == 6 && digits.all fun c => c.isDigit || ('a' ≤ c && c ≤ 'f'))
    | _, some digits, _ =>
      .ok (!digits.isEmpty && digits.length ≤ 3 && digits.all Char.isDigit
        && (Text.digitsIn? 10 digits).any (· ≤ 255))
    | _, _, some inner =>
      if inner.isEmpty || !inner.all (fun c => c == ',' || (Text.digitValue? c.toNat).isSome) then
        .ok false
      else match inner.splitOn ',' with
        | [red, green, blue] => do
          let parts ← [red, green, blue].mapM checkPart
          return parts.all id
        | _ => .ok false
    | _, _, _ => .ok false

/-- A word as a colour in lower case. -/
def readColour (word : String) : Except Problem String := do
  let name := String.ofList (Text.lower word.toList)
  if ← isColour name then return name else throw .unknown

/-- A style with an attribute set to yes or no. -/
def set (s : Style) (attribute? : Option String) (value : Bool) : Except Problem Style :=
  match attribute? with
  | some name => .ok { s with attributes := (name, value) :: s.attributes }
  | none => .error .unknown

/-- A style with what one word says. -/
def add (s : Style) (word : String) : Except Problem Style :=
  let name := String.ofList (Text.lower word.toList)
  if ["on", "not", "link"].contains name then .error .unknown
  else if (attribute? name).isSome then s.set (attribute? name) true
  else do return { s with colour := ← readColour word }

/-- A style with what some words say; `on`, `not` and `link` are about the word behind them. -/
def addWords (s : Style) : List String → Except Problem Style
  | [] => .ok s
  | [word] => s.add word
  | word :: next :: rest => do
    match String.ofList (Text.lower word.toList) with
    | "on" => addWords { s with background := ← readColour next } rest
    | "not" => addWords (← s.set (attribute? next) false) rest
    | "link" => addWords { s with link := next } rest
    | _ => addWords (← s.add word) (next :: rest)

/-- The one spelling of a style. -/
def text (s : Style) : String :=
  let attributes := attributeNames.filterMap fun name =>
    (s.attributes.lookup name).map fun value => if value then name else "not " ++ name
  let background := s.background.map ("on " ++ ·)
  let link := s.link.map ("link " ++ ·)
  let parts := attributes ++ s.colour.toList ++ background.toList ++ link.toList
  if parts.isEmpty then "none" else " ".intercalate parts

/-- The spelling by which a definition is known: that of its style, or itself in lower case if it is
none. -/
def canonical (definition : List Char) : Except Problem String :=
  let trimmed := Text.trim definition
  if trimmed == "none".toList then .ok (text {})
  else match addWords {} (Text.words definition) with
    | .ok s => .ok s.text
    | .error .unknown => .ok (String.ofList (Text.lower trimmed))
    | .error e => .error e

end Style

end FlowTemplate
