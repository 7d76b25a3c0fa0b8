import WebBaseline.Text.Case
import WebBaseline.Text.Words

/-!
# Styles

A style is written as words: attributes, a colour, a colour behind the text, and a link.  Two
ways of writing one style have the same canonical form, which is how a closing tag finds the tag
that it closes.  Words that are no style are compared as they are, in lower case.
-/

namespace WebBaseline.Display

/-- The attributes in canonical order, each with its other name. -/
def attributeNames : List (String × String) :=
  [("bold", "b"), ("dim", "d"), ("italic", "i"), ("underline", "u"), ("blink", "blink"),
   ("blink2", "blink2"), ("reverse", "r"), ("conceal", "c"), ("strike", "s"), ("underline2", "uu"),
   ("frame", "frame"), ("encircle", "encircle"), ("overline", "o")]

def attribute? (word : String) : Option String :=
  (attributeNames.find? fun a ↦ a.1 = word || a.2 = word).map Prod.fst

def colourLines : List String :=
  ["black red green yellow blue magenta cyan white bright_black bright_red bright_green",
   "bright_yellow bright_blue bright_magenta bright_cyan bright_white grey0 gray0 navy_blue",
   "dark_blue blue3 blue1 dark_green deep_sky_blue4 dodger_blue3 dodger_blue2 green4",
   "spring_green4 turquoise4 deep_sky_blue3 dodger_blue1 green3 spring_green3 dark_cyan",
   "light_sea_green deep_sky_blue2 deep_sky_blue1 spring_green2 cyan3 dark_turquoise turquoise2",
   "green1 spring_green1 medium_spring_green cyan2 cyan1 dark_red deep_pink4 purple4 purple3",
   "blue_violet orange4 grey37 gray37 medium_purple4 slate_blue3 royal_blue1 chartreuse4",
   "dark_sea_green4 pale_turquoise4 steel_blue steel_blue3 cornflower_blue chartreuse3",
   "cadet_blue sky_blue3 steel_blue1 pale_green3 sea_green3 aquamarine3 medium_turquoise",
   "chartreuse2 sea_green2 sea_green1 aquamarine1 dark_slate_gray2 dark_magenta dark_violet",
   "purple light_pink4 plum4 medium_purple3 slate_blue1 yellow4 wheat4 grey53 gray53",
   "light_slate_grey light_slate_gray medium_purple light_slate_blue dark_olive_green3",
   "dark_sea_green light_sky_blue3 sky_blue2 dark_sea_green3 dark_slate_gray3 sky_blue1",
   "chartreuse1 light_green pale_green1 dark_slate_gray1 red3 medium_violet_red magenta3",
   "dark_orange3 indian_red hot_pink3 medium_orchid3 medium_orchid medium_purple2 dark_goldenrod",
   "light_salmon3 rosy_brown grey63 gray63 medium_purple1 gold3 dark_khaki navajo_white3 grey69",
   "gray69 light_steel_blue3 light_steel_blue yellow3 dark_sea_green2 light_cyan3",
   "light_sky_blue1 green_yellow dark_olive_green2 dark_sea_green1 pale_turquoise1 deep_pink3",
   "magenta2 hot_pink2 orchid medium_orchid1 orange3 light_pink3 pink3 plum3 violet",
   "light_goldenrod3 tan misty_rose3 thistle3 plum2 khaki3 light_goldenrod2 light_yellow3 grey84",
   "gray84 light_steel_blue1 yellow2 dark_olive_green1 honeydew2 light_cyan1 red1 deep_pink2",
   "deep_pink1 magenta1 orange_red1 indian_red1 hot_pink dark_orange salmon1 light_coral",
   "pale_violet_red1 orchid2 orchid1 orange1 sandy_brown light_salmon1 light_pink1 pink1 plum1",
   "gold1 navajo_white1 misty_rose1 thistle1 yellow1 light_goldenrod1 khaki1 wheat1 cornsilk1",
   "grey100 gray100 grey3 gray3 grey7 gray7 grey11 gray11 grey15 gray15 grey19 gray19 grey23",
   "gray23 grey27 gray27 grey30 gray30 grey35 gray35 grey39 gray39 grey42 gray42 grey46 gray46",
   "grey50 gray50 grey54 gray54 grey58 gray58 grey62 gray62 grey66 gray66 grey70 gray70 grey74",
   "gray74 grey78 gray78 grey82 gray82 grey85 gray85 grey89 gray89 grey93 gray93"]

def colourNames : List String :=
  colourLines.flatMap Text.words

def isHexDigit (c : Char) : Bool :=
  c.isDigit || ('a' ≤ c && c ≤ 'f')

def inside? (opening : String) (word : String) : Option (List Char) :=
  let cs := word.toList
  if opening.toList.isPrefixOf cs && cs.getLast? = some ')' then
    some ((cs.drop opening.length).dropLast)
  else none

def atMost255 (digits : List Char) : Bool :=
  !digits.isEmpty && digits.all Char.isDigit &&
    digits.foldl (fun n c ↦ n * 10 + (c.toNat - 48)) 0 ≤ 255

def splitComma : List Char → List Char → List (List Char)
  | [], current => [current.reverse]
  | ',' :: rest, current => current.reverse :: splitComma rest []
  | c :: rest, current => splitComma rest (c :: current)

def isColour (word : String) : Bool :=
  word = "default" || colourNames.contains word ||
    (match word.toList with
      | '#' :: digits => digits.length = 6 && digits.all isHexDigit
      | _ => false) ||
    (match inside? "color(" word with
      | some digits => digits.length ≤ 3 && atMost255 digits
      | none => false) ||
    (match inside? "rgb(" word with
      | some body =>
          let parts := splitComma body []
          parts.length = 3 && parts.all atMost255
      | none => false)

structure Style where
  /-- attributes that are set, or set off, each once -/
  attributes : List (String × Bool) := []
  colour : Option String := none
  behind : Option String := none
  link : Option String := none
  deriving DecidableEq

namespace Style

def setAttribute (s : Style) (name : String) (on : Bool) : Style :=
  { s with attributes := (s.attributes.filter fun a ↦ a.1 ≠ name) ++ [(name, on)] }

def ofWords? (s : Style) : List String → Option Style
  | [] => some s
  | word :: rest =>
      match Text.lower word with
      | "on" =>
          match rest with
          | [] => none
          | colour :: rest =>
              if isColour (Text.lower colour) then
                ofWords? { s with behind := some (Text.lower colour) } rest
              else none
      | "not" =>
          match rest with
          | [] => none
          | name :: rest =>
              match attribute? name with
              | some a => ofWords? (s.setAttribute a false) rest
              | none => none
      | "link" =>
          match rest with
          | [] => none
          | target :: rest => ofWords? { s with link := some target } rest
      | lower =>
          match attribute? lower with
          | some a => ofWords? (s.setAttribute a true) rest
          | none => if isColour lower then ofWords? { s with colour := some lower } rest else none

def toText (s : Style) : String :=
  let attributes := attributeNames.flatMap fun a ↦
    match s.attributes.lookup a.1 with
    | some true => [a.1]
    | some false => ["not", a.1]
    | none => []
  let colour := s.colour.toList
  let behind := (s.behind.map fun c ↦ ["on", c]).getD []
  let link := (s.link.map fun t ↦ ["link", t]).getD []
  match attributes ++ colour ++ behind ++ link with
  | [] => "none"
  | words => " ".intercalate words

/-- The form under which a style is compared with others. -/
def canonical (text : String) : String :=
  if Text.trim text = "none" then "none"
  else
    match ofWords? {} (Text.words text) with
    | some s => s.toText
    | none => Text.lower (Text.trim text)

end Style

end WebBaseline.Display
