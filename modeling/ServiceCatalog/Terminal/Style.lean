import ServiceCatalog.Text.Casing
import ServiceCatalog.Text.Digit
import ServiceCatalog.Text.Hex
import ServiceCatalog.Text.Pieces

/-!
# Styles

A mark in a remark names a style in words: `bold red` and `not dim on #ffffff link http://h` are
two.  Whatever the order and the abbreviations of its words, a style has one written form, and two
marks mean the same style when their written forms are equal.

A colour is a name, a number in `color(…)`, three numbers in `rgb(…)`, or six digits in base sixteen
behind a `#`.  Words that are no style are no mistake, since a mark may be an ordinary word between
brackets; only a colour of three numbers one of which is missing is one.
-/

namespace ServiceCatalog
namespace Terminal

/-- Why words are no style. -/
inductive StyleFault where
  /-- Some word is not known. -/
  | unknown
  /-- A number of a colour is missing. -/
  | missingNumber
  deriving DecidableEq, Repr

/-- The attributes of a style, in the order in which they are written. -/
def attributes : List String :=
  ["bold", "dim", "italic", "underline", "blink", "blink2", "reverse", "conceal", "strike",
   "underline2", "frame", "encircle", "overline"]

/-- The short names of attributes. -/
def abbreviations : List (String × String) :=
  [("b", "bold"), ("d", "dim"), ("i", "italic"), ("u", "underline"), ("r", "reverse"),
   ("c", "conceal"), ("s", "strike"), ("uu", "underline2"), ("o", "overline")]

/-- The attribute with a name. -/
def attribute? (word : String) : Option String :=
  if attributes.contains word then some word else abbreviations.lookup word

/-- The names of colours, with blanks between them. -/
def colourTable : String :=
  "default black red green yellow blue magenta cyan white bright_black bright_red bright_green
   bright_yellow bright_blue bright_magenta bright_cyan bright_white grey0 gray0 navy_blue
   dark_blue blue3 blue1 dark_green deep_sky_blue4 dodger_blue3 dodger_blue2 green4 spring_green4
   turquoise4 deep_sky_blue3 dodger_blue1 green3 spring_green3 dark_cyan light_sea_green
   deep_sky_blue2 deep_sky_blue1 spring_green2 cyan3 dark_turquoise turquoise2 green1
   spring_green1 medium_spring_green cyan2 cyan1 dark_red deep_pink4 purple4 purple3 blue_violet
   orange4 grey37 gray37 medium_purple4 slate_blue3 royal_blue1 chartreuse4 dark_sea_green4
   pale_turquoise4 steel_blue steel_blue3 cornflower_blue chartreuse3 cadet_blue sky_blue3
   steel_blue1 pale_green3 sea_green3 aquamarine3 medium_turquoise chartreuse2 sea_green2
   sea_green1 aquamarine1 dark_slate_gray2 dark_magenta dark_violet purple light_pink4 plum4
   medium_purple3 slate_blue1 yellow4 wheat4 grey53 gray53 light_slate_grey light_slate_gray
   medium_purple light_slate_blue dark_olive_green3 dark_sea_green light_sky_blue3 sky_blue2
   dark_sea_green3 dark_slate_gray3 sky_blue1 chartreuse1 light_green pale_green1 dark_slate_gray1
   red3 medium_violet_red magenta3 dark_orange3 indian_red hot_pink3 medium_orchid3 medium_orchid
   medium_purple2 dark_goldenrod light_salmon3 rosy_brown grey63 gray63 medium_purple1 gold3
   dark_khaki navajo_white3 grey69 gray69 light_steel_blue3 light_steel_blue yellow3
   dark_sea_green2 light_cyan3 light_sky_blue1 green_yellow dark_olive_green2 dark_sea_green1
   pale_turquoise1 deep_pink3 magenta2 hot_pink2 orchid medium_orchid1 orange3 light_pink3 pink3
   plum3 violet light_goldenrod3 tan misty_rose3 thistle3 plum2 khaki3 light_goldenrod2
   light_yellow3 grey84 gray84 light_steel_blue1 yellow2 dark_olive_green1 honeydew2 light_cyan1
   red1 deep_pink2 deep_pink1 magenta1 orange_red1 indian_red1 hot_pink dark_orange salmon1
   light_coral pale_violet_red1 orchid2 orchid1 orange1 sandy_brown light_salmon1 light_pink1
   pink1 plum1 gold1 navajo_white1 misty_rose1 thistle1 yellow1 light_goldenrod1 khaki1 wheat1
   cornsilk1 grey100 gray100 grey3 gray3 grey7 gray7 grey11 gray11 grey15 gray15 grey19 gray19
   grey23 gray23 grey27 gray27 grey30 gray30 grey35 gray35 grey39 gray39 grey42 gray42 grey46
   gray46 grey50 gray50 grey54 gray54 grey58 gray58 grey62 gray62 grey66 gray66 grey70 gray70
   grey74 gray74 grey78 gray78 grey82 gray82 grey85 gray85 grey89 gray89 grey93 gray93"

/-- The names of colours. -/
def colourNames : List String := (Text.words Text.isBlank colourTable.toList).map String.ofList

/-- What stands between an opening and a parenthesis at the end. -/
def inParentheses? (opening : String) (cs : List Char) : Option (List Char) :=
  let inside := cs.drop opening.length
  if opening.toList.isPrefixOf cs && inside.getLast? = some ')' then some inside.dropLast else none

/-- The numbers of a colour are three, none is missing and none is above 255. -/
def checkNumbers (numbers : List (List Char)) : Except StyleFault Unit :=
  if numbers.length ≠ 3 then .error .unknown
  else if numbers.any List.isEmpty then .error .missingNumber
  else if numbers.all fun n => (Text.natural? n).any (· ≤ 255) then .ok ()
  else .error .unknown

/-- The written form of a colour. -/
def colour (word : String) : Except StyleFault String :=
  let cs := Text.lower word.toList
  let plain := String.ofList cs
  let isColour (known : Bool) : Except StyleFault String :=
    if known then .ok plain else .error .unknown
  match cs, inParentheses? "color(" cs, inParentheses? "rgb(" cs with
  | '#' :: digits, _, _ =>
    isColour (digits.length = 6 && digits.all fun c => (Text.hexDigitValue? c).isSome)
  | _, some number, _ =>
    isColour (number.length ≤ 3 && number.all Char.isDigit &&
      (Text.natural? number).any (· ≤ 255))
  | _, _, some numbers =>
    if numbers ≠ [] ∧ numbers.all fun c => Text.isDigit c || c = ',' then do
      checkNumbers (Text.split ',' numbers)
      return plain
    else .error .unknown
  | _, _, _ => isColour (colourNames.contains plain)

/-- A style. -/
structure Style where
  /-- The attributes that it sets or refuses; of one that it names twice, the first entry counts. -/
  attributes : List (String × Bool) := []
  colour : Option String := none
  background : Option String := none
  link : Option String := none

namespace Style

/-- Adds what the words of a style say to a style. -/
def ofWords (s : Style) : List String → Except StyleFault Style
  | [] => .ok s
  | word :: words =>
    let plain := String.ofList (Text.lower word.toList)
    if plain = "on" then
      match words with
      | [] => .error .unknown
      | ground :: rest => do
        let c ← Terminal.colour ground
        ofWords { s with background := some c } rest
    else if plain = "not" then
      match words with
      | [] => .error .unknown
      | refused :: rest =>
        match attribute? refused with
        | some a => ofWords { s with attributes := (a, false) :: s.attributes } rest
        | none => .error .unknown
    else if plain = "link" then
      match words with
      | [] => .error .unknown
      | address :: rest => ofWords { s with link := some address } rest
    else
      match attribute? plain with
      | some a => ofWords { s with attributes := (a, true) :: s.attributes } words
      | none => do
        let c ← Terminal.colour plain
        ofWords { s with colour := some c } words

/-- The style that a text names. -/
def ofText (cs : List Char) : Except StyleFault Style :=
  let words := (Text.words Text.isBlank cs).map String.ofList
  if words = ["none"] then .ok {} else ofWords {} words

/-- The words of a style. -/
def words (s : Style) : List String :=
  Terminal.attributes.flatMap (fun a =>
    match s.attributes.lookup a with
    | some true => [a]
    | some false => ["not", a]
    | none => [])
  ++ s.colour.toList
  ++ s.background.toList.flatMap (fun c => ["on", c])
  ++ s.link.toList.flatMap (fun l => ["link", l])

/-- The written form of a style. -/
def written (s : Style) : String :=
  if s.words = [] then "none" else String.intercalate " " s.words

end Style

/-- The one form of the name of a style; a text that names none is only trimmed and put into lower
case. -/
def styleName (cs : List Char) : Except StyleFault (List Char) :=
  match Style.ofText cs with
  | .ok s => .ok s.written.toList
  | .error .unknown => .ok (Text.lower (Text.trim cs))
  | .error .missingNumber => .error .missingNumber

end Terminal
end ServiceCatalog
