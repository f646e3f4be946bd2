import EditorPlugins.Number.Decimal
import EditorPlugins.Text.Basic
import EditorPlugins.Text.Case
import EditorPlugins.Text.Digit

/-! # Colors of console text

A color is named, numbered, or mixed from three components in hexadecimal or decimal digits. Colors
are compared by their text in lower case, so two spellings of one mixture are two colors.
-/

namespace EditorPlugins.CommandLine

open Text

/-- Why a style cannot be read. -/
inductive StyleFault where
  /-- The text describes no style; it is then the name of one that is not known. -/
  | unknown
  /-- A component of a color is empty or far too long; nothing that asks for it can be shown. -/
  | unreadable
deriving DecidableEq, Repr

namespace Color

def namedColors : List (List Char) := words ("default
  aquamarine1 aquamarine3 black blue blue1 blue3 blue_violet bright_black bright_blue bright_cyan
  bright_green bright_magenta bright_red bright_white bright_yellow cadet_blue chartreuse1
  chartreuse2 chartreuse3 chartreuse4 cornflower_blue cornsilk1 cyan cyan1 cyan2 cyan3 dark_blue
  dark_cyan dark_goldenrod dark_green dark_khaki dark_magenta dark_olive_green1 dark_olive_green2
  dark_olive_green3 dark_orange dark_orange3 dark_red dark_sea_green dark_sea_green1
  dark_sea_green2 dark_sea_green3 dark_sea_green4 dark_slate_gray1 dark_slate_gray2
  dark_slate_gray3 dark_turquoise dark_violet deep_pink1 deep_pink2 deep_pink3 deep_pink4
  deep_sky_blue1 deep_sky_blue2 deep_sky_blue3 deep_sky_blue4 dodger_blue1 dodger_blue2
  dodger_blue3 gold1 gold3 gray0 gray100 gray11 gray15 gray19 gray23 gray27 gray3 gray30 gray35
  gray37 gray39 gray42 gray46 gray50 gray53 gray54 gray58 gray62 gray63 gray66 gray69 gray7 gray70
  gray74 gray78 gray82 gray84 gray85 gray89 gray93 green green1 green3 green4 green_yellow grey0
  grey100 grey11 grey15 grey19 grey23 grey27 grey3 grey30 grey35 grey37 grey39 grey42 grey46
  grey50 grey53 grey54 grey58 grey62 grey63 grey66 grey69 grey7 grey70 grey74 grey78 grey82 grey84
  grey85 grey89 grey93 honeydew2 hot_pink hot_pink2 hot_pink3 indian_red indian_red1 khaki1 khaki3
  light_coral light_cyan1 light_cyan3 light_goldenrod1 light_goldenrod2 light_goldenrod3
  light_green light_pink1 light_pink3 light_pink4 light_salmon1 light_salmon3 light_sea_green
  light_sky_blue1 light_sky_blue3 light_slate_blue light_slate_gray light_slate_grey
  light_steel_blue light_steel_blue1 light_steel_blue3 light_yellow3 magenta magenta1 magenta2
  magenta3 medium_orchid medium_orchid1 medium_orchid3 medium_purple medium_purple1 medium_purple2
  medium_purple3 medium_purple4 medium_spring_green medium_turquoise medium_violet_red misty_rose1
  misty_rose3 navajo_white1 navajo_white3 navy_blue orange1 orange3 orange4 orange_red1 orchid
  orchid1 orchid2 pale_green1 pale_green3 pale_turquoise1 pale_turquoise4 pale_violet_red1 pink1
  pink3 plum1 plum2 plum3 plum4 purple purple3 purple4 red red1 red3 rosy_brown royal_blue1
  salmon1 sandy_brown sea_green1 sea_green2 sea_green3 sky_blue1 sky_blue2 sky_blue3 slate_blue1
  slate_blue3 spring_green1 spring_green2 spring_green3 spring_green4 steel_blue steel_blue1
  steel_blue3 tan thistle1 thistle3 turquoise2 turquoise4 violet wheat1 wheat4 white yellow
  yellow1 yellow2 yellow3 yellow4").toList

def between? (opening closing text : List Char) : Option (List Char) :=
  if opening.isPrefixOf text && closing.isSuffixOf text &&
      opening.length + closing.length ≤ text.length then
    some ((text.drop opening.length).take (text.length - opening.length - closing.length))
  else none

/-- Whether a character is a decimal digit of ASCII. -/
def isPlainDigit (c : Char) : Bool := '0' ≤ c && c ≤ '9'

def decimalValue (digits : List Char) : Nat := ofDigits 10 (digits.filterMap digitValue?)

/-- Whether a text gives the components of a color by two hexadecimal digits each. -/
def isHexColor (text : List Char) : Bool :=
  match text with
  | '#' :: digits =>
    digits.length = 6 && digits.all fun c => isPlainDigit c || ('a' ≤ c && c ≤ 'f')
  | _ => false

/-- Whether a text gives a color by its number, from 0 to 255. -/
def isNumbered (text : List Char) : Bool :=
  match between? "color(".toList [')'] text with
  | some digits =>
    1 ≤ digits.length && digits.length ≤ 3 && digits.all isPlainDigit && decimalValue digits ≤ 255
  | none => false

/-- The components of a color that gives them by decimal numbers. -/
def components? (text : List Char) : Option (List (List Char)) :=
  match between? "rgb(".toList [')'] text with
  | some inner =>
    let components := pieces ',' inner
    if components.length = 3 && inner.all fun c => isDigit c || c = ',' then some components
    else none
  | none => none

/-- The name of the color that a word describes. -/
def read (word : List Char) : Except StyleFault (List Char) :=
  let name := lowerCase word
  if namedColors.contains name || isHexColor name || isNumbered name then .ok name
  else
    match components? name with
    | none => .error .unknown
    | some components =>
      if components.any fun digits => digits.isEmpty || Number.digitLimit < digits.length then
        .error .unreadable
      else if components.all fun digits => decimalValue digits ≤ 255 then .ok name
      else .error .unknown

end Color

end EditorPlugins.CommandLine
