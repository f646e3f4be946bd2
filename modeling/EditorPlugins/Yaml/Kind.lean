import EditorPlugins.Text.Basic
import EditorPlugins.Value.Basic
import EditorPlugins.Yaml.Timestamp

/-! # Kinds of scalars

A plain scalar without a tag is of the kind that its text spells: a truth value, nothing, a whole
number in one of five notations, a number with a point, a date, or otherwise a text. A tag asks for
a kind whatever the text is.
-/

namespace EditorPlugins.Yaml

open Text Number

/-- What a node holds. -/
inductive Kind where
  | null
  | bool
  | int
  | float
  | date
  | binary
  | text
  | merge
  | default
  | list
  | map
  | set
  | omap
  | pairs
  | unknown
deriving DecidableEq, Repr

def trueWords : List String :=
  ["yes", "Yes", "YES", "true", "True", "TRUE", "on", "On", "ON"]

/-- The words for truth values that do not hold. -/
def falseWords : List String :=
  ["no", "No", "NO", "false", "False", "FALSE", "off", "Off", "OFF"]

def nullWords : List String := ["~", "null", "Null", "NULL", ""]

def infinityWords : List String := [".inf", ".Inf", ".INF"]

def nanWords : List String := [".nan", ".NaN", ".NAN"]

/-- Digits, or underscores between and after them. -/
def isDigitOrLine (c : Char) : Bool := c.isDigit || c == '_'

/-- A digit followed by digits and underscores. -/
def isWhole (cs : List Char) : Bool := cs.head?.any Char.isDigit && cs.all isDigitOrLine

/-- A whole number in base sixty below sixty, of one or two digits. -/
def isSixtieth (cs : List Char) : Bool :=
  match cs with
  | [a] => a.isDigit
  | [a, b] => '0' ≤ a && a ≤ '5' && b.isDigit
  | _ => false

/-- The pieces of a number in base sixty: a whole number, and at least one piece below sixty. -/
def isSexagesimal (cs : List Char) : Bool :=
  match pieces ':' cs with
  | first :: second :: rest => isWhole first && (second :: rest).all isSixtieth
  | _ => false

/-- The mark, sign and digits of an exponent, or nothing. -/
def isExponent (cs : List Char) : Bool :=
  match cs with
  | [] => true
  | mark :: sign :: digits =>
    (mark == 'e' || mark == 'E') && (sign == '+' || sign == '-') && !digits.isEmpty &&
      digits.all Char.isDigit
  | _ => false

/-- Whether an unsigned text spells a whole number. -/
def spellsInt (cs : List Char) : Bool :=
  match cs with
  | '0' :: 'b' :: digits =>
    !digits.isEmpty && digits.all fun c => c == '0' || c == '1' || c == '_'
  | '0' :: 'x' :: digits =>
    !digits.isEmpty && digits.all fun c => c == '_' || (c.toNat < 0x80 && (hexValue? c).isSome)
  | '0' :: digits => digits.all fun c => ('0' ≤ c && c ≤ '7') || c == '_'
  | cs => isWhole cs || isSexagesimal cs

/-- Whether a text spells a number with a point. -/
def spellsFloat (cs : List Char) : Bool :=
  let (_, unsigned) := splitSign cs
  let word := String.ofList unsigned
  infinityWords.contains word || nanWords.contains (String.ofList cs) ||
    match cutAt '.' unsigned with
    | (_, none) => false
    | (whole, some after) =>
      let exponent := after.dropWhile isDigitOrLine
      if whole.isEmpty then
        cs.head? = some '.' && after.head?.any Char.isDigit && isExponent exponent
      else if isWhole whole then isExponent exponent
      else isSexagesimal whole && exponent.isEmpty

namespace Kind

def ofText (text : String) : Kind :=
  let cs := text.toList
  if trueWords.contains text || falseWords.contains text then .bool
  else if nullWords.contains text then .null
  else if spellsFloat cs then .float
  else if spellsInt (splitSign cs).2 then .int
  else if text = "<<" then .merge
  else if text = "=" then .default
  else if text = "!" || text = "&" || text = "*" then .unknown
  else if (writtenDate? cs).isSome then .date
  else .text

/-- The kind that a text spells which is marked to be taken as a plain one. Such a text may end in a
feed, which does not count. -/
def ofMarked (text : String) : Kind :=
  if text = "\n" then .text else ofText (String.ofList (withoutFeed text.toList))

def isCollection (kind : Kind) : Bool :=
  match kind with
  | .list | .map | .set | .omap | .pairs => true
  | _ => false

/-- The kind that a tag names; of an unknown kind there is no value. -/
def ofTag (tag : String) : Kind :=
  match tag with
  | "tag:yaml.org,2002:null" => .null
  | "tag:yaml.org,2002:bool" => .bool
  | "tag:yaml.org,2002:int" => .int
  | "tag:yaml.org,2002:float" => .float
  | "tag:yaml.org,2002:timestamp" => .date
  | "tag:yaml.org,2002:binary" => .binary
  | "tag:yaml.org,2002:str" => .text
  | "tag:yaml.org,2002:merge" => .merge
  | "tag:yaml.org,2002:value" => .default
  | "tag:yaml.org,2002:seq" => .list
  | "tag:yaml.org,2002:map" => .map
  | "tag:yaml.org,2002:set" => .set
  | "tag:yaml.org,2002:omap" => .omap
  | "tag:yaml.org,2002:pairs" => .pairs
  | _ => .unknown

end Kind

end EditorPlugins.Yaml
