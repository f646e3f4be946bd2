import EditorPlugins.Number.Shortest
import EditorPlugins.Text.Quoted
import EditorPlugins.Text.Basic
import EditorPlugins.Value.Basic

/-! # Values as display text

The literal of a value is unambiguous: texts are quoted, lists stand in brackets and maps in
braces. Its display text differs for a text, which stands for itself, and for a date. Whole numbers
with too many digits have neither; the check is made once for the whole value, so that the printers
themselves are total.
-/

namespace EditorPlugins

open Number

/-- The spellings of the special numbers in display text. -/
def displayNames : SpecialNames := ⟨"nan", "inf"⟩

namespace Scalar

def literal : Scalar → String
  | null => "None"
  | bool true => "True"
  | bool false => "False"
  | int value => intText value
  | float value => value.text displayNames
  | text value => Text.literal value
  | bytes value => Text.literalOctets value
  | date value => value.literal

def kindName : Scalar → String
  | null => "NoneType"
  | bool _ => "bool"
  | int _ => "int"
  | float _ => "float"
  | text _ => "str"
  | bytes _ => "bytes"
  | date value => if value.time.isSome then "datetime.datetime" else "datetime.date"

/-- The display text of a scalar: its literal, but texts and dates stand for themselves. -/
def display : Scalar → String
  | text value => value
  | date value => value.textWith " "
  | other => other.literal

end Scalar

namespace Value

mutual

/-- The literal of a value, whatever the length of its numbers. -/
def literalText : Value → String
  | .scalar value => value.literal
  | .list items => "[" ++ Text.join ", " (literalItems items) ++ "]"
  | .map entries => "\x7b" ++ Text.join ", " (literalEntries entries) ++ "\x7d"

def literalItems : List Value → List String
  | [] => []
  | item :: items => literalText item :: literalItems items

def literalEntries : List (Scalar × Value) → List String
  | [] => []
  | (key, value) :: entries =>
    (key.literal ++ ": " ++ literalText value) :: literalEntries entries

end

/-- Refuse a value that holds a whole number with too many digits. -/
def guardDigits (value : Value) : Except ConversionError Unit :=
  if value.fits then .ok () else .error .valueTooLarge

def literal (value : Value) : Except ConversionError String := do
  value.guardDigits
  return value.literalText

def display (value : Value) : Except ConversionError String := do
  value.guardDigits
  match value with
  | .scalar leaf => return leaf.display
  | other => return other.literalText

end Value

end EditorPlugins
