import EditorPlugins.Number.Double
import EditorPlugins.Text.Basic

/-! # Numbers as people write them

A whole number in some base may have blanks around it, a sign, the mark of its base, and single
underscores between its digits. A number with a point may leave out the point, have an exponent, or
be one of the words for the special numbers. The digits of every script count.
-/

namespace EditorPlugins.Number

open Text

/-- The value of a digit of some base up to sixteen. -/
def baseDigit? (base : Nat) (c : Char) : Option Nat := (hexValue? c).filter (· < base)

/-- The digits of a text of digits with single underscores between them. -/
def underscored? (base : Nat) : List Char → Option (List Nat)
  | [] => none
  | [c] => (baseDigit? base c).map ([·])
  | c :: '_' :: cs => do return (← baseDigit? base c) :: (← underscored? base cs)
  | c :: cs => do return (← baseDigit? base c) :: (← underscored? base cs)

/-- The letter that marks a base behind a zero. -/
def baseMark? : (base : Nat) → Option Char
  | 2 => some 'b'
  | 8 => some 'o'
  | 16 => some 'x'
  | _ => none

/-- The digits of a number, whose optional mark one underscore may follow. -/
def markedDigits? (base : Nat) : List Char → Option (List Nat)
  | zero :: mark :: cs =>
    if digitValue? zero = some 0 && baseMark? base = some mark.toLower then
      match cs with
      | '_' :: cs => underscored? base cs
      | cs => underscored? base cs
    else underscored? base (zero :: mark :: cs)
  | cs => underscored? base cs

/-- Read a whole number in some base, with an optional sign and blanks around it. -/
def readBased? (base : Nat) (cs : List Char) : Option Int :=
  let (negative, unsigned) := splitSign (trimNumber cs)
  (markedDigits? base unsigned).map fun digits => signed negative (ofDigits base digits)

/-- The digits at the start of a text, of any script, as numbers, and the rest. -/
def splitDigits : List Char → List Nat × List Char
  | [] => ([], [])
  | c :: cs =>
    match digitValue? c with
    | some n =>
      let (digits, rest) := splitDigits cs
      (n :: digits, rest)
    | none => ([], c :: cs)

/-- The exponent that ends a number: a mark, an optional sign and digits. -/
def exponent? : List Char → Option Int
  | mark :: cs =>
    if mark = 'e' || mark = 'E' then
      let (negative, digits) := splitSign cs
      (digitsOnly? digits).map fun digits => signed negative (ofDigits 10 digits)
    else none
  | [] => none

/-- A fraction behind a point, if there is one, and the rest. -/
def splitFraction : List Char → List Nat × List Char
  | '.' :: cs => splitDigits cs
  | cs => ([], cs)

/-- Read a number with or without a point and an exponent, or the word for a special number, with
an optional sign and blanks around it. -/
def readDouble? (cs : List Char) : Option Double :=
  let (negative, unsigned) := splitSign (trimNumber cs)
  let word := lower unsigned
  if word = "inf".toList || word = "infinity".toList then some (Double.infinity negative)
  else if word = "nan".toList then some Double.nan
  else
    let (whole, rest) := splitDigits unsigned
    let (fraction, rest) := splitFraction rest
    if whole.isEmpty && fraction.isEmpty then none
    else
      let power? := if rest.isEmpty then some 0 else exponent? rest
      power?.map fun power =>
        Double.ofDecimal negative (whole ++ fraction) (power - fraction.length)

end EditorPlugins.Number
