import EditorPlugins.Number.Decimal
import EditorPlugins.Text.Basic

/-! # Whole numbers in settings

People write whole numbers in many ways. The strict form is an optional minus and digits without
leading zeros, and a text that is too long in this form is refused at once. Any other text is
cleaned first: of a plus, of zeros behind its point, of leading zeros with the underscores among
them, also behind a minus, and of single underscores. What is left must have the strict form.
-/

namespace EditorPlugins.Config

open Text Number

/-- Why a text is no whole number. -/
inductive WholeFault where
  | unreadable
  | tooLong
deriving DecidableEq, Repr

/-- A whole number in the strict form. The limit counts the digits, and is looked at before whatever
stands behind them. -/
def readStrictWhole (cs : List Char) : Except WholeFault Int :=
  let negative := cs.head? = some '-'
  let unsigned := if negative then cs.tail else cs
  let digits := unsigned.takeWhile Char.isDigit
  let rest := unsigned.dropWhile Char.isDigit
  if digits = ['0'] then
    if rest.isEmpty then .ok 0 else .error .unreadable
  else if digits.isEmpty || digits.head? = some '0' then .error .unreadable
  else if digitLimit < digits.length then .error .tooLong
  else if rest.isEmpty then
    .ok (signed negative (ofDigits 10 (digits.filterMap digitValue?)))
  else .error .unreadable

/-- A number without the plus in front of it; a minus must not follow. -/
def withoutPlus? : List Char → Option (List Char)
  | '+' :: '-' :: _ => none
  | '+' :: cs => some cs
  | cs => some cs

/-- A number without the zeros behind its point, if nothing but zeros stand there. -/
def withoutZeroFraction (cs : List Char) : List Char :=
  match cutAt '.' cs with
  | (whole, some zeros) => if !zeros.isEmpty && zeros.all (· = '0') then whole else cs
  | (_, none) => cs

/-- Whether a number may begin with a character. -/
def beginsWhole (c : Char) : Bool := c.isDigit || c = '-'

/-- A number without its leading zeros and the underscores among them. The last of them stays when
nothing follows; otherwise a number has to begin there. -/
def withoutLeadingZeros? : List Char → Option (List Char)
  | [] => none
  | first :: cs =>
    if first = '0' then
      match cs.dropWhile fun c => c = '0' || c = '_' with
      | [] => some [(first :: cs).getLast (List.cons_ne_nil first cs)]
      | c :: rest => if beginsWhole c then some (c :: rest) else none
    else if beginsWhole first then some (first :: cs) else none

/-- Whether no underscore is the first, the last, or next to another one. -/
def underscoresFit : List Char → Bool
  | [] => true
  | '_' :: _ => false
  | [_] => true
  | _ :: '_' :: rest => rest ≠ [] && underscoresFit rest
  | _ :: rest => underscoresFit rest

/-- A number without its underscores, if each of them stands alone between other characters. -/
def withoutUnderscores (cs : List Char) : List Char :=
  if underscoresFit cs then cs.filter (· ≠ '_') else cs

/-- A number without a sign, cleaned of what people add to its strict form. -/
def cleanUnsigned? (cs : List Char) : Option (List Char) :=
  (withoutLeadingZeros? (withoutZeroFraction cs)).map withoutUnderscores

/-- A number cleaned of what people add to its strict form; a minus stays in front. -/
def cleanWhole? (cs : List Char) : Option (List Char) :=
  match withoutPlus? cs with
  | none => none
  | some ('-' :: unsigned) => (cleanUnsigned? unsigned).map ('-' :: ·)
  | some unsigned => cleanUnsigned? unsigned

/-- A whole number that has to be cleaned. -/
def readLooseWhole (cs : List Char) : Except WholeFault Int :=
  match (cleanWhole? cs).map readStrictWhole with
  | some (.ok n) => .ok n
  | _ => .error .unreadable

/-- A whole number, with blanks around it. -/
def readWhole (text : String) : Except WholeFault Int :=
  let trimmed := trimNumber text.toList
  match readStrictWhole trimmed with
  | .error .unreadable => readLooseWhole trimmed
  | outcome => outcome

end EditorPlugins.Config
