import EditorPlugins.Text.Digit

/-! # Whole numbers as decimal text

Whole numbers have no bound, but their decimal text has: a conversion in either direction that
would pass `digitLimit` digits is refused. Reading accepts the digits of every script and counts
leading zeros against the limit; writing uses ASCII digits without leading zeros.
-/

namespace EditorPlugins.Number

open Text

/-- The greatest count of decimal digits that is converted. -/
def digitLimit : Nat := 4300

/-- Why a conversion between a whole number and its decimal text is refused. -/
inductive ConversionError where
  | tooManyDigits (count : Nat)
  | valueTooLarge
deriving DecidableEq, Repr

/-- Write the digits of a number in front of those already written. -/
def pushDigits (n : Nat) (written : List Char) : List Char :=
  if n < 10 then digitChar n :: written
  else pushDigits (n / 10) (digitChar (n % 10) :: written)
termination_by n
decreasing_by omega

/-- The decimal digits of a number; zero has one. -/
def natDigits (n : Nat) : List Char := pushDigits n []

/-- The decimal text of a number, of any length. -/
def natText (n : Nat) : String := String.ofList (natDigits n)

namespace ConversionError

/-- A refusal names the limit, and the count of digits where it is known. -/
def message : ConversionError → String
  | tooManyDigits count =>
    "Exceeds the limit (4300 digits) for integer string conversion: value has " ++ natText count ++
      " digits; use sys.set_int_max_str_digits() to increase the limit"
  | valueTooLarge =>
    "Exceeds the limit (4300 digits) for integer string conversion; " ++
      "use sys.set_int_max_str_digits() to increase the limit"

end ConversionError

/-- The decimal text of a whole number; only negative numbers carry a sign. -/
def intDigits : Int → List Char
  | .ofNat n => natDigits n
  | .negSucc n => '-' :: natDigits (n + 1)

/-- The decimal text of a whole number, of any length. -/
def intText (n : Int) : String := String.ofList (intDigits n)

/-- Whether the decimal text of a whole number stays within the limit. -/
def withinLimit (n : Int) : Bool := (natDigits n.natAbs).length ≤ digitLimit

/-- The number written by some digits, if there are not too many of them. -/
def readNat (digits : List Nat) : Except ConversionError Nat :=
  if digits.length ≤ digitLimit then .ok (ofDigits 10 digits)
  else .error (.tooManyDigits digits.length)

/-- The digits of a text that holds nothing but digits, and at least one. -/
def digitsOnly? (cs : List Char) : Option (List Nat) :=
  if cs.isEmpty then none else cs.mapM digitValue?

/-- A sign in front of a number: whether it is a minus, and what follows it. -/
def splitSign : List Char → Bool × List Char
  | '-' :: cs => (true, cs)
  | '+' :: cs => (false, cs)
  | cs => (false, cs)

/-- Give a number its sign. -/
def signed (negative : Bool) (n : Nat) : Int := if negative then -(n : Int) else n

/-- Read an optional sign and decimal digits; `none` when the text is no such number. -/
def readInt? (cs : List Char) : Option (Except ConversionError Int) :=
  let (negative, rest) := splitSign cs
  (digitsOnly? rest).map fun digits => (readNat digits).map (signed negative)

end EditorPlugins.Number
