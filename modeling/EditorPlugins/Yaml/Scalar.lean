import EditorPlugins.Number.Literal
import EditorPlugins.Text.Base64
import EditorPlugins.Text.Case
import EditorPlugins.Yaml.Kind

/-! # Values of scalars

A scalar of some kind has the value that its text writes. A text that spells its kind by itself has
one, unless it is a date that cannot be or a number that is too long. A text whose kind was asked
for by a tag may be anything, and is refused where it writes no such value.
-/

namespace EditorPlugins.Yaml

open Text Number

/-- The wording of a refusal of a whole number, which shows no more than two hundred characters. -/
def badWhole (base : Nat) (cs : List Char) : String :=
  "invalid literal for int() with base " ++ natText base ++ ": " ++
    String.ofList ((literal (String.ofList cs)).toList.take 200)

/-- The whole number that a text writes in a base that is a power of two. -/
def basedNumber (base : Nat) (cs : List Char) : Read Int :=
  match readBased? base cs with
  | some n => .ok n
  | none => .error (.value (badWhole base cs))

/-- The whole number that decimal digits write. Their limit is looked at before whatever stands
behind them. -/
def decimalNumber (cs : List Char) : Read Int :=
  let (negative, unsigned) := splitSign (trimNumber cs)
  let (digits, rest) := splitDigits unsigned
  match readNat digits with
  | .error cause => .error (.number cause)
  | .ok n =>
    if digits.isEmpty || !rest.isEmpty then .error (.value (badWhole 10 cs))
    else .ok (signed negative n)

/-- The value of an unsigned whole number without underscores: in one of three marked bases, in base
sixty, or in base ten. -/
def unsignedWhole (cs : List Char) : Read Int :=
  match cs with
  | [] => .error (.refused .emptyNumber)
  | ['0'] => .ok 0
  | '0' :: 'b' :: digits => basedNumber 2 digits
  | '0' :: 'x' :: digits => basedNumber 16 digits
  | '0' :: digits => basedNumber 8 ('0' :: digits)
  | cs =>
    if cs.contains ':' then
      ((pieces ':' cs).mapM decimalNumber).map fun parts =>
        parts.foldl (fun value part => 60 * value + part) 0
    else decimalNumber cs

def wholeValue (cs : List Char) : Read Int :=
  let (negative, unsigned) := splitSign (cs.filter (· ≠ '_'))
  (unsignedWhole unsigned).map fun n => if negative then -n else n

/-- The value of a number with a point, or of a whole one that is taken for such a number. -/
def realNumber (cs : List Char) : Read Double :=
  match readDouble? cs with
  | some x => .ok x
  | none =>
    .error (.value ("could not convert string to float: " ++ literal (String.ofList cs)))

/-- The sum of the parts of a number in base sixty, the last part first; every step is rounded. -/
def sumSixties (unit : Nat) (sum : Double) : List Double → Read Double
  | [] => .ok sum
  | part :: parts =>
    match Double.ofNat? unit with
    | none => .error (.refused (.tooLarge "int too large to convert to float"))
    | some factor => sumSixties (60 * unit) (sum.add (part.mul factor)) parts

/-- The value of an unsigned number with a point and without underscores, in lower case. -/
def unsignedReal (cs : List Char) : Read Double :=
  if cs = ".inf".toList then .ok (Double.infinity false)
  else if cs = ".nan".toList then .ok Double.nan
  else if cs.contains ':' then do
    let parts ← (pieces ':' cs).mapM realNumber
    sumSixties 1 (Double.ofFields false 0) parts.reverse
  else realNumber cs

def realValue (cs : List Char) : Read Double :=
  let cs := lowerCase (cs.filter (· ≠ '_'))
  let (negative, unsigned) := splitSign cs
  if cs.isEmpty then .error (.refused .emptyNumber)
  else
    (unsignedReal unsigned).map fun x => if negative && !x.isNaN then x.negate else x

/-- The truth value of a word, in letters of any case. A word that is refused is shown in lower
case. -/
def truthValue (cs : List Char) : Read Bool :=
  let folded := String.ofList (lower cs)
  if trueWords.contains folded then .ok true
  else if falseWords.contains folded then .ok false
  else .error (.refused (.notTruth (String.ofList (lowerCase cs))))

/-- The octets that a text of ASCII characters writes. -/
def binaryValue (cs : List Char) : Read Octets :=
  match if cs.all fun c => c.toNat < 0x80 then Base64.decode? cs else none with
  | some octets => .ok octets
  | none => .error .malformed

/-- The date that a text writes, which has to be on the calendar. -/
def dateValue (cs : List Char) : Read Date :=
  match askedDate? cs with
  | some date => checkedDate date
  | none => .error (.refused .notDate)

def scalarValue (kind : Kind) (text : String) : Read Scalar :=
  match kind with
  | .null => .ok .null
  | .text => .ok (.text text)
  | .bool => (truthValue text.toList).map Scalar.bool
  | .int => (wholeValue text.toList).map Scalar.int
  | .float => (realValue text.toList).map Scalar.float
  | .date => (dateValue text.toList).map Scalar.date
  | .binary => (binaryValue text.toList).map Scalar.bytes
  | _ => .error .malformed

end EditorPlugins.Yaml
