import EditorPlugins.Number.Decimal

/-! # Binary floating-point numbers

A double is its sixty-four bits. A finite one is a whole significand times a power of two, and
`ofRatio` rounds an exact fraction to the nearest double, a tie to the even significand, so that
reading decimal text never goes through a rounded intermediate value.
-/

namespace EditorPlugins.Number

def twoTo (k : Nat) : Nat := Nat.pow 2 k

def tenTo (k : Nat) : Nat := Nat.pow 10 k

/-- A binary floating-point number of sixty-four bits, told apart by its bits. -/
structure Double where
  bits : UInt64
deriving DecidableEq, Repr

namespace Double

def isNegative (x : Double) : Bool := twoTo 63 ≤ x.bits.toNat

/-- The eleven bits of the exponent. -/
def exponentField (x : Double) : Nat := x.bits.toNat / twoTo 52 % twoTo 11

/-- The fifty-two bits below the exponent. -/
def fraction (x : Double) : Nat := x.bits.toNat % twoTo 52

/-- The numbers whose exponent field is not full are finite. -/
def isFinite (x : Double) : Bool := x.exponentField ≠ 2047

def isNaN (x : Double) : Bool := x.exponentField = 2047 && x.fraction ≠ 0

/-- The whole significand of a finite number. -/
def significand (x : Double) : Nat :=
  if x.exponentField = 0 then x.fraction else x.fraction + twoTo 52

/-- The power of two that goes with the significand of a finite number. -/
def power (x : Double) : Int :=
  if x.exponentField = 0 then -1074 else (x.exponentField : Int) - 1075

/-- A number from its sign and the bits below the sign. -/
def ofFields (negative : Bool) (magnitude : Nat) : Double :=
  ⟨UInt64.ofNat (if negative then twoTo 63 + magnitude else magnitude)⟩

def infinity (negative : Bool) : Double := ofFields negative (2047 * twoTo 52)

/-- The quiet value that is not a number. -/
def nan : Double := ofFields false (2047 * twoTo 52 + twoTo 51)

/-- Divide and round to the nearest whole number, a tie to the even one. -/
def roundDiv (num den : Nat) : Nat :=
  let quotient := num / den
  let twice := 2 * (num % den)
  if twice < den then quotient
  else if den < twice then quotient + 1
  else quotient + quotient % 2

/-- A fraction divided by a power of two, kept as a fraction. -/
def scaleDown (num den : Nat) : Int → Nat × Nat
  | .ofNat k => (num, den * twoTo k)
  | .negSucc k => (num * twoTo (k + 1), den)

/-- The power of two at which the significand of a positive fraction has fifty-three bits, but no
power below the least one. -/
def fitPower (num den : Nat) : Int :=
  let guess : Int := (num.log2 : Int) - (den.log2 : Int) - 52
  let (scaled, unit) := scaleDown num den guess
  max (if scaled / unit < twoTo 52 then guess - 1 else guess) (-1074)

/-- The double nearest to a fraction with a positive denominator. -/
def ofRatio (negative : Bool) (num den : Nat) : Double :=
  if num = 0 then ofFields negative 0
  else
    let power := fitPower num den
    let (scaled, unit) := scaleDown num den power
    let magnitude := (power + 1074).toNat * twoTo 52 + roundDiv scaled unit
    if 2047 * twoTo 52 ≤ magnitude then infinity negative else ofFields negative magnitude

/-- The double nearest to the number that some decimal digits and a power of ten write. Numbers far
outside the range are settled by their length alone. -/
def ofDecimal (negative : Bool) (digits : List Nat) (exponent : Int) : Double :=
  let significant := digits.dropWhile (· = 0)
  let length : Int := significant.length
  if significant.isEmpty || length + exponent < -400 then ofFields negative 0
  else if 400 < length + exponent then infinity negative
  else
    let n := Text.ofDigits 10 significant
    match exponent with
    | .ofNat k => ofRatio negative (n * tenTo k) 1
    | .negSucc k => ofRatio negative n (tenTo (k + 1))

/-- The whole number that a finite double equals, if it equals one. -/
def toInt? (x : Double) : Option Int :=
  if !x.isFinite then none
  else
    match x.power with
    | .ofNat k => some (signed x.isNegative (x.significand * twoTo k))
    | .negSucc k =>
      if x.significand % twoTo (k + 1) = 0 then
        some (signed x.isNegative (x.significand / twoTo (k + 1)))
      else none

/-- Equality of the numbers meant: the two zeros are one number, and no number is NaN. -/
def sameValue (x y : Double) : Bool :=
  !x.isNaN && !y.isNaN && (x = y || (x.isFinite && x.significand = 0 && y.isFinite &&
    y.significand = 0))

/-- The magnitude of a finite number as an exact fraction. -/
def ratio (x : Double) : Nat × Nat :=
  match x.power with
  | .ofNat k => (x.significand * twoTo k, 1)
  | .negSucc k => (x.significand, twoTo (k + 1))

def isZero (x : Double) : Bool := x.isFinite && x.significand = 0

/-- The sum, rounded. A sum of nothing is negative only when both numbers are. -/
def add (x y : Double) : Double :=
  if x.isNaN || y.isNaN then nan
  else if !x.isFinite then
    if !y.isFinite && x.isNegative ≠ y.isNegative then nan else x
  else if !y.isFinite then y
  else
    let (a, b) := x.ratio
    let (c, d) := y.ratio
    let sum := signed x.isNegative (a * d) + signed y.isNegative (c * b)
    if sum = 0 then ofFields (x.isNegative && y.isNegative) 0
    else ofRatio (sum < 0) sum.natAbs (b * d)

/-- The product, rounded. -/
def mul (x y : Double) : Double :=
  let negative := x.isNegative ≠ y.isNegative
  if x.isNaN || y.isNaN then nan
  else if !x.isFinite || !y.isFinite then
    if x.isZero || y.isZero then nan else infinity negative
  else
    let (a, b) := x.ratio
    let (c, d) := y.ratio
    ofRatio negative (a * c) (b * d)

/-- The double nearest to a whole number, if there is one. -/
def ofNat? (n : Nat) : Option Double :=
  let x := ofRatio false n 1
  if x.isFinite then some x else none

def negate (x : Double) : Double := ⟨x.bits ^^^ 0x8000000000000000⟩

end Double

end EditorPlugins.Number
