import EditorPlugins.Number.Double
import EditorPlugins.Text.Basic

/-! # Shortest decimal text of a double

The text of a finite double has the fewest digits that read back as the same double, and among the
numbers with so few digits it is the nearest. Digits are found on decimal grids of one, two, … up
to seventeen digits in exact arithmetic: the first grid with a point that rounds to the double
wins. `layout` then decides where the point goes.
-/

namespace EditorPlugins.Number

/-- A positive decimal number with `digits` as its significand, times a power of ten. -/
structure Grid where
  digits : Nat
  exponent : Int
deriving DecidableEq, Repr

namespace Double

/-- A positive finite double measured in quarters of its last place: its lower bound, its value and
its upper bound. Every number strictly between the bounds rounds to it. -/
def quarters (x : Double) : Nat × Nat × Nat :=
  let m := x.significand
  let lower := if m = twoTo 52 && 1 < x.exponentField then 4 * m - 1 else 4 * m - 2
  (lower, 4 * m, 4 * m + 2)

/-- Numbers of the form `n · 2^two` and `k · 10^ten` on a common scale. -/
def onScale (two ten : Int) (n k : Nat) : Nat × Nat :=
  (n * twoTo two.toNat * tenTo (-ten).toNat, k * tenTo ten.toNat * twoTo (-two).toNat)

/-- Whether a decimal number rounds to the double; the bounds do when the significand is even. -/
def readsBack (x : Double) (k : Nat) (ten : Int) : Bool :=
  let (lower, _, upper) := x.quarters
  let two := x.power - 2
  let (low, point) := onScale two ten lower k
  let (high, _) := onScale two ten upper k
  if x.significand % 2 = 0 then low ≤ point && point ≤ high else low < point && point < high

/-- The greatest multiple of `10^ten` that is not above the double, as a count. -/
def floorOn (x : Double) (ten : Int) : Nat :=
  let (value, unit) := onScale x.power ten x.significand 1
  value / unit

/-- Of the multiples of `10^ten` on both sides of the double, the nearest that reads back; a tie
goes to the even one. -/
def pointOn? (x : Double) (ten : Int) : Option Nat :=
  let below := x.floorOn ten
  let above := below + 1
  match x.readsBack below ten, x.readsBack above ten with
  | false, false => none
  | true, false => some below
  | false, true => some above
  | true, true =>
    let (value, unit) := onScale x.power ten x.significand 1
    let twice := 2 * (value % unit)
    if twice < unit then some below
    else if unit < twice then some above
    else some (below + below % 2)

/-- The power of ten of the first digit of a positive double, searched upward from a bound. -/
def leadingPower (x : Double) : (steps : Nat) → Int → Int
  | 0, ten => ten
  | steps + 1, ten => if x.floorOn (ten + 1) = 0 then ten else leadingPower x steps (ten + 1)

/-- Try grids of `count` and more digits. -/
def searchGrid (x : Double) (leading : Int) : (steps count : Nat) → Grid
  | 0, count => ⟨x.floorOn (leading - count + 1), leading - count + 1⟩
  | steps + 1, count =>
    let ten := leading - count + 1
    match x.pointOn? ten with
    | some k => ⟨k, ten⟩
    | none => searchGrid x leading steps (count + 1)

/-- The shortest decimal number that reads back as a positive finite double. -/
def shortest (x : Double) : Grid :=
  let bits : Int := (x.significand.log2 : Int) + x.power
  let start : Int := bits * 30103 / 100000 - 1
  searchGrid x (leadingPower x 4 start) 17 1

/-- Digits without the zeros at their end. -/
def significantDigits (digits : List Char) : List Char :=
  match Text.dropEndWhile (· = '0') digits with
  | [] => ['0']
  | kept => kept

end Double

/-- How the digits of a decimal number are laid out. Numbers from `10^low` to below `10^high` are
written with their point in place, all others with an exponent of at least `exponentWidth` digits.
-/
structure Layout where
  low : Int
  high : Int
  exponentWidth : Nat

namespace Layout

/-- Digits with the point after the first `place` of them, or with zeros up to the point. -/
def positional (digits : List Char) (place : Int) : List Char :=
  if place ≤ 0 then '0' :: '.' :: List.replicate (-place).toNat '0' ++ digits
  else
    let place := place.toNat
    if digits.length ≤ place then
      digits ++ List.replicate (place - digits.length) '0' ++ ['.', '0']
    else digits.take place ++ '.' :: digits.drop place

/-- Digits with one before the point, and the power of ten of that digit. -/
def scientific (layout : Layout) (digits : List Char) (leading : Int) : List Char :=
  let significand :=
    match digits with
    | [] => []
    | [digit] => [digit]
    | digit :: rest => digit :: '.' :: rest
  let exponent := natDigits leading.natAbs
  let padded := List.replicate (layout.exponentWidth - exponent.length) '0' ++ exponent
  significand ++ 'e' :: (if leading < 0 then '-' else '+') :: padded

def write (layout : Layout) (grid : Grid) : List Char :=
  let all := natDigits grid.digits
  let leading : Int := grid.exponent + all.length - 1
  let digits := Double.significantDigits all
  if layout.low ≤ leading && leading < layout.high then positional digits (leading + 1)
  else layout.scientific digits leading

end Layout

/-- Values show a point from a ten-thousandth up to below ten to the sixteenth, and an exponent of
two digits or more elsewhere. -/
def valueLayout : Layout := ⟨-4, 16, 2⟩

/-- The spellings of the numbers that have no digits. -/
structure SpecialNames where
  nan : String
  infinity : String

namespace Double

/-- The text of a double: a sign, then digits or one of the special names. -/
def text (x : Double) (names : SpecialNames) : String :=
  if x.isNaN then names.nan
  else
    let magnitude :=
      if !x.isFinite then names.infinity.toList
      else if x.significand = 0 then ['0', '.', '0']
      else valueLayout.write x.shortest
    String.ofList (if x.isNegative then '-' :: magnitude else magnitude)

end Double

end EditorPlugins.Number
