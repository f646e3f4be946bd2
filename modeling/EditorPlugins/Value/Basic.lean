import EditorPlugins.Entries
import EditorPlugins.Number.Double
import EditorPlugins.Octets
import EditorPlugins.Value.Date

/-! # Dynamic values

Configuration, frontmatter and host documents are trees of values. A scalar can also be the key of
a map, a list or a map cannot. Maps keep the order of their entries. Two values are the `same` when
they mean the same thing: numbers are compared across their kinds, truth values counting as zero and
one, dates by the instant, and the order of a map does not matter.
-/

namespace EditorPlugins

open Number

/-- A value without parts. -/
inductive Scalar where
  | null
  | bool (value : Bool)
  | int (value : Int)
  | float (value : Double)
  | text (value : String)
  | bytes (value : Octets)
  | date (value : Date)
deriving DecidableEq

/-- A value: a scalar, a list, or a map in insertion order. -/
inductive Value where
  | scalar (value : Scalar)
  | list (items : List Value)
  | map (entries : List (Scalar × Value))

abbrev Mapping := Entries Scalar Value

namespace Value

@[match_pattern] abbrev null : Value := .scalar .null
@[match_pattern] abbrev bool (value : Bool) : Value := .scalar (.bool value)
@[match_pattern] abbrev int (value : Int) : Value := .scalar (.int value)
@[match_pattern] abbrev float (value : Double) : Value := .scalar (.float value)
@[match_pattern] abbrev text (value : String) : Value := .scalar (.text value)
@[match_pattern] abbrev date (value : Date) : Value := .scalar (.date value)

instance : Inhabited Value := ⟨null⟩

def text? : Value → Option String
  | text value => some value
  | _ => none

def list? : Value → Option (List Value)
  | list items => some items
  | _ => none

def map? : Value → Option Mapping
  | map entries => some entries
  | _ => none

/-- Whether a value counts as present: not null, false, zero or empty. -/
def isTruthy : Value → Bool
  | null => false
  | bool value => value
  | int value => value ≠ 0
  | float value => !(value.isFinite && value.significand = 0)
  | text value => value ≠ ""
  | .scalar (.bytes value) => !value.isEmpty
  | date _ => true
  | list items => !items.isEmpty
  | map entries => !entries.isEmpty

def texts (items : List String) : Value := list (items.map text)

end Value

namespace Mapping

def field? (entries : Mapping) (key : String) : Option Value := Entries.get? entries (.text key)

/-- Replace the value at a text key, or add it at the end. -/
def setField (entries : Mapping) (key : String) (value : Value) : Mapping :=
  Entries.set entries (.text key) value

/-- A map whose keys are texts. -/
def ofFields (fields : List (String × Value)) : Mapping :=
  fields.map fun (key, value) => (.text key, value)

end Mapping

namespace Scalar

/-- The number that a scalar stands for, truth values being zero and one. -/
def number? : Scalar → Option (Int ⊕ Double)
  | bool value => some (.inl (if value then 1 else 0))
  | int value => some (.inl value)
  | float value => some (.inr value)
  | _ => none

/-- Equality of numbers across kinds, of dates by the instant, and of other scalars as they are. -/
def same (x y : Scalar) : Bool :=
  match x.number?, y.number? with
  | some (.inl a), some (.inl b) => a = b
  | some (.inl a), some (.inr b) => b.toInt? = some a
  | some (.inr a), some (.inl b) => a.toInt? = some b
  | some (.inr a), some (.inr b) => a.sameValue b
  | none, none =>
    match x, y with
    | date a, date b => a.same b
    | x, y => x = y
  | _, _ => false

/-- Where a number stands among all numbers: below, among or above the finite ones, and there as a
fraction; what is not a number stands nowhere. -/
def standing? : Int ⊕ Double → Option (Int × Int × Nat)
  | .inl n => some (0, n, 1)
  | .inr x =>
    if x.isNaN then none
    else if !x.isFinite then some (if x.isNegative then -1 else 1, 0, 1)
    else some (0, signed x.isNegative x.ratio.1, x.ratio.2)

/-- Whether a number is less than another one, across kinds. -/
def numberBefore (a b : Int ⊕ Double) : Bool :=
  match standing? a, standing? b with
  | some (i, n, d), some (j, m, e) => i < j || (i = j && n * e < m * d)
  | _, _ => false

/-- Whether a scalar comes before another one. Scalars of one kind have an order, numbers being of
one kind; others have none. -/
def before? (x y : Scalar) : Option Bool :=
  match x.number?, y.number? with
  | some a, some b => some (numberBefore a b)
  | none, none =>
    match x, y with
    | text a, text b => some (decide (a < b))
    | date a, date b =>
      if a.isComparable b then some (decide (a.instant < b.instant)) else none
    | _, _ => none
  | _, _ => none

/-- Whether a scalar means the same as one of some others. -/
def isAmong (scalars : List Scalar) (x : Scalar) : Bool := scalars.any fun y => y.same x

/-- Some scalars without those that mean the same as an earlier one. -/
def distinct (scalars : List Scalar) : List Scalar :=
  scalars.foldl (fun kept x => if x.isAmong kept then kept else kept ++ [x]) []

end Scalar

namespace Mapping

/-- The value at a key that means the same as the given one. -/
def lookup? (entries : Mapping) (key : Scalar) : Option Value :=
  (entries.find? fun entry => entry.1.same key).map Prod.snd

/-- Set a key, taking keys that mean the same as one key with its first spelling. -/
def insert : Mapping → Scalar → Value → Mapping
  | [], key, value => [(key, value)]
  | (other, old) :: rest, key, value =>
    if other.same key then (other, value) :: rest else (other, old) :: insert rest key value

/-- The map that some pairs write one after another. -/
def ofPairs (pairs : List (Scalar × Value)) : Mapping :=
  pairs.foldl (fun written pair => insert written pair.1 pair.2) []

end Mapping

namespace Value

mutual

/-- Equality of meaning, whatever the order of maps. -/
def same : Value → Value → Bool
  | .scalar x, .scalar y => x.same y
  | .list xs, .list ys => sameItems xs ys
  | .map xs, .map ys => xs.length = ys.length && sameEntries xs ys
  | _, _ => false

def sameItems : List Value → List Value → Bool
  | [], [] => true
  | x :: xs, y :: ys => same x y && sameItems xs ys
  | _, _ => false

/-- Whether every entry has the same value at the same key of a second map. -/
def sameEntries : List (Scalar × Value) → List (Scalar × Value) → Bool
  | [], _ => true
  | (key, x) :: xs, ys =>
    (match Mapping.lookup? ys key with
      | some y => same x y
      | none => false) && sameEntries xs ys

end

mutual

/-- Whether every whole number in a value has decimal text within the limit. -/
def fits : Value → Bool
  | .scalar (.int n) => withinLimit n
  | .scalar _ => true
  | .list items => fitsItems items
  | .map entries => fitsEntries entries

/-- Whether every whole number in a list of values has decimal text within the limit. -/
def fitsItems : List Value → Bool
  | [] => true
  | item :: items => fits item && fitsItems items

/-- Whether every whole number in the entries of a map has decimal text within the limit. -/
def fitsEntries : List (Scalar × Value) → Bool
  | [] => true
  | (key, value) :: entries =>
    (match key with
      | .int n => withinLimit n
      | _ => true) && fits value && fitsEntries entries

end

end Value

end EditorPlugins
