import EditorPlugins.Config.Issue
import EditorPlugins.Config.Whole
import EditorPlugins.Text.Utf8

/-! # Checks of single values

A check turns a value into what a field holds, or says what is wrong with it. Octets count as the
text that they encode, and no other values are turned into texts. Whole numbers are accepted as
numbers without a fraction, as truth values, and as texts.
-/

namespace EditorPlugins.Config

open Text Number

/-- A text, or octets that are one. -/
def checkText : Value → Checked String
  | .text text => .ok text
  | .scalar (.bytes bytes) =>
    match Utf8.decode bytes with
    | .ok text => .ok text
    | .error _ => Checked.fail .badText
  | _ => Checked.fail .notText

def checkTexts : Value → Checked (List String)
  | .list items =>
    Checked.all <| items.zipIdx.map fun (item, n) => (checkText item).under (.index (Int.ofNat n))
  | _ => Checked.fail .notList

/-- A key, which must be a text. -/
def checkKey (key : Scalar) : Checked String :=
  ((checkText (.scalar key)).under keyMark).under (keyStep key)

def checkMap {α : Type} (check : Value → Checked α) : Value → Checked (Entries String α)
  | .map entries =>
    (Checked.all <| entries.map fun (key, value) =>
      (checkKey key).both ((check value).under (keyStep key))).map Entries.ofPairs
  | _ => Checked.fail .notMap

def checkAnyMap : Value → Checked (Entries String Value) := checkMap Except.ok

def checkOptional {α : Type} (check : Value → Checked α) : Value → Checked (Option α)
  | .null => .ok none
  | value => (check value).map some

def checkWholeText (text : String) : Checked Int :=
  match readWhole text with
  | .ok n => .ok n
  | .error .unreadable => Checked.fail .unreadableWhole
  | .error .tooLong => Checked.fail .wholeOutOfRange

/-- A whole number of sixty-four bits written with a point. -/
def checkWholeFloat (x : Double) : Checked Int :=
  if !x.isFinite then Checked.fail .notFinite
  else
    match x.toInt? with
    | none => Checked.fail .fractional
    | some n => if n.natAbs < twoTo 63 then .ok n else Checked.fail .wholeOutOfRange

def checkWhole : Value → Checked Int
  | .int n => .ok n
  | .bool b => .ok (if b then 1 else 0)
  | .float x => checkWholeFloat x
  | .text text => checkWholeText text
  | .scalar (.bytes bytes) =>
    match Utf8.decode bytes with
    | .ok text => checkWholeText text
    | .error _ => Checked.fail .unreadableWhole
  | _ => Checked.fail .notWhole

/-- Accept only what satisfies a condition, for a reason. -/
def require {α : Type} (holds : α → Bool) (reason : String) (checked : Checked α) : Checked α :=
  match checked with
  | .ok value => if holds value then .ok value else Checked.fail (.refused reason)
  | .error issues => .error issues

def checkRecord {α : Type} (check : Mapping → Checked α) : Value → Checked α
  | .map entries => check entries
  | _ => Checked.fail .notRecord

/-- The first of some names that a record has, with its value. -/
def firstField? (entries : Mapping) (names : List String) : Option (String × Value) :=
  names.findSome? fun name => (Mapping.field? entries name).map fun value => (name, value)

/-- A field that may be left out, under the first of its names that is given. -/
def fieldOr {α : Type} (entries : Mapping) (names : List String) (otherwise : α)
    (check : Value → Checked α) : Checked α :=
  match firstField? entries names with
  | none => .ok otherwise
  | some (name, value) => (check value).under (.field name)

/-- A field that must be given. -/
def field {α : Type} (entries : Mapping) (name : String) (check : Value → Checked α) :
    Checked α :=
  match Mapping.field? entries name with
  | none => (Checked.fail .missing).under (.field name)
  | some value => (check value).under (.field name)

end EditorPlugins.Config
