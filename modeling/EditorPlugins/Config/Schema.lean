import EditorPlugins.Error

/-! # The shape of configuration documents

Before a document is read, the types of its outer values are compared with those that their places
admit. Of all mismatches the outermost is reported, and of several equally far out the one whose
place comes last in the order of the keys; keys of different kinds have no order.
-/

namespace EditorPlugins.Config

/-- The types that the shape of a document speaks of. -/
inductive Shape where
  | object
  | null
  | string
  | number
deriving DecidableEq, Repr

namespace Shape

def name : Shape → String
  | object => "object"
  | null => "null"
  | string => "string"
  | number => "number"

/-- Whether a value is of a type; truth values are not numbers. -/
def admits (shape : Shape) (value : Value) : Bool :=
  match shape, value with
  | object, .map _ => true
  | null, .null => true
  | string, .text _ => true
  | number, .int _ => true
  | number, .float _ => true
  | _, _ => false

end Shape

/-- A value that has none of the types that its place admits. -/
structure Mismatch where
  place : List Scalar
  value : Value
  admitted : List Shape

namespace Mismatch

def at? (place : List Scalar) (admitted : List Shape) (value : Value) : List Mismatch :=
  if admitted.any (·.admits value) then [] else [⟨place, value, admitted⟩]

/-- The error of a mismatch, whose wording shows the value. -/
def refusal (mismatch : Mismatch) : Except Error Error :=
  let shapes := mismatch.admitted.map fun shape => Text.literal shape.name
  match mismatch.value.literal with
  | .ok literal =>
    .ok (.configType mismatch.place (literal ++ " is not of type " ++ Text.join ", " shapes))
  | .error cause => .error (.number cause)

end Mismatch

/-- The mismatches in the entries of a map, where it is one. -/
def mismatchesBelow (place : List Scalar) (value : Value)
    (check : List Scalar → Value → List Mismatch) : List Mismatch :=
  match value.map? with
  | none => []
  | some entries => entries.flatMap fun (key, value) => check (place ++ [key]) value

def agentMismatches (place : List Scalar) (value : Value) : List Mismatch :=
  Mismatch.at? place [.object] value ++
    mismatchesBelow place value fun place => Mismatch.at? place [.object, .null, .string]

def fieldMismatches (key : String) (value : Value) : List Mismatch :=
  let place := [Scalar.text key]
  match key with
  | "version" => Mismatch.at? place [.string, .number] value
  | "targets" | "skills" | "commands" | "protocols" => Mismatch.at? place [.object] value
  | "agents" =>
    Mismatch.at? place [.object] value ++ mismatchesBelow place value agentMismatches
  | "hooks" =>
    Mismatch.at? place [.object] value ++
      mismatchesBelow place value fun place => Mismatch.at? place [.object, .null]
  | _ => []

/-- The keys that the shape of a document speaks of, in the order of their declaration. -/
def declaredKeys : List String :=
  ["version", "targets", "agents", "hooks", "skills", "commands", "protocols"]

def mismatches (document : Value) : List Mismatch :=
  Mismatch.at? [] [.object] document ++
    match document.map? with
    | none => []
    | some entries =>
      declaredKeys.flatMap fun key =>
        match Mapping.field? entries key with
        | some value => fieldMismatches key value
        | none => []

/-- Whether a place comes before another one, key by key. The first keys that differ decide, and
must have an order. -/
def placeBefore : List Scalar → List Scalar → Except Error Bool
  | [], rest => .ok (!rest.isEmpty)
  | _, [] => .ok false
  | a :: as, b :: bs =>
    if a.same b then placeBefore as bs
    else
      match a.before? b with
      | some less => .ok less
      | none => .error (.keysUnordered b.kindName a.kindName)

/-- Whether a mismatch gives way to another one. -/
def yieldsTo (mismatch other : Mismatch) : Except Error Bool :=
  if mismatch.place.length = other.place.length then placeBefore mismatch.place other.place
  else .ok (decide (other.place.length < mismatch.place.length))

/-- The mismatch that is reported, of one found first and those found after it, as an error. Every
mismatch is worded when it is found. -/
def reported (worst : Error) (found : Mismatch) : List Mismatch → Error
  | [] => worst
  | next :: rest =>
    match next.refusal, yieldsTo found next with
    | .error error, _ => error
    | .ok _, .error error => error
    | .ok refusal, .ok true => reported refusal next rest
    | .ok _, .ok false => reported worst found rest

/-- The error of a mismatch names its place; a whole number there may have too many digits to be
named. -/
def placed : Error → Error
  | .configType place wording =>
    if place.all fun key => (Value.scalar key).fits then .configType place wording
    else .number .valueTooLarge
  | error => error

def checkShape (document : Value) : Except Error Unit :=
  match mismatches document with
  | [] => .ok ()
  | first :: rest =>
    match first.refusal with
    | .error error => .error error
    | .ok refusal => .error (placed (reported refusal first rest))

end EditorPlugins.Config
