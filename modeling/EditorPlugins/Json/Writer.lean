import EditorPlugins.Value.Display

/-! # Writing JSON

Documents are indented by two spaces a level. Texts keep every character but the quote, the
backslash and the controls below the space, and every document ends with one feed. The first part
of a value that has no written form refuses the whole value; the printers themselves are total.
-/

namespace EditorPlugins.Json

open Number

/-- The spellings of the special numbers in JSON. -/
def specialNames : SpecialNames := ⟨"NaN", "Infinity"⟩

def escapeChar (c : Char) : List Char :=
  if c = '"' then ['\\', '"']
  else if c = '\\' then ['\\', '\\']
  else if c = '\n' then ['\\', 'n']
  else if c = '\r' then ['\\', 'r']
  else if c = '\t' then ['\\', 't']
  else if c = '\x08' then ['\\', 'b']
  else if c = '\x0c' then ['\\', 'f']
  else if c.toNat < 0x20 then '\\' :: 'u' :: Text.hexDigits 4 c.toNat
  else [c]

def quote (s : String) : List Char := '"' :: s.toList.flatMap escapeChar ++ ['"']

/-- A scalar; octets and dates, which JSON has no form for, stand as the texts that display them. -/
def scalarChars : Scalar → List Char
  | .null => "null".toList
  | .bool true => "true".toList
  | .bool false => "false".toList
  | .int value => intDigits value
  | .float value => (value.text specialNames).toList
  | .text value => quote value
  | other => quote other.display

/-- A key is always a text. -/
def keyChars : Scalar → List Char
  | .text value => quote value
  | other => '"' :: scalarChars other ++ ['"']

/-- The line ending and indentation in front of an item at some depth. -/
def newline (depth : Nat) : List Char := '\n' :: List.replicate (2 * depth) ' '

mutual

/-- A value whose first line is already indented, at some depth. -/
def valueChars (depth : Nat) : Value → List Char
  | .scalar value => scalarChars value
  | .list [] => ['[', ']']
  | .list (item :: items) =>
    '[' :: newline (depth + 1) ++ valueChars (depth + 1) item ++ itemChars (depth + 1) items ++
      newline depth ++ [']']
  | .map [] => ['\x7b', '\x7d']
  | .map ((key, value) :: entries) =>
    '\x7b' :: newline (depth + 1) ++ keyChars key ++ ':' :: ' ' :: valueChars (depth + 1) value ++
      entryChars (depth + 1) entries ++ newline depth ++ ['\x7d']

def itemChars (depth : Nat) : List Value → List Char
  | [] => []
  | item :: items => ',' :: newline depth ++ valueChars depth item ++ itemChars depth items

def entryChars (depth : Nat) : List (Scalar × Value) → List Char
  | [] => []
  | (key, value) :: entries =>
    ',' :: newline depth ++ keyChars key ++ ':' :: ' ' :: valueChars depth value ++
      entryChars depth entries

end

/-- Why a value has no written form. -/
inductive WriteFault where
  | number (cause : ConversionError)
  | value (kind : String)
  | key (kind : String)
deriving DecidableEq, Repr

def WriteFault.message : WriteFault → String
  | number cause => cause.message
  | value kind => "Object of type " ++ kind ++ " is not JSON serializable"
  | key kind => "keys must be str, int, float, bool or None, not " ++ kind

/-- Why a scalar has no written form, if it has none; a refusal names its kind by `refuse`. -/
def scalarFault? (refuse : String → WriteFault) : Scalar → Option WriteFault
  | .int n => if withinLimit n then none else some (.number .valueTooLarge)
  | .bytes _ => some (refuse "bytes")
  | .date value => some (refuse (if value.time.isSome then "datetime" else "date"))
  | _ => none

mutual

/-- The first part of a value that has no written form. -/
def fault? : Value → Option WriteFault
  | .scalar value => scalarFault? .value value
  | .list items => itemFault? items
  | .map entries => entryFault? entries

/-- The first part of some items that has no written form. -/
def itemFault? : List Value → Option WriteFault
  | [] => none
  | item :: items => (fault? item).or (itemFault? items)

/-- The first part of some entries that has no written form. -/
def entryFault? : List (Scalar × Value) → Option WriteFault
  | [] => none
  | (key, value) :: entries =>
    (scalarFault? .key key).or ((fault? value).or (entryFault? entries))

end

/-- The text of a document, whatever its parts are. -/
def documentText (value : Value) : String := String.ofList (valueChars 0 value ++ ['\n'])

def write (value : Value) : Except WriteFault String :=
  match fault? value with
  | some fault => .error fault
  | none => .ok (documentText value)

end EditorPlugins.Json
