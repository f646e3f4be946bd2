import EditorPlugins.Entries
import EditorPlugins.Error

/-! # Placeholders

A placeholder is a name between braces. A text is scanned once from left to right: a placeholder
whose name has a value is replaced by it, every other character stands for itself, and values are
not scanned again. The scan remembers the characters since the last opening brace, which are either
the name of a placeholder or plain text.
-/

namespace EditorPlugins.Compose

abbrev Variables := Entries String String

/-- What a placeholder stands for: its value, or itself. -/
def expand (bindings : Variables) (name : List Char) : List Char :=
  match Entries.get? bindings (String.ofList name) with
  | some value => value.toList
  | none => '\x7b' :: name ++ ['\x7d']

/-- Scan a text after an opening brace and the characters of a name, or outside of both. -/
def scan (bindings : Variables) : (name : Option (List Char)) → List Char → List Char
  | none, [] => []
  | some name, [] => '\x7b' :: name
  | none, c :: cs =>
    if c = '\x7b' then scan bindings (some []) cs else c :: scan bindings none cs
  | some name, c :: cs =>
    if c = '\x7b' then '\x7b' :: name ++ scan bindings (some []) cs
    else if c = '\x7d' then
      (if name.isEmpty then ['\x7b', '\x7d'] else expand bindings name) ++ scan bindings none cs
    else scan bindings (some (name ++ [c])) cs

/-- Replace the placeholders that have values. -/
def substitute (text : String) (bindings : Variables) : String :=
  String.ofList (scan bindings none text.toList)

def readAssignment (text : String) : Except Error (String × String) :=
  match Text.cutAt '=' text.toList with
  | (_, none) => .error (.assignmentMalformed text)
  | (before, some after) =>
    let name := Text.trim before
    if name.isEmpty then .error (.assignmentMalformed text)
    else .ok (String.ofList name, String.ofList after)

/-- Read assignments; the last one of a name counts. -/
def readAssignments (texts : List String) : Except Error Variables :=
  (texts.mapM readAssignment).map Entries.ofPairs

end EditorPlugins.Compose
