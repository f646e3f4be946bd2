import EditorPlugins.Compose.Substitution
import EditorPlugins.Frontmatter.Reader
import EditorPlugins.Path.TemplatePath
import EditorPlugins.Traced

/-! # Metadata of composable directories

A composable directory has an order, the list of its sections, and may have variables for each
target. An entry of the order may hold the target's name as a placeholder. Entries that would lead
out of the directory are dropped when the order is read, so that no later step meets them.
-/

namespace EditorPlugins.Compose

open Text

def orderFile : String := "_order.yaml"

def variablesFile : String := "_variables.yaml"

/-- The placeholder of the target's name. -/
def targetMark : List Char := '\x7b' :: "tool".toList ++ ['\x7d']

/-- An entry with some name in the place of the target's. -/
def withTarget (entry target : String) : String :=
  String.ofList (replaceAll targetMark target.toList entry.toList)

/-- Whether an entry is one for each target. -/
def isVariant (entry : String) : Bool := occursIn targetMark entry.toList

/-- Whether an entry leads to a section inside its directory. -/
def isSection (entry : String) : Bool := entry ≠ "" && isSafeRelative (withTarget entry "tool")

/-- Keep an entry that leads to a section, without the blanks around it. -/
def keepEntry (raw : String) : Traced (Option String) :=
  let entry := String.ofList (trim raw.toList)
  if isSection entry then pure (some entry)
  else do
    Traced.note .debug ("Dropping malformed section entry " ++ Text.literal entry)
    return none

/-- The entries that a value writes: a list, or a text for a list of one. -/
def writtenEntries? : Option Value → Option (List String)
  | some (.text entry) => some [entry]
  | some (.list items) => some (items.filterMap Value.text?)
  | _ => none

def readOrder (text : String) : Traced (List String) := do
  let data ← Traced.ofExcept Error.number (Frontmatter.read .metadata text)
  match writtenEntries? (Mapping.field? data "sections") with
  | none =>
    Traced.note .debug ("No sections list in " ++ orderFile)
    return []
  | some entries => return (← entries.mapM keepEntry).filterMap id

/-- The variables that a value writes; lists are no values of variables. -/
def writtenVariables (entries : Mapping) : Variables :=
  entries.filterMap fun (name, value) =>
    match value with
    | .scalar .null => some (name.display, "")
    | .scalar value => some (name.display, value.display)
    | _ => none

def readVariables (text : String) : Except Error (Entries String Variables) :=
  match Frontmatter.read .metadata text with
  | .error cause => .error (.number cause)
  | .ok data =>
    .ok <| data.filterMap fun (target, value) =>
      value.map?.map fun entries => (target.display, writtenVariables entries)

end EditorPlugins.Compose
