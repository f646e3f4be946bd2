import EditorPlugins.Frontmatter.Scalar
import EditorPlugins.Text.Lines
import EditorPlugins.Value.Display

/-! # Writing frontmatter

A map is written one entry a line, its lists and inner maps as indented lines below their key. A
text is quoted when its plain form would be read as something else. Entries without content are
left out: nothing, empty lists, and maps without entries. Keys come in a requested order first and
in the map's own order after it.
-/

namespace EditorPlugins.Frontmatter

open Text Number

/-- Characters that have a meaning of their own anywhere in a value. -/
def isSpecial (c : Char) : Bool := [':', '#', '\x7b', '\x7d', '[', ']'].contains c

/-- Characters that have a meaning of their own at the start of a value. -/
def isIndicator (c : Char) : Bool :=
  ['"', '\'', '|', '>', '&', '*', '!', '%', '@', '\x60'].contains c

/-- Whether the plain form of a text reads back as that text. -/
def readsAsText (cs : List Char) : Except ConversionError Bool :=
  (readScalar .typed cs).map fun
    | .text read => read.toList = cs
    | _ => false

def needsQuotes (cs : List Char) : Except ConversionError Bool :=
  if cs.isEmpty || cs ≠ trim cs || cs.any (fun c => isLineBreak c || isSpecial c) then .ok true
  else if cs.head?.any isIndicator || cs = ['-'] || ['-', ' '].isPrefixOf cs then .ok true
  else (readsAsText cs).map (!·)

def quotedChar (c : Char) : List Char :=
  if c = '\\' then ['\\', '\\']
  else if c = '"' then ['\\', '"']
  else if c = '\n' then ['\\', 'n']
  else if c = '\r' then ['\\', 'r']
  else if isLineBreak c then '\\' :: 'u' :: hexDigits 4 c.toNat
  else [c]

def quoted (cs : List Char) : List Char := '"' :: cs.flatMap quotedChar ++ ['"']

/-- A text in the form that reads back as it. -/
def formatText (cs : List Char) : Except ConversionError (List Char) :=
  (needsQuotes cs).map fun quotes => if quotes then quoted cs else cs

/-- A value on one line. Lists and maps have no form of their own and are written as the text that
displays them. -/
def formatValue (value : Value) : Except ConversionError (List Char) :=
  match value with
  | .bool value => .ok (if value then "true".toList else "false".toList)
  | .int _ | .float _ => value.display.map String.toList
  | other => do formatText (← other.display).toList

def entryLine (indent : List Char) (key : Scalar) (value : Value) :
    Except ConversionError (List Char) := do
  return indent ++ key.display.toList ++ ':' :: ' ' :: (← formatValue value)

def itemLine (value : Value) : Except ConversionError (List Char) := do
  return "  - ".toList ++ (← formatValue value)

/-- The line of a key whose value stands below it. -/
def keyLine (key : Scalar) : List Char := key.display.toList ++ [':']

/-- The lines of an entry; none when its value has no content. -/
def entryLines (key : Scalar) (value : Value) : Except ConversionError (List (List Char)) :=
  match value with
  | .null => .ok []
  | .list [] => .ok []
  | .list items => do return keyLine key :: (← items.mapM itemLine)
  | .map entries =>
    match entries.filter fun entry => !(entry.2 matches .null) with
    | [] => .ok []
    | written => do
      return keyLine key :: (← written.mapM fun entry => entryLine "  ".toList entry.1 entry.2)
  | other => do return [← entryLine [] key other]

/-- The entries of a map: those at the requested keys, under the spelling of the request, then the
others in its own order. -/
def orderedEntries (data : Mapping) (order : Option (List Scalar)) : Mapping :=
  match order with
  | none => data
  | some order =>
    let requested := order.filterMap fun key => (Mapping.lookup? data key).map (key, ·)
    requested ++ data.filter fun entry => !entry.1.isAmong order

def mappingLines (data : Mapping) (order : Option (List Scalar)) :
    Except ConversionError (List (List Char)) := do
  let lines ← (orderedEntries data order).mapM fun entry => entryLines entry.1 entry.2
  return lines.flatten

/-- The text of a map, one line after another; empty when no entry has content. -/
def write (data : Mapping) (order : Option (List Scalar)) : Except ConversionError String := do
  let lines ← mappingLines data order
  return String.ofList (lines.flatMap (· ++ ['\n']))

end EditorPlugins.Frontmatter
