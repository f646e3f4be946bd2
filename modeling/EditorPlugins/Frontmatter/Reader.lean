import EditorPlugins.Frontmatter.Scalar
import EditorPlugins.Text.Lines

/-! # Reading frontmatter

Frontmatter is a map whose values stand on the line of their key or in a block of lines below it: a
list of items, or a map of one level. Reading is a fold over the lines. Its state is the map read so
far and the key whose block is open; a line either belongs to the open block, closes it, or means
nothing. Lines that mean nothing are dropped, so only numbers can make reading fail.
-/

namespace EditorPlugins.Frontmatter

open Text Number

/-- How a document is read: trailing comments count in metadata files only, and values may be kept
as texts. -/
structure Dialect where
  comments : Bool
  typing : Typing
deriving DecidableEq, Repr

/-- Frontmatter of markdown documents: comments take whole lines, and values are typed. -/
def Dialect.document : Dialect := ⟨false, .typed⟩

/-- Metadata of composable directories: comments may trail, and values are texts. -/
def Dialect.metadata : Dialect := ⟨true, .texts⟩

/-- Cut at a comment outside quotes; its mark stands first or after a space or tab. -/
def cutComment (quoting : Quoting) (spaced : Bool) : List Char → List Char
  | [] => []
  | c :: cs =>
    if quoting = .outside && spaced && c = '#' then []
    else c :: cutComment (quoting.next c) (c = ' ' || c = '\t') cs

/-- Remove a trailing comment where the dialect has them. -/
def Dialect.uncomment (dialect : Dialect) (cs : List Char) : List Char :=
  if dialect.comments then cutComment .outside true cs else cs

/-- The lines below a key, as far as they are read. -/
inductive Block where
  | undecided
  | items (items : List String)
  | entries (entries : Mapping)

/-- The value of a complete block; a key without one has nothing. -/
def Block.value : Block → Value
  | .undecided => .null
  | .items written => Value.texts written
  | .entries written => .map written

/-- The state between lines: the map so far, and the key whose block is open. -/
structure Reading where
  read : Mapping
  pending : Option (String × Block)

namespace Reading

/-- Nothing is read and no block is open. -/
def start : Reading := ⟨[], none⟩

/-- Close the open block, giving its value to its key. -/
def close (reading : Reading) : Reading :=
  match reading.pending with
  | none => reading
  | some (key, block) => ⟨Mapping.setField reading.read key block.value, none⟩

end Reading

/-- Blank lines and lines that hold only a comment mean nothing anywhere. -/
def isSkippable (line : List Char) : Bool :=
  match trim line with
  | [] => true
  | c :: _ => c = '#'

/-- A list item is a dash alone, or a dash and a space. -/
def isItem (trimmed : List Char) : Bool := trimmed = ['-'] || ['-', ' '].isPrefixOf trimmed

def isIndented (line : List Char) : Bool :=
  match line with
  | [] => false
  | c :: _ => isBlank c

/-- A line outside blocks: a key with its value, a key that opens a block, or nothing. -/
def readTop (dialect : Dialect) (reading : Reading) (line : List Char) :
    Except ConversionError Reading :=
  if isIndented line || line.head? = some '-' then .ok reading
  else
    match cutAt ':' line with
    | (_, none) => .ok reading
    | (before, some after) =>
      let key := itemText before
      if key.isEmpty then .ok reading
      else
        let key := String.ofList key
        let after := dialect.uncomment after
        if isBlankText after then .ok ⟨reading.read, some (key, .undecided)⟩
        else do
          let value ← readScalar dialect.typing after
          return ⟨Mapping.setField reading.read key value, none⟩

/-- Add a list item to a block; `none` when the block is a map. -/
def Block.addItem? (block : Block) (line : List Char) : Option Block :=
  let item := trim (line.drop 1)
  let added (written : List String) :=
    Block.items (if item.isEmpty then written else written ++ [String.ofList (itemText item)])
  match block with
  | .undecided => some (added [])
  | .items written => some (added written)
  | .entries _ => none

/-- Add the entry of a line with a colon to a block; `none` when the block is a list. -/
def Block.addEntry? (typing : Typing) (block : Block) (before after : List Char) :
    Option (Except ConversionError Block) :=
  let added (written : Mapping) : Except ConversionError Block :=
    if isBlankText before then .ok (.entries written)
    else do
      let value ← readScalar typing after
      return .entries (Mapping.setField written (String.ofList (itemText before)) value)
  match block with
  | .undecided => some (added [])
  | .entries written => some (added written)
  | .items _ => none

/-- A line below an open key. A line of the other kind ends the block and is dropped; a line that
belongs to no block ends it and is read as a line of its own. -/
def readBelow (dialect : Dialect) (reading : Reading) (key : String) (block : Block)
    (line : List Char) : Except ConversionError Reading :=
  let item := isItem (trim line)
  if !isIndented line && !item then readTop dialect reading.close line
  else
    let content := trim (dialect.uncomment (trim line))
    if item then
      match block.addItem? content with
      | some block => .ok ⟨reading.read, some (key, block)⟩
      | none => .ok reading.close
    else
      match cutAt ':' content with
      | (_, none) => .ok reading
      | (before, some after) =>
        match block.addEntry? dialect.typing before after with
        | some added => added.map fun block => ⟨reading.read, some (key, block)⟩
        | none => .ok reading.close

def readLine (dialect : Dialect) (reading : Reading) (line : List Char) :
    Except ConversionError Reading :=
  if isSkippable line then .ok reading
  else
    match reading.pending with
    | none => readTop dialect reading line
    | some (key, block) => readBelow dialect reading key block line

def readLines (dialect : Dialect) (reading : Reading) (lines : List (List Char)) :
    Except ConversionError Reading :=
  lines.foldlM (readLine dialect) reading

/-- Reading lines in two parts is reading them in one go. -/
theorem readLines_append (dialect : Dialect) (reading : Reading) (first second : List (List Char)) :
    readLines dialect reading (first ++ second) =
      (readLines dialect reading first).bind fun reading => readLines dialect reading second := by
  simp [readLines, List.foldlM_append, bind]

/-- A line that can be skipped leaves every state as it is. -/
theorem readLine_of_isSkippable (dialect : Dialect) (reading : Reading) {line : List Char}
    (skippable : isSkippable line = true) : readLine dialect reading line = .ok reading := by
  simp [readLine, skippable]

def readMapping (dialect : Dialect) (lines : List (List Char)) : Except ConversionError Mapping :=
  (readLines dialect Reading.start lines).map fun reading => reading.close.read

def read (dialect : Dialect) (text : String) : Except ConversionError Mapping :=
  readMapping dialect (lineBodies text.toList)

end EditorPlugins.Frontmatter
