import EditorPlugins.Frontmatter.Reader
import EditorPlugins.Frontmatter.Writer

/-! # Documents with frontmatter

A document may start with an envelope: frontmatter between two lines of three dashes. Blanks may
stand before it, and an empty line separates it from the body when it is written. A text without a
complete envelope is a body as a whole.
-/

namespace EditorPlugins.Frontmatter

open Text Number

def delimiter : List Char := ['-', '-', '-']

/-- Whether a line is a delimiter; blanks may follow it. -/
def isDelimiter (line : Line) : Bool := trimEnd line.body = delimiter

/-- A document cut into the lines of its frontmatter and its body. -/
structure Cut where
  block : List Line
  body : List Char

/-- Cut at the first delimiter among the lines after the opening one. -/
def cutLines? : List Line → Option Cut
  | [] => none
  | line :: rest =>
    if isDelimiter line then some ⟨[], (rest.flatMap Line.whole).dropWhile isNewline⟩
    else (cutLines? rest).map fun cut => { cut with block := line :: cut.block }

/-- The blanks that may stand before an envelope. -/
def isLeading (c : Char) : Bool := c == ' ' || c == '\t' || c == '\r' || c == '\n'

/-- Cut a document that starts with an envelope. Its opening line ends with a feed. -/
def cut? (cs : List Char) : Option Cut :=
  match lines (cs.dropWhile isLeading) with
  | [] => none
  | line :: rest =>
    if isDelimiter line && line.ending.getLast? = some '\n' then cutLines? rest else none

/-- A document: its frontmatter and its body. -/
structure Document where
  frontmatter : Mapping
  body : String

def split (text : String) : Except ConversionError Document :=
  match cut? text.toList with
  | none => .ok ⟨[], text⟩
  | some cut => do
    let frontmatter ← readMapping .document (cut.block.map Line.body)
    return ⟨frontmatter, String.ofList cut.body⟩

/-- Put frontmatter in front of a body, which stays as it is when there is none to write. -/
def join (data : Mapping) (body : String) (order : Option (List Scalar)) :
    Except ConversionError String := do
  let block ← write data order
  if block.isEmpty then return body
  return "---\n" ++ block ++ "---\n\n" ++ body

end EditorPlugins.Frontmatter
