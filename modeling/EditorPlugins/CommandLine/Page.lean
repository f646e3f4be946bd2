import EditorPlugins.CommandLine.Cell
import EditorPlugins.CommandLine.Markup

/-! # What a command prints

A page is a list of blocks: raw text, marked lines, and tables whose cells are marked text. A block
is printed as a whole or, if its markup is spoilt, not at all, and then nothing behind it is printed
either. A row of a table takes up as many lines as its highest cell.
-/

namespace EditorPlugins.CommandLine

open Text

/-- A part of a page. -/
inductive Block where
  /-- Text that is printed as it stands. -/
  | raw (text : String)
  | line (text : String)
  | table (title : String) (header : List String) (rows : List (List String))
deriving DecidableEq, Repr

namespace Block

/-- A marked line as it is shown; `none` when its markup is spoilt. -/
def shownLine? (text : String) : Option String :=
  (Markup.shown? text).map fun text => String.ofList (expandTabs 0 text.toList)

/-- The block with its markup taken away; `none` when it is spoilt. -/
def shown? : Block → Option Block
  | raw text => some (raw text)
  | line text => (shownLine? text).map line
  | table title header rows => do
    let title ← shownLine? title
    let header ← header.mapM Markup.shown?
    let rows ← rows.mapM fun row => row.mapM Markup.shown?
    return table title header rows

def columnWidths (rows : List (List String)) : List Nat :=
  rows.foldl
    (fun widths row =>
      (List.range (max widths.length row.length)).map fun i =>
        max (widths[i]?.getD 0) ((row[i]?.map Cell.width).getD 0)) []

/-- A row as the lines it takes up, each with a part of every cell. -/
def rowLines (widths : List Nat) (row : List String) : List (List String) :=
  let cells := (widths.zip row).map fun (width, cell) => Cell.lines width cell
  let height := (cells.map List.length).foldl max 1
  (List.range height).map fun i => cells.map fun lines => lines[i]?.getD ""

def tableLines (header : List String) (rows : List (List String)) : List (List String) :=
  (header :: rows).flatMap (rowLines (columnWidths (header :: rows)))

def padded (width : Nat) (cell : String) : String :=
  cell ++ String.ofList (List.replicate (width - Cell.width cell) ' ')

def text : Block → String
  | raw text => text
  | line text => text ++ "\n"
  | table title header rows =>
    let widths := columnWidths (header :: rows)
    let lines := (tableLines header rows).map fun row =>
      Text.join "  " ((widths.zip row).map fun (width, cell) => padded width cell)
    Text.join "" ((title :: lines).map (· ++ "\n"))

end Block

/-- The blocks that are printed, and whether these are all. -/
def shownPage : List Block → List Block × Bool
  | [] => ([], true)
  | block :: rest =>
    match block.shown? with
    | none => ([], false)
    | some block =>
      let (blocks, complete) := shownPage rest
      (block :: blocks, complete)

end EditorPlugins.CommandLine
