import EditorPlugins.Text.Column
import EditorPlugins.Text.Lines

/-! # Cells of printed tables

A column is as wide as the widest line of its cells, where a tab counts for nothing. A cell that
outgrows its column, because of tabs or because a break inside of it is not a line feed, is continued
on further lines between words, and a line that is still too wide is cut off.
-/

namespace EditorPlugins.CommandLine.Cell

open Text

/-- The count of columns that a text takes up. -/
def textWidth (cs : List Char) : Nat := cs.foldl (fun width c => width + columnsOf c) 0

def width (cell : String) : Nat := ((lineBodies cell.toList).map textWidth).foldl max 0

/-- The words of a line with the blanks behind them, and behind the first also those before it. -/
def chunks (line : List Char) : List (List Char) :=
  match (line.dropWhile isBlank).splitBy fun a b => isBlank b || !isBlank a with
  | [] => [line]
  | first :: rest => (line.takeWhile isBlank ++ first) :: rest

/-- Lines filled with words, each with as many as fit, from a line that has been started. -/
def filled (width : Nat) (line : List Char) : List (List Char) → List (List Char)
  | [] => [line]
  | word :: words =>
    if textWidth line + textWidth (trimEnd word) ≤ width then filled width (line ++ word) words
    else if line.isEmpty then filled width word words
    else line :: filled width word words

/-- A line without the blanks at its end that its count of characters has too many. -/
def withoutExcess (width : Nat) (line : List Char) : List Char :=
  let blanks := line.length - (trimEnd line).length
  line.take (line.length - min blanks (line.length - width))

/-- The start of a text that takes up some columns, searched by halving. Half of a wide character
becomes a blank. -/
def startOf (width : Nat) (text : List Char) : (steps : Nat) → (low high : Nat) → List Char
  | 0, _, _ => []
  | steps + 1, low, high =>
    let middle := (low + high) / 2
    let start := text.take (middle + 1)
    if textWidth start = width + 1 && (start.getLast?.map columnsOf) = some 2 then
      start.dropLast ++ [' ']
    else if textWidth start = width then start
    else if width < textWidth start then startOf width text steps low middle
    else startOf width text steps middle high

/-- A line that fits into a column; dots stand for what is cut off. -/
def cutTo (width : Nat) (line : List Char) : List Char :=
  if textWidth line ≤ width then line
  else if width ≤ 1 then ['…']
  else startOf (width - 1) line (line.length + 1) 0 line.length ++ ['…']

def lines (width : Nat) (cell : String) : List String :=
  (pieces '\n' cell.toList).flatMap fun line =>
    (filled width [] (chunks (expandTabs 0 line))).map fun line =>
      String.ofList (cutTo width (withoutExcess width line))

end EditorPlugins.CommandLine.Cell
