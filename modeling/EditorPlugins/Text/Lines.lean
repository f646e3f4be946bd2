import EditorPlugins.Text.Basic

/-! # Lines and their endings

A line is a text without line breaks together with the ending that followed it: one line-breaking
character, a return and a feed, or nothing at the end of the text. `lines` loses nothing, which
`flatMap_whole_lines` states.
-/

namespace EditorPlugins.Text

/-- A line with the characters that ended it. -/
structure Line where
  body : List Char
  ending : List Char
deriving DecidableEq, Repr

namespace Line

def whole (line : Line) : List Char := line.body ++ line.ending

end Line

/-- Put a character in front of the first line. -/
def consLine (c : Char) : List Line → List Line
  | [] => [⟨[c], []⟩]
  | line :: rest => { line with body := c :: line.body } :: rest

/-- Cut a text into lines; a return that a feed follows ends a line together with it. -/
def lines : List Char → List Line
  | [] => []
  | '\r' :: '\n' :: cs => ⟨[], ['\r', '\n']⟩ :: lines cs
  | c :: cs => if isLineBreak c then ⟨[], [c]⟩ :: lines cs else consLine c (lines cs)

private theorem flatMap_whole_consLine (c : Char) (ls : List Line) :
    (consLine c ls).flatMap Line.whole = c :: ls.flatMap Line.whole := by
  cases ls <;> simp [consLine, Line.whole]

/-- Writing the lines one after another gives the text back. -/
theorem flatMap_whole_lines (cs : List Char) : (lines cs).flatMap Line.whole = cs := by
  fun_induction lines cs with
  | case1 => rfl
  | case2 cs ih => simp [Line.whole, ih]
  | case3 c cs _ isBreak ih => simp [Line.whole, ih]
  | case4 c cs _ notBreak ih => rw [flatMap_whole_consLine, ih]

def lineBodies (cs : List Char) : List (List Char) := (lines cs).map Line.body

/-- Write every ending of a line as one feed, whether it was a return, a feed or both. -/
def unifyNewlines : List Char → List Char
  | [] => []
  | '\r' :: '\n' :: cs => '\n' :: unifyNewlines cs
  | '\r' :: cs => '\n' :: unifyNewlines cs
  | c :: cs => c :: unifyNewlines cs

end EditorPlugins.Text
