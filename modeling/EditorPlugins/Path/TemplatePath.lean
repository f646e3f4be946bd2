import EditorPlugins.Text.Basic

/-! # Paths inside the template tree

A path inside the template tree is a list of names. A text is read as such a path by scanning the
pieces between its slashes, where a backslash counts as a slash: empty pieces and single dots are
skipped, double dots take back the last name that was kept. A text that starts at the root, or that
takes back more than it kept, leaves the tree and is no path, nor is one that names a drive.
-/

namespace EditorPlugins

open Text

/-- Join two path texts; a second text with a leading slash stands alone. -/
def joinPath (first second : String) : String :=
  if startsWith "/" second then second
  else if first = "" || endsWith "/" first then first ++ second
  else first ++ "/" ++ second

/-- Whether the second character of a text is a colon. -/
def namesDrive : List Char → Bool
  | _ :: ':' :: _ => true
  | _ => false

/-- Whether a path text is relative, uses forward slashes only and stays inside its directory. -/
def isSafeRelative (path : String) : Bool :=
  let cs := path.toList
  !(cs.isEmpty || cs.contains '\\' || cs.head? = some '/' || namesDrive cs ||
    (pieces '/' cs).contains ['.', '.'])

/-- The names from the root of the template tree down to a file or directory. -/
abbrev TemplatePath := List String

namespace TemplatePath

/-- Scan one piece after the names that are kept, the last of which comes first; `none` when the
piece leaves the tree. -/
def scanPiece? (kept : List (List Char)) (piece : List Char) : Option (List (List Char)) :=
  if piece.isEmpty || piece = ['.'] then some kept
  else if piece = ['.', '.'] then
    match kept with
    | [] => none
    | _ :: kept => some kept
  else some (piece :: kept)

/-- The names that remain when all pieces are scanned. -/
def scan? (pieces : List (List Char)) : Option (List (List Char)) :=
  (pieces.foldlM scanPiece? []).map List.reverse

def text (path : TemplatePath) : String := Text.join "/" path

/-- A text with slashes for backslashes and without blanks around it. -/
def clean (cs : List Char) : List Char := trim (cs.map fun c => if c = '\\' then '/' else c)

/-- Read a path inside the template tree. -/
def ofText? (path : String) : Option TemplatePath :=
  let cleaned := clean path.toList
  if cleaned.head? = some '/' then none
  else
    match scan? (pieces '/' cleaned) with
    | none => none
    | some names =>
      if namesDrive (joinWith ['/'] names) then none else some (names.map String.ofList)

/-- The last name of a path text, slashes at its end aside. -/
def lastName (path : String) : String :=
  let trimmed := dropEndWhile (· = '/') path.toList
  String.ofList ((pieces '/' trimmed).getLast?.getD [])

end TemplatePath

end EditorPlugins
