import EditorPlugins.Text.Basic

/-! # Paths of files

A path is a root and the names below it. Empty names and single dots mean nothing and are dropped;
double dots are kept, because what they lead to depends on links. One leading slash and three or
more are the same root, exactly two are a root of their own.
-/

namespace EditorPlugins

open Text

/-- A path: its root, which is empty for a relative path, and the names below the root. -/
structure FilePath where
  root : String
  names : List String
deriving DecidableEq, Repr

namespace FilePath

/-- The slashes that a path text starts with, as a root. -/
def rootOf (cs : List Char) : String :=
  match (cs.takeWhile (· = '/')).length with
  | 0 => ""
  | 2 => "//"
  | _ => "/"

def isName (piece : List Char) : Bool := !(piece.isEmpty || piece = ['.'])

def ofText (text : String) : FilePath :=
  let names := (pieces '/' text.toList).filter isName
  ⟨rootOf text.toList, names.map String.ofList⟩

/-- The path that a second one leads to from the first one; a second path with a root leads to
itself. -/
def append (first second : FilePath) : FilePath :=
  if second.root = "" then ⟨first.root, first.names ++ second.names⟩ else second

def child (path : FilePath) (text : String) : FilePath := path.append (ofText text)

def parent (path : FilePath) : FilePath := { path with names := path.names.dropLast }

/-- The text of a path; the path without root and names is a single dot. -/
def text (path : FilePath) : String :=
  if path.root = "" && path.names.isEmpty then "." else path.root ++ Text.join "/" path.names

theorem append_append (first second third : FilePath) :
    (first.append second).append third = first.append (second.append third) := by
  by_cases rooted : third.root = "" <;> by_cases also : second.root = "" <;>
    simp [append, rooted, also]

theorem append_nil (path : FilePath) : path.append ⟨"", []⟩ = path := by
  rw [append, if_pos rfl, List.append_nil]

end FilePath

end EditorPlugins
