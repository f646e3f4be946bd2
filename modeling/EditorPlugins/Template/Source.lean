import EditorPlugins.Path.FilePath
import EditorPlugins.Path.TemplatePath
import EditorPlugins.Traced

/-! # Sources of templates

A source answers questions about a template tree: the content of a file, the entries of a
directory, and what stands at a path. What follows from these answers, such as reading text and
walking a whole tree, is the same for every source. Walking goes as deep as the tree does; the
depth of a source bounds the recursion.
-/

namespace EditorPlugins.Template

/-- An entry of a directory. -/
structure Entry where
  name : String
  isDir : Bool
deriving DecidableEq, Repr

/-- Where templates are kept: in a directory of the disk, or in a snapshot of some files. -/
inductive Origin where
  | directory (root : FilePath)
  | snapshot (count : Nat)
deriving DecidableEq, Repr

namespace Origin

/-- Whether templates come bundled rather than from the disk. -/
def isEmbedded : Origin → Bool
  | directory _ => false
  | snapshot _ => true

def count? : Origin → Option Nat
  | directory _ => none
  | snapshot count => some count

/-- The label of a directory of the disk. -/
def label? : Origin → Option String
  | directory root => some ("FilesystemSource(" ++ Text.literal root.text ++ ")")
  | snapshot _ => none

end Origin

/-- A template tree, by the answers to the questions about it. -/
structure Source where
  origin : Origin
  projectRoot : FilePath
  readBytes : String → Except Error Octets
  list : String → Except Error (List Entry)
  exists? : String → Except Error Bool
  isDir? : String → Except Error Bool
  depth : Nat

def readPath (path : String) : Except Error TemplatePath :=
  match TemplatePath.ofText? path with
  | some names => .ok names
  | none => .error (.pathOutsideTemplates path)

namespace Source

/-- Whether an error says that a template does not exist. -/
def isMissing (error : Error) : Bool := error.category = .notFound

def readText (source : Source) (path : String) : Except Error String := do
  match Text.Utf8.decode (← source.readBytes path) with
  | .ok text => return text
  | .error _ => throw (.templateNotText path)

/-- The content of a file as text; `none` when there is no such file. -/
def readText? (source : Source) (path : String) : Except Error (Option String) :=
  match source.readText path with
  | .ok text => .ok (some text)
  | .error error => if isMissing error then .ok none else .error error

/-- The files below a directory, each with its path from there, going `fuel` directories deep. -/
def walkWithin (source : Source) : (fuel : Nat) → String → Except Error (List String)
  | 0, _ => .ok []
  | fuel + 1, path =>
    match source.list path with
    | .error error => if isMissing error then .ok [] else .error error
    | .ok entries => do
      let files ← entries.mapM fun entry =>
        if entry.isDir then do
          let below ← walkWithin source fuel (joinPath path entry.name)
          return below.map fun file => entry.name ++ "/" ++ file
        else return [entry.name]
      return files.flatten

/-- More directories than any walk enters: blanks at the end of a path, which reading it drops, may
let two of its names go unnoticed. -/
def walkFuel (source : Source) : Nat := source.depth + 4

/-- The files below a directory, in the order of their names; none when it does not exist. -/
def walk (source : Source) (path : String) : Except Error (List String) :=
  source.walkWithin source.walkFuel path

end Source

end EditorPlugins.Template
