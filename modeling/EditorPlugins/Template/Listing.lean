import EditorPlugins.Template.Naming
import EditorPlugins.Template.Source

/-! # Listing templates

Listings show what is worth compiling: hidden names are passed over, and so are the directories
that never hold templates. A directory that does not exist has no entries. `tree` descends like
`Source.walk`, but prunes what a listing would pass over.
-/

namespace EditorPlugins.Template

open Text

namespace Source

/-- The entries of a directory; none, and a record, when it does not exist. -/
def entries (source : Source) (directory : String) : Traced (List Entry) :=
  match source.list directory with
  | .ok entries => pure entries
  | .error error =>
    if isMissing error then do
      let shown := if directory = "" then "." else directory
      Traced.note .debug ("Directory " ++ shown ++ " not present, skipping")
      return []
    else Traced.fail error

def isPlainFile (entry : Entry) : Bool := !entry.isDir && !isHidden entry.name

def isPlainDirectory (entry : Entry) : Bool :=
  entry.isDir && !isHidden entry.name && !ignoredDirectories.contains entry.name

def markdownFiles (source : Source) (directory : String) : Traced (List String) := do
  let entries ← source.entries directory
  let shown := entries.filter fun entry => isPlainFile entry && endsWith markdownEnding entry.name
  return shown.map Entry.name

def plainFiles (source : Source) (directory : String) : Traced (List String) := do
  return ((← source.entries directory).filter isPlainFile).map Entry.name

def subdirectories (source : Source) (directory : String) : Traced (List String) := do
  return ((← source.entries directory).filter isPlainDirectory).map Entry.name

/-- The shown files below a directory, each with its path from there, going `fuel` directories
deep. -/
def treeWithin (source : Source) : (fuel : Nat) → String → Traced (List String)
  | 0, _ => pure []
  | fuel + 1, directory => do
    let files ← (← source.entries directory).mapM fun entry =>
      if isHidden entry.name then pure []
      else if entry.isDir then
        if ignoredDirectories.contains entry.name then pure []
        else do
          let below ← treeWithin source fuel (joinPath directory entry.name)
          return below.map fun file => entry.name ++ "/" ++ file
      else pure [entry.name]
    return files.flatten

/-- The shown files below a directory, in the order of their names. -/
def tree (source : Source) (directory : String) : Traced (List String) :=
  source.treeWithin source.walkFuel directory

end Source

end EditorPlugins.Template
