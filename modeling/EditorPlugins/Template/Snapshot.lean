import EditorPlugins.Template.Source

/-! # Snapshots of a template tree

A snapshot holds the files of a tree by their paths. It has no directories of its own: a directory
is a path that some file stands below, and the root. The entries of a directory are the names that
follow it in the paths of the files.
-/

namespace EditorPlugins.Template

/-- The files of a tree by their paths. -/
structure Snapshot where
  files : Entries TemplatePath Octets

namespace Snapshot

/-- Add files one after another; a path that denotes the root is passed over. -/
def addFiles (files : Entries TemplatePath Octets) :
    List (String × Octets) → Except Error (Entries TemplatePath Octets)
  | [] => .ok files
  | (path, content) :: rest =>
    match readPath path with
    | .error error => .error error
    | .ok [] => addFiles files rest
    | .ok names => addFiles (Entries.set files names content) rest

def ofFiles (files : Entries String Octets) : Except Error Snapshot :=
  (addFiles [] files).map Snapshot.mk

/-- Whether a path leads to a directory: the root, or a path with a file below it. -/
def isDir (snapshot : Snapshot) (path : TemplatePath) : Bool :=
  path.isEmpty ||
    snapshot.files.any fun file => path.isPrefixOf file.1 && path.length < file.1.length

def isFile (snapshot : Snapshot) (path : TemplatePath) : Bool := Entries.has snapshot.files path

/-- The name that follows a directory in a path below it. -/
def nameBelow? (directory path : TemplatePath) : Option String :=
  if directory.isPrefixOf path then (path.drop directory.length).head? else none

/-- The names in a directory, in ascending order. -/
def names (snapshot : Snapshot) (directory : TemplatePath) : List String :=
  (distinct (snapshot.files.filterMap fun file => nameBelow? directory file.1)).mergeSort
    fun a b => decide (a ≤ b)

def entries (snapshot : Snapshot) (directory : TemplatePath) : List Entry :=
  (snapshot.names directory).map fun name => ⟨name, snapshot.isDir (directory ++ [name])⟩

/-- The length of the longest path. -/
def depth (snapshot : Snapshot) : Nat :=
  snapshot.files.foldl (fun longest file => max longest file.1.length) 0

def readBytes (snapshot : Snapshot) (path : String) : Except Error Octets := do
  match Entries.get? snapshot.files (← readPath path) with
  | some content => return content
  | none => throw (.snapshotMissing path)

/-- The entries of a directory that exists. -/
def list (snapshot : Snapshot) (path : String) : Except Error (List Entry) := do
  let directory ← readPath path
  if snapshot.isDir directory then return snapshot.entries directory
  else throw (.snapshotDirectoryMissing path)

/-- A snapshot as a source, for a project at some root. -/
def source (snapshot : Snapshot) (projectRoot : FilePath) : Source where
  origin := .snapshot snapshot.files.length
  projectRoot := projectRoot
  readBytes := snapshot.readBytes
  list := snapshot.list
  exists? path := do
    let names ← readPath path
    return snapshot.isFile names || snapshot.isDir names
  isDir? path := do return snapshot.isDir (← readPath path)
  depth := snapshot.depth

end Snapshot

end EditorPlugins.Template
