import EditorPlugins.Disk.Basic
import EditorPlugins.Template.Snapshot

/-! # Template trees on the disk

A directory of the disk serves as a source as it stands, following links. It can also be taken into
a snapshot, which then serves the same templates without the disk.
-/

namespace EditorPlugins.Template

namespace Directory

/-- The path on the disk that a path inside the template tree leads to. -/
def place (root : FilePath) (path : String) : Except Error FilePath := do
  return root.append ⟨"", ← readPath path⟩

/-- A question that the disk may fail to answer. -/
def ask {α : Type} (answer : Except Disk.Failure α) : Except Error α :=
  match answer with
  | .ok value => .ok value
  | .error failure => .error (.disk failure)

def readBytes (disk : Disk) (root : FilePath) (path : String) : Except Error Octets := do
  match disk.readFile (← place root path) with
  | .ok content => return content
  | .error failure =>
    match failure.reason with
    | .notFound => throw (.templateMissing path)
    | .nullInName => throw (.disk failure)
    | _ => throw (.templateUnreadable path failure)

/-- The entries of a directory, in the order of their names. -/
def list (disk : Disk) (root : FilePath) (path : String) : Except Error (List Entry) := do
  let directory ← place root path
  if !(← ask (disk.isDir? directory)) then throw (.directoryMissing path)
  match disk.list directory with
  | .error failure => throw (.directoryUnreadable path failure)
  | .ok names =>
    names.mapM fun name => do
      return ⟨name, ← ask (disk.isDir? (directory.append ⟨"", [name]⟩))⟩

def rootOf (disk : Disk) (project : FilePath) (templates : String) : FilePath :=
  (disk.settled project).child templates

def source (disk : Disk) (project : FilePath) (templates : String) : Source :=
  let root := rootOf disk project templates
  { origin := .directory root
    projectRoot := disk.settled project
    readBytes := readBytes disk root
    list := list disk root
    exists? := fun path => do ask (disk.exists? (← place root path))
    isDir? := fun path => do ask (disk.isDir? (← place root path))
    depth := disk.depthBound }

/-- The files below a directory, each with its path from there. -/
def collect (disk : Disk) : (fuel : Nat) → FilePath → Except Disk.Failure (List (String × Octets))
  | 0, _ => .ok []
  | fuel + 1, directory => do
    let files ← (← disk.list directory).mapM fun name => do
      let path := directory.append ⟨"", [name]⟩
      if ← disk.isDir? path then
        let below ← collect disk fuel path
        return below.map fun (file, content) => (name ++ "/" ++ file, content)
      else if ← disk.isFile? path then return [(name, ← disk.readFile path)]
      else return []
    return files.flatten

/-- A snapshot of the files below a directory; empty when the directory does not exist. -/
def snapshot (disk : Disk) (root : FilePath) : Traced Snapshot := do
  let files ← ask <| do
    if ← disk.isDir? root then collect disk disk.depthBound root else return []
  Traced.note .debug ("Loaded " ++ Number.natText files.length ++ " embedded template files")
  Snapshot.ofFiles files

end Directory

end EditorPlugins.Template
