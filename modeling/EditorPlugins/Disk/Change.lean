import EditorPlugins.Disk.Basic

/-! # Changes of the disk

A change that fails leaves the disk as far as it came, so every change gives the disk after it
together with its outcome. Creating a directory fails where anything stands already; `makeDirs`
creates those on the way too and takes an existing directory as its goal.
-/

namespace EditorPlugins.Disk

/-- The disk after an operation, and the operation's outcome. -/
structure Changed (α : Type) where
  disk : Disk
  outcome : Except Failure α

/-- The location of a new item: its directory must exist, a link at its own name is not followed. -/
def vacancy (disk : Disk) (path : FilePath) : Except Reason Location :=
  match refusal? path, path.names.getLast? with
  | some reason, _ => .error reason
  | none, none => .error .alreadyExists
  | none, some name =>
    match disk.lookup path.parent with
    | .error reason => .error reason
    | .ok (.vacant _) => .error .notFound
    | .ok (.found _ (.file _)) => .error .notDirectory
    | .ok (.found location _) =>
      if name = ".." then .error .alreadyExists
      else if nameLimit < name.utf8ByteSize then .error .nameTooLong
      else
        match disk.item? (location ++ [name]) with
        | some _ => .error .alreadyExists
        | none => .ok (location ++ [name])

/-- Create one directory, unless one stands at the path already. -/
def makeDir (disk : Disk) (path : FilePath) : Changed Unit :=
  match disk.vacancy path with
  | .ok location => ⟨disk.put location .directory, .ok ()⟩
  | .error reason =>
    let settledFailure : Except Failure Unit :=
      if reason = .notFound || reason = .nullInName then .error ⟨reason, path.text⟩
      else
        match disk.isDir? path with
        | .ok true => .ok ()
        | .ok false => .error ⟨reason, path.text⟩
        | .error failure => .error failure
    ⟨disk, settledFailure⟩

/-- Create a directory below some names, after those on the way to it. -/
def makeDirsFrom (disk : Disk) (root : String) : (reversed : List String) → Changed Unit
  | [] => disk.makeDir ⟨root, []⟩
  | name :: above =>
    let path : FilePath := ⟨root, (name :: above).reverse⟩
    match disk.vacancy path with
    | .error .notFound =>
      match disk.makeDirsFrom root above with
      | ⟨disk, .ok ()⟩ => disk.makeDir path
      | failed => failed
    | _ => disk.makeDir path

/-- Create a directory and those on the way to it. -/
def makeDirs (disk : Disk) (path : FilePath) : Changed Unit :=
  disk.makeDirsFrom path.root path.names.reverse

/-- Write a file, replacing the one at the path if there is one. -/
def writeFile (disk : Disk) (path : FilePath) (content : Octets) : Changed Unit :=
  match disk.lookup path with
  | .ok (.found _ .directory) => ⟨disk, .error ⟨.isDirectory, path.text⟩⟩
  | .ok (.found location _) => ⟨disk.put location (.file content), .ok ()⟩
  | .ok (.vacant location) => ⟨disk.put location (.file content), .ok ()⟩
  | .error reason => ⟨disk, .error ⟨reason, path.text⟩⟩

end EditorPlugins.Disk
