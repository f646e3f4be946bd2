import EditorPlugins.Disk.Failure
import EditorPlugins.Entries
import EditorPlugins.Octets
import EditorPlugins.Path.FilePath

/-! # The disk as a value

A disk maps locations, the lists of names from the root down, to directories, files and symbolic
links. Looking a path up follows links, at most `linkLimit` of them, and ends at an item or at a
vacant location whose directory exists. A path that is too long as it is given is refused before
anything is looked up. Reading operations are functions of the disk; the errors that only say that
there is nothing to be found count as an answer for `exists?` and `isDir?`. Permissions and what
other programs do to the disk are left out.
-/

namespace EditorPlugins.Disk

/-- The names from the root of the disk down to an item. -/
abbrev Location := List String

/-- What can stand at a location. -/
inductive Item where
  | directory
  | file (content : Octets)
  | link (target : String)
deriving DecidableEq

end EditorPlugins.Disk

namespace EditorPlugins

/-- The items of a disk by location, and the directory from which relative paths start. -/
structure Disk where
  items : Entries Disk.Location Disk.Item
  here : Disk.Location

namespace Disk

/-- A disk that holds nothing but its root. -/
def empty : Disk := ⟨[], []⟩

/-- The item at a location; the root is always a directory. -/
def item? (disk : Disk) (location : Location) : Option Item :=
  if location.isEmpty then some .directory else Entries.get? disk.items location

def put (disk : Disk) (location : Location) (item : Item) : Disk :=
  { disk with items := Entries.set disk.items location item }

/-- The greatest count of links that one lookup follows. -/
def linkLimit : Nat := 40

/-- The greatest count of octets in a name. -/
def nameLimit : Nat := 255

/-- The greatest count of octets in the text of a path, wherever it leads. -/
def pathLimit : Nat := 4095

/-- Where a lookup ends: at an item that is no link, or where nothing stands yet. -/
inductive Place where
  | found (location : Location) (item : Item)
  | vacant (location : Location)

/-- Go down from a directory, following at most `links` links. -/
def walk (disk : Disk) (links : Nat) (dir : Location) (names : List String) :
    Except Reason Place :=
  match names with
  | [] => .ok (.found dir .directory)
  | name :: rest =>
    if name = ".." then disk.walk links dir.dropLast rest
    else if nameLimit < name.utf8ByteSize then .error .nameTooLong
    else
      let next := dir ++ [name]
      match disk.item? next with
      | none => if rest.isEmpty then .ok (.vacant next) else .error .notFound
      | some .directory => disk.walk links next rest
      | some (.file content) =>
        if rest.isEmpty then .ok (.found next (.file content)) else .error .notDirectory
      | some (.link target) =>
        match links with
        | 0 => .error .tooManyLinks
        | links + 1 =>
          let target := FilePath.ofText target
          disk.walk links (if target.root = "" then dir else []) (target.names ++ rest)
termination_by (links, names.length)

def base (disk : Disk) (path : FilePath) : Location := if path.root = "" then disk.here else []

/-- Why a path is refused as it is given, before anything is looked up. -/
def refusal? (path : FilePath) : Option Reason :=
  if path.names.any fun name => name.toList.contains '\x00' then some .nullInName
  else if pathLimit < path.text.utf8ByteSize then some .nameTooLong
  else none

def lookup (disk : Disk) (path : FilePath) : Except Reason Place :=
  match refusal? path with
  | some reason => .error reason
  | none => disk.walk linkLimit (disk.base path) path.names

/-- Whether a reason only says that nothing can be found at a path. -/
def Reason.isAbsence : Reason → Bool
  | notFound | notDirectory | tooManyLinks | nullInName => true
  | _ => false

def itemAt? (disk : Disk) (path : FilePath) : Except Failure (Option Item) :=
  match disk.lookup path with
  | .ok (.found _ item) => .ok (some item)
  | .ok (.vacant _) => .ok none
  | .error reason => if reason.isAbsence then .ok none else .error ⟨reason, path.text⟩

def exists? (disk : Disk) (path : FilePath) : Except Failure Bool :=
  (disk.itemAt? path).map Option.isSome

def isDir? (disk : Disk) (path : FilePath) : Except Failure Bool :=
  (disk.itemAt? path).map fun item => item matches some .directory

def isFile? (disk : Disk) (path : FilePath) : Except Failure Bool :=
  (disk.itemAt? path).map fun item => item matches some (.file _)

def readFile (disk : Disk) (path : FilePath) : Except Failure Octets :=
  match disk.lookup path with
  | .ok (.found _ (.file content)) => .ok content
  | .ok (.found _ _) => .error ⟨.isDirectory, path.text⟩
  | .ok (.vacant _) => .error ⟨.notFound, path.text⟩
  | .error reason => .error ⟨reason, path.text⟩

/-- The name of an item that stands directly in a directory. -/
def nameIn? (directory location : Location) : Option String :=
  match location.getLast? with
  | some name => if location.dropLast = directory then some name else none
  | none => none

/-- The names in the directory at a location, in ascending order. -/
def namesIn (disk : Disk) (directory : Location) : List String :=
  (disk.items.filterMap fun entry => nameIn? directory entry.1).mergeSort fun a b => decide (a ≤ b)

def list (disk : Disk) (path : FilePath) : Except Failure (List String) :=
  match disk.lookup path with
  | .ok (.found location .directory) => .ok (disk.namesIn location)
  | .ok (.found _ _) => .error ⟨.notDirectory, path.text⟩
  | .ok (.vacant _) => .error ⟨.notFound, path.text⟩
  | .error reason => .error ⟨reason, path.text⟩

/-- The location that names lead to when what is missing is taken as it is written. No limit on the
length of paths applies. -/
def settle (disk : Disk) (links : Nat) (dir : Location) (names : List String) : Location :=
  match names with
  | [] => dir
  | name :: rest =>
    if name = ".." then disk.settle links dir.dropLast rest
    else
      match disk.item? (dir ++ [name]), links with
      | some (.link target), links + 1 =>
        let target := FilePath.ofText target
        disk.settle links (if target.root = "" then dir else []) (target.names ++ rest)
      | _, links => disk.settle links (dir ++ [name]) rest
termination_by (links, names.length)

/-- The path from the root that a path leads to, free of links and double dots. -/
def settled (disk : Disk) (path : FilePath) : FilePath :=
  ⟨"/", disk.settle linkLimit (disk.base path) path.names⟩

/-- No path without links is longer than this many names. -/
def depthBound (disk : Disk) : Nat := (linkLimit + 1) * (disk.items.length + 1)

end Disk

end EditorPlugins
