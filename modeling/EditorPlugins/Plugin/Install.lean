import EditorPlugins.Disk.Change
import EditorPlugins.Plugin.Compilation

/-! # Writing generated files

Files are written one after another below a directory, which is made as needed. The first file that
cannot be written ends the work; what was written before it stays. So an installation gives the
disk after it in any case, together with the paths written or the error.
-/

namespace EditorPlugins.Plugin

/-- The disk after an installation, its log, and its outcome. -/
structure Installed (α : Type) where
  disk : Disk
  traced : Traced α

def writeFile (disk : Disk) (directory : FilePath) (file : GeneratedFile) :
    Disk × Except Error FilePath :=
  let path := directory.child file.path
  let wrap (failure : Disk.Failure) : Error :=
    if failure.reason = .nullInName then .disk failure else .writeFailed path.text failure
  match disk.makeDirs path.parent with
  | ⟨disk, .error failure⟩ => (disk, .error (wrap failure))
  | ⟨disk, .ok ()⟩ =>
    match disk.writeFile path (Text.Utf8.encode file.content) with
    | ⟨disk, .error failure⟩ => (disk, .error (wrap failure))
    | ⟨disk, .ok ()⟩ => (disk, .ok path)

def writeFiles (disk : Disk) (directory : FilePath) :
    List GeneratedFile → Disk × Except Error (List FilePath)
  | [] => (disk, .ok [])
  | file :: files =>
    match writeFile disk directory file with
    | (disk, .error error) => (disk, .error error)
    | (disk, .ok path) =>
      let (disk, outcome) := writeFiles disk directory files
      (disk, outcome.map (path :: ·))

def install (disk : Disk) (directory : FilePath) (files : List GeneratedFile) :
    Installed (List FilePath) :=
  match writeFiles disk directory files with
  | (disk, .error error) => ⟨disk, Traced.fail error⟩
  | (disk, .ok paths) =>
    let record := "Wrote " ++ Number.natText paths.length ++ " files to " ++ directory.text
    ⟨disk, ⟨[⟨.debug, record⟩], .ok paths⟩⟩

/-- Install the files of every target below a directory of the target's name. -/
def installAll (disk : Disk) (output : FilePath) :
    Compilation → Installed (Entries String (List FilePath))
  | [] => ⟨disk, pure []⟩
  | (target, files) :: rest =>
    let first := install disk (output.child target) files
    match first.traced.outcome with
    | .error error => ⟨first.disk, ⟨first.traced.log, .error error⟩⟩
    | .ok paths =>
      let later := installAll first.disk output rest
      ⟨later.disk, ⟨first.traced.log ++ later.traced.log,
        later.traced.outcome.map ((target, paths) :: ·)⟩⟩

end EditorPlugins.Plugin
