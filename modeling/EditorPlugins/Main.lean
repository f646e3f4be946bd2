import EditorPlugins.CommandLine.Run

/-! # The program

The program reads the paths of the files that it may use from its standard input, one on each line,
a path that ends in a slash being a directory. It takes the command from its arguments, and writes
the files that the run adds or changes. Paths are taken from the current directory.
-/

namespace EditorPlugins.Program

/-- The lines of a stream up to its end. -/
partial def readLines (stream : IO.FS.Stream) : IO (List String) := do
  let line ← stream.getLine
  if line.isEmpty then return []
  let text := String.ofList (Text.dropEndWhile Text.isNewline line.toList)
  return text :: (← readLines stream)

/-- The disk with one more file or directory and the directories on the way to it. -/
def addPath (disk : Disk) (text : String) : IO Disk := do
  let path := FilePath.ofText text
  if Text.endsWith "/" text then return (disk.makeDirs path).disk
  let content ← IO.FS.readBinFile text
  return ((disk.makeDirs path.parent).disk.writeFile path content.toList).disk

/-- The disk with the current directory and everything that is listed. -/
def readDisk (listed : List String) : IO Disk := do
  let here := FilePath.ofText (toString (← IO.currentDir))
  let start := (Disk.empty.makeDirs here).disk
  listed.foldlM addPath { start with here := here.names }

def writeItem (entry : Disk.Location × Disk.Item) : IO Unit := do
  let path : FilePath := ⟨"/", entry.1⟩
  match entry.2 with
  | .directory => IO.FS.createDirAll path.text
  | .file content => IO.FS.writeBinFile path.text (ByteArray.mk content.toArray)
  | .link _ => return ()

end EditorPlugins.Program

open EditorPlugins in
/-- Run the command that the arguments name. -/
def main (arguments : List String) : IO UInt32 := do
  let listed ← Program.readLines (← IO.getStdin)
  let disk ← Program.readDisk (listed.filter (· ≠ ""))
  let ending := CommandLine.run disk arguments
  for block in ending.page do
    IO.print block.text
  for remark in ending.remarks do
    IO.eprintln remark
  for entry in ending.disk.items do
    if disk.item? entry.1 ≠ some entry.2 then Program.writeItem entry
  return ending.exitCode.toUInt32
