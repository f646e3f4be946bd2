import EditorPlugins.Config.Check
import EditorPlugins.Error
import EditorPlugins.Path.TemplatePath

/-! # Generated files

A generated file has a path below the root of its target. That the path stays there is part of the
type, so whoever writes files need not check again.
-/

namespace EditorPlugins.Plugin

/-- A file to be written below the root of a target. -/
structure GeneratedFile where
  path : String
  content : String
  safe : isSafeRelative path = true
deriving DecidableEq

namespace GeneratedFile

def refusal (path : String) : String :=
  "Generated path must be relative and stay inside the output root: " ++ Text.literal path

/-- The file with a path that stays below the root, or the reason against it. -/
def make (path content : String) : Config.Checked GeneratedFile :=
  if safe : isSafeRelative path = true then .ok ⟨path, content, safe⟩
  else (Config.Checked.fail (.refused (refusal path))).under (.field "relative_path")

/-- The file with a path that stays below the root. -/
def of (path content : String) : Except Error GeneratedFile :=
  match make path content with
  | .ok file => .ok file
  | .error issues => .error (.invalid issues)

def checkPath (value : Value) : Config.Checked { path : String // isSafeRelative path = true } :=
  match Config.checkText value with
  | .error issues => .error issues
  | .ok path =>
    if safe : isSafeRelative path = true then .ok ⟨path, safe⟩
    else Config.Checked.fail (.refused (refusal path))

def ofRecord (entries : Mapping) : Config.Checked GeneratedFile :=
  let path := Config.field entries "relative_path" checkPath
  let content := Config.field entries "content" Config.checkText
  (path.both content).map fun (path, content) => ⟨path.1, content, path.2⟩

def ofValue : Value → Config.Checked GeneratedFile := Config.checkRecord ofRecord

def size (file : GeneratedFile) : Nat := file.content.utf8ByteSize

end GeneratedFile

end EditorPlugins.Plugin
