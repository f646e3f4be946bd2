import EditorPlugins.Compose.Metadata
import EditorPlugins.Template.Source

/-! # Composing a body from sections

The body of a composable artifact for one target is the sections of its order, each with its
placeholders replaced and without the line endings at its end. Sections that end up empty leave no
trace; the others are separated by an empty line, and the body ends with one feed. A section that
only some targets have may be missing, any other one must exist.
-/

namespace EditorPlugins.Compose

open Text Template

/-- A directory whose sections make up a body. -/
structure Composable where
  path : String
  sections : List String
  bindings : Entries String Variables

namespace Composable

/-- The name of a composable artifact is the name of its directory. -/
def name (artifact : Composable) : String := TemplatePath.lastName artifact.path

def variablesFor (artifact : Composable) (target : String) : Variables :=
  (Entries.get? artifact.bindings target).getD []

end Composable

/-- Whether a directory has an order. -/
def isComposable (source : Source) (directory : String) : Except Error Bool :=
  source.exists? (joinPath directory orderFile)

/-- Read the metadata of a directory; `none` when it has no order. -/
def readComposable (source : Source) (directory : String) : Traced (Option Composable) := do
  match ← source.readText? (joinPath directory orderFile) with
  | none => return none
  | some order =>
    let bindings ← source.readText? (joinPath directory variablesFile)
    let sections ← readOrder order
    let bindings ←
      match bindings with
      | none => pure []
      | some text => if text = "" then pure [] else Traced.lift (readVariables text)
    return some ⟨directory, sections, bindings⟩

/-- A section with its placeholders replaced and without the line endings at its end. -/
def sectionText (bindings : Variables) (content : String) : List Char :=
  dropEndWhile isNewline (substitute content bindings).toList

/-- The text of the section at an entry; `none` when this target has no such section. -/
def sectionAt (source : Source) (path target : String) (bindings : Variables) (entry : String) :
    Traced (Option (List Char)) := do
  let resolved := joinPath path (withTarget entry target)
  match ← source.readText? resolved with
  | some content => return some (sectionText bindings content)
  | none =>
    if isVariant entry then
      Traced.note .debug ("No " ++ target ++ " variant for " ++ resolved ++ ", skipping")
      return none
    else Traced.fail (.sectionMissing path entry target)

/-- The body that some sections make up. -/
def joinSections (sections : List (Option (List Char))) : String :=
  let written := (sections.filterMap id).filter fun text => !text.isEmpty
  String.ofList (joinWith ['\n', '\n'] written ++ ['\n'])

/-- Compose the body of an artifact for a target; extra variables come before its own. -/
def composeArtifact (source : Source) (artifact : Composable) (target : String)
    (extra : Variables) : Traced String := do
  let bindings := Entries.update (artifact.variablesFor target) extra
  let sections ← artifact.sections.mapM (sectionAt source artifact.path target bindings)
  return joinSections sections

/-- Compose the body of a directory that must be composable. -/
def composeDirectory (source : Source) (directory target : String) (extra : Variables) :
    Traced String := do
  match ← readComposable source directory with
  | none => Traced.fail (.notComposable directory)
  | some artifact => composeArtifact source artifact target extra

end EditorPlugins.Compose
