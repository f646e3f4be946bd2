import EditorPlugins.Frontmatter.Envelope
import EditorPlugins.Template.Listing

/-! # Artifacts of a single file

An artifact is a markdown file of some category, cut into its frontmatter and its body.
-/

namespace EditorPlugins.Template

/-- A markdown file with its frontmatter read. -/
structure Artifact where
  name : String
  frontmatter : Mapping
  body : String
  category : String
  fileName : String

namespace Artifact

/-- The path of the file in the template tree. -/
def path (artifact : Artifact) : String :=
  let fileName :=
    if artifact.fileName = "" then artifact.name ++ markdownEnding else artifact.fileName
  artifact.category ++ "/" ++ fileName

end Artifact

namespace Source

def artifact (source : Source) (category fileName : String) : Except Error Artifact := do
  let text ← source.readText (joinPath category fileName)
  match Frontmatter.split text with
  | .error cause => throw (.number cause)
  | .ok document =>
    return ⟨withoutMarkdown fileName, document.frontmatter, document.body, category, fileName⟩

/-- Read all artifacts of a category, in the order of their files' names. -/
def artifacts (source : Source) (category : String) : Traced (List Artifact) := do
  let fileNames ← source.markdownFiles category
  let artifacts ← fileNames.mapM fun fileName => Traced.lift (source.artifact category fileName)
  Traced.note .debug
    ("Read " ++ Number.natText artifacts.length ++ " artifacts from " ++ category)
  return artifacts

end Source

end EditorPlugins.Template
