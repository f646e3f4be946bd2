import EditorPlugins.Plugin.File

/-! # Generated files

A generated file has the path and the content that it was made from.
-/

namespace EditorPlugins.Plugin.GeneratedFile

theorem of_eq_ok {path content : String} {file : GeneratedFile}
    (made : of path content = .ok file) :
    file.path = path ∧ file.content = content := by
  unfold of make at made
  split at made
  · next accepted =>
    split at accepted
    · cases accepted
      cases made
      exact ⟨rfl, rfl⟩
    · cases accepted
  · cases made

end EditorPlugins.Plugin.GeneratedFile
