import EditorPlugins.Compose.Composition
import EditorPlugins.Proofs.Compose.Sections

/-! # Composing reads its own directory

What is composed from a directory depends on what stands at its path and below, and on nothing else,
because the entries of an order lead nowhere else. Two sources that agree there compose the same, or
fail in the same way.
-/

namespace EditorPlugins.Compose

open Template Traced

/-- Two sources give the same content, or the same error, at a path of the tree and below it. -/
def AgreeBelow (names : TemplatePath) (first second : Source) : Prop :=
  ∀ path below, TemplatePath.ofText? path = some (names ++ below) →
    first.readBytes path = second.readBytes path

theorem isInside_orderFile : TemplatePath.IsInside orderFile := by decide

private theorem isInside_variablesFile : TemplatePath.IsInside variablesFile := by decide

/-- The metadata of a directory has its path, and the sections of its order. -/
theorem isEntry_of_readComposable {source : Source} {directory : String} {artifact : Composable}
    (ran : (readComposable source directory).outcome = .ok (some artifact)) :
    artifact.path = directory ∧ ∀ entry ∈ artifact.sections, IsEntry entry := by
  rw [readComposable, bind_eq_ok_iff] at ran
  obtain ⟨order, -, ran⟩ := ran
  cases order with
  | none => cases ran
  | some order =>
    rw [bind_eq_ok_iff] at ran
    obtain ⟨values, -, ran⟩ := ran
    rw [bind_eq_ok_iff] at ran
    obtain ⟨sections, read, ran⟩ := ran
    have made : artifact.path = directory ∧ artifact.sections = sections := by
      cases values with
      | none =>
        cases ran
        exact ⟨rfl, rfl⟩
      | some text =>
        simp only at ran
        split at ran
        · cases ran
          exact ⟨rfl, rfl⟩
        · obtain ⟨bindings, -, last⟩ := bind_eq_ok_iff.mp ran
          cases last
          exact ⟨rfl, rfl⟩
    obtain ⟨entries, also, isEntry⟩ := exists_readOrder order
    cases read.symm.trans also
    rw [made.2]
    exact ⟨made.1, isEntry⟩

section Agree

variable {first second : Source} {names : TemplatePath} (base : TemplatePath.IsBase names)
  (agree : AgreeBelow names first second)

include base agree

private theorem readText?_congr {path : String} (inside : TemplatePath.IsInside path) :
    first.readText? (joinPath (TemplatePath.text names) path) =
      second.readText? (joinPath (TemplatePath.text names) path) := by
  obtain ⟨below, read⟩ := base.ofText?_joinPath inside
  rw [Source.readText?, Source.readText, agree _ below read]
  rfl

private theorem readComposable_congr : readComposable first (TemplatePath.text names) =
    readComposable second (TemplatePath.text names) := by
  simp only [readComposable, readText?_congr base agree isInside_orderFile,
    readText?_congr base agree isInside_variablesFile]

/-- Sources that agree below a directory compose the same from it. -/
theorem outcome_composeDirectory_congr {target : String} (isTarget : IsTargetName target)
    (extra : Variables) :
    (composeDirectory first (TemplatePath.text names) target extra).outcome =
      (composeDirectory second (TemplatePath.text names) target extra).outcome := by
  refine outcome_bind_congr (by rw [readComposable_congr base agree]) fun artifact read => ?_
  cases artifact with
  | none => rfl
  | some artifact =>
    obtain ⟨path, isEntry⟩ := isEntry_of_readComposable read
    refine outcome_bind_congr (outcome_mapM_congr fun entry member => ?_) fun _ _ => rfl
    simp only [sectionAt, path,
      readText?_congr base agree ((isEntry entry member).isInside isTarget)]

end Agree

end EditorPlugins.Compose
