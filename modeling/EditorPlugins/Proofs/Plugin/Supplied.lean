import EditorPlugins.Proofs.Plugin.Report
import EditorPlugins.Proofs.Template.Supplied

/-! # The order of files leaves no trace

A release bundles its templates as a list of files, in whatever order a tool came across them. What
is compiled from them does not depend on that order, and neither does the error of a failure.
-/

namespace EditorPlugins.Plugin

open Compose Config Template

/-- Files with different paths, supplied in any two orders, compile to the same result, with the
same log. -/
theorem compile_supplied {files shuffled : List (String × Octets)} (perm : files.Perm shuffled)
    (read : ∀ file ∈ files, (TemplatePath.ofText? file.1).isSome)
    (distinct : (files.map fun file => TemplatePath.ofText? file.1).Nodup) :
    ∃ first second, Snapshot.ofFiles files = .ok first ∧ Snapshot.ofFiles shuffled = .ok second ∧
      ∀ (root : FilePath) (config : TargetConfig) (bindings : Variables) (targets : List Target)
        (requested : Option (List String)),
        (Compiler.mk (first.source root) config bindings targets).compile requested =
          (Compiler.mk (second.source root) config bindings targets).compile requested := by
  obtain ⟨first, second, made, also, same⟩ := Snapshot.sources_of_perm perm read distinct
  refine ⟨first, second, made, also, fun root config bindings targets requested => ?_⟩
  rw [same root]

/-- The files of the roster compile to the same plugin when they are supplied from last to first. -/
theorem rosterFiles_supplied : ∃ second,
    Snapshot.ofFiles Compiler.rosterFiles.reverse = .ok second ∧
      second.files ≠ Compiler.rosterSnapshot.files ∧
      ({ Compiler.rosterCompiler with source := second.source ⟨"/", []⟩ }).compile none =
        Compiler.rosterCompiler.compile none := by
  have bundled : Snapshot.ofFiles Compiler.rosterFiles = .ok Compiler.rosterSnapshot := rfl
  obtain ⟨first, second, made, also, same⟩ :=
    compile_supplied (List.reverse_perm Compiler.rosterFiles).symm (by decide) (by decide)
  cases bundled.symm.trans made
  refine ⟨second, also, ?_, (same _ _ _ _ _).symm⟩
  cases also
  decide

end EditorPlugins.Plugin
