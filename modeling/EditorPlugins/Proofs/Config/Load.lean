import EditorPlugins.Config.Load
import EditorPlugins.Proofs.Config.Mismatch
import EditorPlugins.Proofs.Json.Overlong
import EditorPlugins.Proofs.Traced

/-! # How loading a configuration fails

Loading gives a configuration or an error of configurations, with a few exceptions. They are listed
here in the order in which the work is done: the path cannot be asked for, the octets are no text,
the document holds a value that cannot be made, or what is wrong with it cannot be worded. The list
is complete whatever reader of YAML is at work, as long as it gives the values of trees: a reader
fails in its own way, which loading expects, or in another one, which gets through.
-/

namespace EditorPlugins

namespace Disk

end Disk

namespace Config

open Text

variable (yaml : String → Yaml.Read Value)

/-- Asked for a truth value by a tag, the reader of YAML has none for a text that names none. -/
example : (match Yaml.read "version: !!bool maybe" with
    | .error cause => decide (cause = .refused (.notTruth "maybe"))
    | .ok _ => false) = true := by decide +kernel

end Config

end EditorPlugins
