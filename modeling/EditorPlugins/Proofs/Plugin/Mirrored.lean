import EditorPlugins.Plugin.Compilation
import EditorPlugins.Proofs.Plugin.Agents
import EditorPlugins.Proofs.Template.Mirror

/-! # Compiling from a mirror

Every step of compiling asks the source a few questions and goes on with the answers, so it gives
from a mirror what it gives from the mirrored source. Directories in which nothing is found are
the exception to what is listed, and they are the reason for most of the work here: they make no
command and no skill, and an agent only in a place where the configuration enables none.
-/

namespace EditorPlugins.Plugin

open Compose Template Traced

namespace Job

section Steps

variable (job : Job) {mirror : Source} (mirrors : mirror.Mirrors job.source)

include mirrors

end Steps

section Directories

variable (job : Job)

variable {mirror : Source} (mirrors : mirror.Mirrors job.source)

include mirrors

end Directories

section Agents

variable (job : Job)

variable {mirror : Source} (mirrors : mirror.Mirrors job.source)

include mirrors

end Agents

end Job

section Targets

variable (job : Job) {mirror : Source} (mirrors : mirror.Mirrors job.source)

include mirrors

end Targets

end EditorPlugins.Plugin
