import EditorPlugins.Json.Document
import EditorPlugins.Merge.ServerPaths
import EditorPlugins.Plugin.Job

/-! # Tool servers of a target

The configuration of tool servers is the first of two documents that exists. When it is not a map
it is passed over, and the other document is not looked at.
-/

namespace EditorPlugins.Plugin

/-- The documents that may hold the configuration of tool servers. -/
def serverDocuments : List String := ["configs/mcp.json", "mcp.json"]

namespace Job

/-- The configuration of tool servers in the first of some documents, with absolute arguments. -/
def serversIn (job : Job) : List String → Traced (Option Mapping)
  | [] => do
    Traced.note .debug ("No MCP config found for " ++ job.target)
    return none
  | path :: paths => do
    match ← job.source.readText? path with
    | none => job.serversIn paths
    | some text =>
      match ← Json.readObject text path with
      | none => return none
      | some config => return some (← Merge.resolveServers config job.source.projectRoot)

def servers (job : Job) : Traced (Option Mapping) := job.serversIn serverDocuments

end Job

end EditorPlugins.Plugin
