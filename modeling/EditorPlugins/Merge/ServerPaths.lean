import EditorPlugins.Path.FilePath
import EditorPlugins.Traced

/-! # Arguments of tool servers

Hosts start tool servers from any directory, so arguments that are relative to the project are
turned into absolute paths. Only texts that start with a dot and a slash are such arguments.
-/

namespace EditorPlugins.Merge

open Text

/-- What an argument relative to the project starts with. -/
def relativeMark : String := "./"

def serversKey : String := "mcpServers"

def resolveArgument (root : FilePath) : Value → Value
  | .text argument =>
    if startsWith relativeMark argument then
      .text (root.child (String.ofList (argument.toList.drop 2))).text
    else .text argument
  | other => other

/-- A server with its arguments made absolute; `none` when it has no list of arguments. -/
def resolveServer? (root : FilePath) (server : Value) : Option Value :=
  match server.map? with
  | none => none
  | some entries =>
    ((Mapping.field? entries "args").bind Value.list?).map fun arguments =>
      .map (Mapping.setField entries "args" (.list (arguments.map (resolveArgument root))))

/-- An entry of the map of servers with the server's arguments made absolute. -/
def resolveEntry (root : FilePath) (entry : Scalar × Value) : Traced (Scalar × Value) :=
  match resolveServer? root entry.2 with
  | none => return entry
  | some server => do
    Traced.note .debug ("Resolved MCP server " ++ entry.1.display ++ " arguments")
    return (entry.1, server)

/-- A configuration of servers with all their arguments made absolute. -/
def resolveServers (config : Mapping) (root : FilePath) : Traced Mapping :=
  match (Mapping.field? config serversKey).bind Value.map? with
  | none => return config
  | some servers => do
    return Mapping.setField config serversKey (.map (← servers.mapM (resolveEntry root)))

end EditorPlugins.Merge
