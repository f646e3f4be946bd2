import EditorPlugins.Plugin.Servers

/-! # Plugins with files of their own

A standalone plugin owns every file it installs: agents with their full frontmatter, rules, a
complete document of hooks, a complete document of tool servers, and a manifest.
-/

namespace EditorPlugins.Plugin.Standalone

open Config Template

def targetName : String := "claude-code"

/-- The order of the keys in the frontmatter of agents. -/
def agentKeys : List Scalar :=
  ["name", "model", "description", "memory", "color", "argument-hint", "tools", "skills"].map
    Scalar.text

def hooksPath : String := "hooks/hooks.json"

def serversPath : String := ".mcp.json"

def manifestPath : String := ".claude-plugin/plugin.json"

def instructionsPath : String := "instructions/AGENTS.md"

def manifestValue : Value :=
  .map <| Mapping.ofFields
    [("name", .text glyph),
      ("description", .text "Agent definitions, skills and workflow commands"),
      ("author", .map (Mapping.ofFields [("name", .text "PluginKit Contributors")]))]

/-- A text that is set and not empty, under a key. -/
def textEntry (key : String) : Option String → List (String × Value)
  | none => []
  | some text => if text = "" then [] else [(key, .text text)]

/-- A list of texts that is set and not empty, under a key. -/
def textsEntry (key : String) : Option (List String) → List (String × Value)
  | none => []
  | some texts => if texts.isEmpty then [] else [(key, Value.texts texts)]

/-- The frontmatter of an agent: its name, and the settings that are set and not empty. -/
def agentFrontmatter (name : String) (settings : AgentSettings) : Mapping :=
  Mapping.ofFields <|
    [("name", .text (withGlyph name))] ++ textEntry "model" settings.model ++
      textEntry "description" settings.description ++ textEntry "memory" settings.memory ++
      textEntry "color" settings.color ++ textEntry "argument-hint" settings.argumentHint ++
      textsEntry "tools" settings.tools ++ textsEntry "skills" settings.skills

def agentFile (agent : EnabledAgent) : Except Error GeneratedFile :=
  let frontmatter := agentFrontmatter agent.name agent.settings
  match Frontmatter.join frontmatter agent.body (some agentKeys) with
  | .error cause => .error (.number cause)
  | .ok content => GeneratedFile.of (Job.markedPath agentsDirectory agent.name) content

def agents (job : Job) : Traced (List GeneratedFile) := do
  (← job.enabledAgents).mapM fun agent => Traced.lift (agentFile agent)

/-- The protocols as rules, and the instructions. -/
def rules (job : Job) : Traced (List GeneratedFile) := do
  let protocols ← job.source.artifacts protocolsDirectory
  let files ← protocols.mapM (job.copyArtifact rulesDirectory)
  return files ++ (← job.instructions instructionsPath)

/-- The configured document of hooks, copied as it is; none when it is absent or not a map. -/
def hooks (job : Job) : Traced (List GeneratedFile) := do
  match ← job.config.hookSource? job.target with
  | none =>
    Traced.note .debug ("No hooks source configured for " ++ job.target)
    return []
  | some configured =>
    let path ← templateRelative configured.source
    match ← job.source.readText? path with
    | none =>
      Traced.note .debug ("Hooks source " ++ path ++ " not found")
      return []
    | some text =>
      match ← Json.readObject text path with
      | none => return []
      | some _ => return [← GeneratedFile.of hooksPath text]

def servers (job : Job) : Traced (List GeneratedFile) := do
  match ← job.servers with
  | none => return []
  | some config => return [← GeneratedFile.of serversPath (← Json.render (.map config))]

def manifest : Traced (List GeneratedFile) := do
  return [← GeneratedFile.of manifestPath (← Json.render manifestValue)]

/-- All files of a standalone plugin, in the order in which they are written. -/
def compile (job : Job) : Traced (List GeneratedFile) := do
  let agents ← agents job
  let skills ← job.skills
  let commands ← job.commands
  let rules ← rules job
  let hooks ← hooks job
  let scripts ← job.hookScripts
  let servers ← servers job
  let manifest ← manifest
  job.compiled (agents ++ skills ++ commands ++ rules ++ hooks ++ scripts ++ servers ++ manifest)

end EditorPlugins.Plugin.Standalone
