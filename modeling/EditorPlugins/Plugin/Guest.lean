import EditorPlugins.Merge.Payload
import EditorPlugins.Plugin.Servers

/-! # Plugins that share files with their host

A guest plugin shares the host's documents of hooks and tool servers, so it brings payloads to be
merged into them. Its agents carry only a description. A few protocols become rules that always
apply, the others become documents to refer to.
-/

namespace EditorPlugins.Plugin.Guest

open Config Template

def targetName : String := "cursor"

def ruleEnding : String := ".mdc"

def referenceDirectory : String := ".agents"

/-- The document of hooks that is taken when none is configured. -/
def defaultHooks : String := "hooks/cursor.json"

def hooksPath : String := "hooks/hooks.merge.json"

def serversPath : String := "mcp/mcp.merge.json"

def instructionsPath : String := "AGENTS.md"

/-- The protocols that become rules. -/
def defaultRules : List String := ["AGENT-INSTRUCTIONS.md"]

/-- References to protocols, and where the documents they mean are found. -/
def references : List (String × String) :=
  [("See \x60AGENT-SYSTEM.md\x60", "See \x60~/.agents/AGENT-SYSTEM.md\x60"),
    ("See SESSION-PROTOCOL.md", "See ~/.agents/SESSION-PROTOCOL.md"),
    ("See \x60SESSION-PROTOCOL.md\x60", "See \x60~/.agents/SESSION-PROTOCOL.md\x60")]

/-- Replace one reference everywhere. -/
def rewriteReference (body : List Char) (reference : String × String) : List Char :=
  Text.replaceAll reference.1.toList reference.2.toList body

/-- Make the references of a rule point to where the documents are found. -/
def rewriteReferences (body : String) : String :=
  String.ofList (references.foldl rewriteReference body.toList)

def registration (hook : String) (settings : HookSettings) : Value :=
  let script :=
    match settings.script with
    | some script => if script = "" then withGlyph hook ++ ".js" else script
    | none => withGlyph hook ++ ".js"
  let timeout := if settings.timeout = 0 then HookSettings.defaultTimeout else settings.timeout
  .map <| Mapping.ofFields
    [("matcher", .text settings.matcher),
      ("hooks", .list
        [.map <| Mapping.ofFields
          [("type", .text "command"), ("command", .text (scriptsDirectory ++ "/" ++ script)),
            ("timeout", .int timeout)]])]

/-- The frontmatter of an agent: its description, if it is set and not empty. -/
def agentFrontmatter (settings : AgentSettings) : Mapping :=
  match settings.description with
  | some description =>
    if description = "" then [] else Mapping.ofFields [("description", .text description)]
  | none => []

def agentFile (agent : EnabledAgent) : Except Error GeneratedFile :=
  match Frontmatter.join (agentFrontmatter agent.settings) agent.body none with
  | .error cause => .error (.number cause)
  | .ok content => GeneratedFile.of (Job.markedPath agentsDirectory agent.name) content

def agents (job : Job) : Traced (List GeneratedFile) := do
  (← job.enabledAgents).mapM fun agent => Traced.lift (agentFile agent)

/-- The rule of a protocol, which always applies. -/
def ruleFile (artifact : Artifact) : Except Error GeneratedFile :=
  let frontmatter := Mapping.setField artifact.frontmatter "alwaysApply" (.bool true)
  match Frontmatter.join frontmatter (rewriteReferences artifact.body) none with
  | .error cause => .error (.number cause)
  | .ok content =>
    GeneratedFile.of (rulesDirectory ++ "/" ++ withGlyph artifact.name ++ ruleEnding) content

/-- The document of a protocol, copied as it is. -/
def referenceFile (job : Job) (artifact : Artifact) : Except Error GeneratedFile := do
  let content ← job.source.readText artifact.path
  GeneratedFile.of (referenceDirectory ++ "/" ++ artifact.name ++ markdownEnding) content

def protocolFile (job : Job) (rules : List String) (artifact : Artifact) :
    Except Error GeneratedFile :=
  if rules.contains artifact.fileName then ruleFile artifact else referenceFile job artifact

/-- The protocols as rules and documents, and the instructions. -/
def protocols (job : Job) (rules : List String) : Traced (List GeneratedFile) := do
  let artifacts ← job.source.artifacts protocolsDirectory
  let files ← artifacts.mapM fun artifact => Traced.lift (protocolFile job rules artifact)
  return files ++ (← job.instructions instructionsPath)

/-- The document of hooks in the template tree; empty when it is absent or not a map. -/
def hooksDocument (job : Job) : Traced Mapping := do
  let path ←
    match ← job.config.hookSource? job.target with
    | some configured => templateRelative configured.source
    | none => pure defaultHooks
  match ← job.source.readText? path with
  | none => return []
  | some text => return (← Json.readObject text path).getD []

/-- Add the registration of a hook behind the entries of its event. -/
def addRegistration (events : Mapping) (hook : String × HookSettings) : Mapping :=
  let existing := ((Mapping.field? events hook.2.event).bind Value.list?).getD []
  Mapping.setField events hook.2.event (.list (existing ++ [registration hook.1 hook.2]))

def eventsOf (document : Mapping) : Mapping :=
  ((Mapping.field? document "hooks").bind Value.map?).getD []

def withRegistrations (document : Mapping) (hooks : List (String × HookSettings)) : Mapping :=
  let events := hooks.foldl addRegistration (eventsOf document)
  if events.isEmpty then document else Mapping.setField document "hooks" (.map events)

/-- The hooks of the plugin: those of its document and those registered in the configuration. -/
def hooksContent (job : Job) : Traced Mapping := do
  let document ← hooksDocument job
  let registered ← job.config.hookRegistrations job.target
  return withRegistrations document registered

def payloadFile (path : String) (content : Mapping) : Traced GeneratedFile := do
  let payload ← Traced.ofExcept Error.invalid (Merge.Payload.ofContent content none)
  GeneratedFile.of path (← Json.render payload.toValue)

def hooks (job : Job) : Traced (List GeneratedFile) := do
  let content ← hooksContent job
  if (Mapping.field? content "hooks").any Value.isTruthy then
    return [← payloadFile hooksPath content]
  else
    Traced.note .debug ("No hooks declared for " ++ job.target)
    return []

def servers (job : Job) : Traced (List GeneratedFile) := do
  match ← job.servers with
  | none => return []
  | some config => return [← payloadFile serversPath config]

/-- All files of a guest plugin, in the order in which they are written. -/
def compile (job : Job) (rules : List String) : Traced (List GeneratedFile) := do
  let agents ← agents job
  let skills ← job.skills
  let commands ← job.commands
  let protocols ← protocols job rules
  let hooks ← hooks job
  let scripts ← job.hookScripts
  let servers ← servers job
  job.compiled (agents ++ skills ++ commands ++ protocols ++ hooks ++ scripts ++ servers)

end EditorPlugins.Plugin.Guest
