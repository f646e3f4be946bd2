import EditorPlugins.Compose.Composition
import EditorPlugins.Config.Target
import EditorPlugins.Plugin.File
import EditorPlugins.Template.Artifact

/-! # Compiling for one target

A job is what a target compiles from: the templates, the configuration and extra variables. Agents
and commands are directories that are composed, or single files; a directory hides a single file of
its name. Only agents that the configuration enables are composed at all.
-/

namespace EditorPlugins.Plugin

open Compose Config Template

/-- What a target is compiled from. -/
structure Job where
  target : String
  source : Source
  config : TargetConfig
  bindings : Variables

def agentsDirectory : String := "agents"

def skillsDirectory : String := "skills"

def commandsDirectory : String := "commands"

def protocolsDirectory : String := "protocols"

def rulesDirectory : String := "rules"

/-- The directory of hook scripts, in the template tree and below a target's root. -/
def scriptsDirectory : String := "hooks/scripts"

def templatesDirectory : String := "templates"

/-- A configured path as a path inside the template tree; the tree's own directory may be named in
front of it. -/
def templateRelative (path : String) : Except Error String := do
  match ← readPath path with
  | first :: second :: rest =>
    if first = templatesDirectory then return TemplatePath.text (second :: rest)
    else return TemplatePath.text (first :: second :: rest)
  | names => return TemplatePath.text names

/-- An agent that is enabled for a target, with its body. -/
structure EnabledAgent where
  name : String
  settings : AgentSettings
  body : String
  composed : Bool

/-- A composable directory among agents, with the agent if it is enabled. -/
structure Candidate where
  name : String
  agent : Option EnabledAgent

namespace Job

def compose (job : Job) (directory : String) : Traced String :=
  composeDirectory job.source directory job.target job.bindings

/-- The settings of an agent that is enabled for the target; a record says when it is not. -/
def enabledSettings? (job : Job) (name : String) : Traced (Option AgentSettings) :=
  match job.config.agentSettings? name job.target with
  | some settings => return some settings
  | none => do
    Traced.note .debug ("Agent " ++ name ++ " not enabled for " ++ job.target)
    return none

/-- The agent in a directory; `none` when the directory is not composable. -/
def directoryAgent (job : Job) (directory : String) : Traced (Option Candidate) := do
  let path := joinPath agentsDirectory directory
  if !(← isComposable job.source path) then return none
  match ← job.enabledSettings? directory with
  | none => return some ⟨directory, none⟩
  | some settings =>
    let body ← job.compose path
    return some ⟨directory, some ⟨directory, settings, body, true⟩⟩

/-- The agent in a single file, unless a directory hides it. -/
def fileAgent (job : Job) (hidden : List String) (artifact : Artifact) :
    Traced (Option EnabledAgent) := do
  if hidden.contains artifact.name then
    Traced.note .debug
      ("Agent " ++ artifact.name ++ " is composable, skipping " ++ artifact.fileName)
    return none
  match ← job.enabledSettings? artifact.name with
  | none => return none
  | some settings => return some ⟨artifact.name, settings, artifact.body, false⟩

def noteEnabled (job : Job) (agent : EnabledAgent) : Traced Unit :=
  Traced.note .debug ("Agent " ++ agent.name ++ " enabled for " ++ job.target ++ " (" ++
    (if agent.composed then "composed" else "single file") ++ ")")

/-- The agents that are enabled for the target: the composed ones first, then those of single
files, each group in the order of names. -/
def enabledAgents (job : Job) : Traced (List EnabledAgent) := do
  let directories ← job.source.subdirectories agentsDirectory
  let candidates := (← directories.mapM job.directoryAgent).filterMap id
  let artifacts ← job.source.artifacts agentsDirectory
  let single ← artifacts.mapM (job.fileAgent (candidates.map Candidate.name))
  let agents := candidates.filterMap Candidate.agent ++ single.filterMap id
  agents.forM job.noteEnabled
  return agents

def markedPath (directory name : String) : String :=
  directory ++ "/" ++ withGlyph name ++ markdownEnding

def skillFile (job : Job) (skill relative : String) : Traced GeneratedFile := do
  let content ← job.source.readText (joinPath (joinPath skillsDirectory skill) relative)
  GeneratedFile.of (skillsDirectory ++ "/" ++ withGlyph skill ++ "/" ++ relative) content

def skill (job : Job) (skill : String) : Traced (List GeneratedFile) := do
  (← job.source.tree (joinPath skillsDirectory skill)).mapM (job.skillFile skill)

/-- The files of all skills, below directories that carry the glyph. -/
def skills (job : Job) : Traced (List GeneratedFile) := do
  return (← (← job.source.subdirectories skillsDirectory).mapM job.skill).flatten

/-- The command in a directory; `none` when the directory is not composable. -/
def directoryCommand (job : Job) (directory : String) :
    Traced (Option (String × GeneratedFile)) := do
  let path := joinPath commandsDirectory directory
  if !(← isComposable job.source path) then return none
  let body ← job.compose path
  return some (directory, ← GeneratedFile.of (markedPath commandsDirectory directory) body)

/-- The file of an artifact, copied as it is below a directory. -/
def copyArtifact (job : Job) (directory : String) (artifact : Artifact) :
    Traced GeneratedFile := do
  let content ← job.source.readText artifact.path
  GeneratedFile.of (markedPath directory artifact.name) content

/-- The commands: the composed ones first, then copies of the single files. -/
def commands (job : Job) : Traced (List GeneratedFile) := do
  let directories ← job.source.subdirectories commandsDirectory
  let composed := (← directories.mapM job.directoryCommand).filterMap id
  let artifacts ← job.source.artifacts commandsDirectory
  let shown := artifacts.filter fun artifact => !(composed.map Prod.fst).contains artifact.name
  let single ← shown.mapM (job.copyArtifact commandsDirectory)
  return composed.map Prod.snd ++ single

/-- The document of instructions, if its directory is composable. -/
def instructions (job : Job) (path : String) : Traced (List GeneratedFile) := do
  match ← readComposable job.source rulesDirectory with
  | none => return []
  | some artifact =>
    let body ← composeArtifact job.source artifact job.target job.bindings
    return [← GeneratedFile.of path body]

/-- The directory of the target's hook scripts in the template tree. -/
def scriptsPath (job : Job) : Except Error String := do
  match ← job.config.hookSource? job.target with
  | some ⟨_, some scripts⟩ =>
    if scripts = "" then return scriptsDirectory else templateRelative scripts
  | _ => return scriptsDirectory

def scriptFile (job : Job) (directory name : String) : Traced GeneratedFile := do
  let content ← job.source.readText (joinPath directory name)
  GeneratedFile.of (scriptsDirectory ++ "/" ++ name) content

def hookScripts (job : Job) : Traced (List GeneratedFile) := do
  let directory ← job.scriptsPath
  (← job.source.plainFiles directory).mapM (job.scriptFile directory)

/-- The files of the whole target, with a record of their count. -/
def compiled (job : Job) (files : List GeneratedFile) : Traced (List GeneratedFile) := do
  Traced.note .info
    ("Compiled " ++ Number.natText files.length ++ " files for " ++ job.target)
  return files

end Job

end EditorPlugins.Plugin
