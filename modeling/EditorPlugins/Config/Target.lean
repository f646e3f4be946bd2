import EditorPlugins.Config.Settings
import EditorPlugins.Error
import EditorPlugins.Template.Naming

/-! # Target configuration

The configuration says for every agent and every target whether and how the agent is compiled. An
agent that is nothing for a target is disabled, one that has no entry is unconfigured; both are
skipped. Agents whose names carry the glyph fall back to their plain names. Beside the targets, an
agent may carry descriptions of its own, which are dropped.
-/

namespace EditorPlugins.Config

open Number Template

/-- What a configuration document says. -/
structure TargetConfig where
  version : String
  targets : Entries String Value
  agents : Entries String (Entries String (Option AgentSettings))
  hooks : Entries String (Option (Entries String Value))
  skills : Entries String Value
  commands : Entries String Value
  protocols : Entries String Value

/-- How an agent is configured for a target. -/
inductive AgentStatus where
  | configured
  | disabled
  | unconfigured
deriving DecidableEq, Repr

def AgentStatus.name : AgentStatus → String
  | configured => "configured"
  | disabled => "disabled"
  | unconfigured => "unconfigured"

namespace TargetConfig

/-- A version is a text or a number. -/
def checkVersion : Value → Checked String
  | .int n =>
    if withinLimit n then .ok (intText n)
    else Checked.fail (.refused ConversionError.valueTooLarge.message)
  | .float x => .ok (x.text displayNames)
  | value => checkText value

/-- Keep what is a map or nothing in the entry of an agent. -/
def dropDescriptions : Value → Value
  | .map entries => .map (entries.filter fun entry => entry.2 matches .map _ | .null)
  | value => value

def checkAgent (value : Value) : Checked (Entries String (Option AgentSettings)) :=
  checkMap (checkOptional AgentSettings.ofValue) (dropDescriptions value)

def ofRecord (entries : Mapping) : Checked TargetConfig :=
  let fields := (fieldOr entries ["version"] "" checkVersion).both <|
    (fieldOr entries ["targets"] [] checkAnyMap).both <|
    (fieldOr entries ["agents"] [] (checkMap checkAgent)).both <|
    (fieldOr entries ["hooks"] [] (checkMap (checkOptional checkAnyMap))).both <|
    (fieldOr entries ["skills"] [] checkAnyMap).both <|
    (fieldOr entries ["commands"] [] checkAnyMap).both <|
    fieldOr entries ["protocols"] [] checkAnyMap
  fields.map fun (version, targets, agents, hooks, skills, commands, protocols) =>
    ⟨version, targets, agents, hooks, skills, commands, protocols⟩

def ofValue : Value → Checked TargetConfig := checkRecord ofRecord

/-- The entry of an agent, under its name or, for a marked one, under its plain name. -/
def agentEntry? (config : TargetConfig) (name : String) :
    Option (Entries String (Option AgentSettings)) :=
  match Entries.get? config.agents name with
  | some entry => some entry
  | none => Entries.get? config.agents (withoutGlyph name)

/-- The settings of an agent for a target; `none` when it is skipped. -/
def agentSettings? (config : TargetConfig) (name target : String) : Option AgentSettings :=
  ((config.agentEntry? name).bind fun entry => Entries.get? entry target).join

def agentStatus (config : TargetConfig) (name target : String) : AgentStatus :=
  match (config.agentEntry? name).bind fun entry => Entries.get? entry target with
  | none => .unconfigured
  | some none => .disabled
  | some (some _) => .configured

/-- The file of hooks of a target. It is kept among the hooks, under the target's own name. -/
def hookSource? (config : TargetConfig) (target : String) : Except Error (Option HookSource) :=
  match Entries.get? config.hooks target with
  | some (some entry) =>
    match Entries.get? entry "source" with
    | some (.text _) =>
      match HookSource.ofRecord (Mapping.ofFields entry) with
      | .ok source => .ok (some source)
      | .error issues => .error (.hookSourceInvalid target issues)
    | _ => .ok none
  | _ => .ok none

/-- The registration of a hook for a target, if its entry holds one. -/
def registration? (target name : String) (entry : Option (Entries String Value)) :
    Except Error (Option (String × HookSettings)) :=
  match entry.bind fun entry => Entries.get? entry target with
  | some (.map settings) =>
    if Entries.has settings (Scalar.text "event") then
      match HookSettings.ofRecord settings with
      | .ok hook => .ok (some (name, hook))
      | .error issues => .error (.hookInvalid name target issues)
    else .ok none
  | _ => .ok none

/-- The hooks that are registered for a target, in the order of the document. -/
def hookRegistrations (config : TargetConfig) (target : String) :
    Except Error (List (String × HookSettings)) := do
  let found ← config.hooks.mapM fun (name, entry) => registration? target name entry
  return found.filterMap id

def anyMapValue (entries : Entries String Value) : Value := .map (Mapping.ofFields entries)

def settingsValue : Option AgentSettings → Value
  | some settings => settings.toValue
  | none => .null

def hookValue : Option (Entries String Value) → Value
  | some entries => anyMapValue entries
  | none => .null

def toValue (config : TargetConfig) : Value :=
  let agents := config.agents.map fun (agent, targets) =>
    (agent, anyMapValue (targets.map fun (target, settings) => (target, settingsValue settings)))
  let hooks := config.hooks.map fun (hook, entry) => (hook, hookValue entry)
  .map <| Mapping.ofFields
    [("version", .text config.version), ("targets", anyMapValue config.targets),
      ("agents", anyMapValue agents), ("hooks", anyMapValue hooks),
      ("skills", anyMapValue config.skills), ("commands", anyMapValue config.commands),
      ("protocols", anyMapValue config.protocols)]

end TargetConfig

end EditorPlugins.Config
