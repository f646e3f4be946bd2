import EditorPlugins.CommandLine.Arguments
import EditorPlugins.Disk.Basic
import EditorPlugins.Plugin.Job

/-! # Commands

A command line names one command: `build` compiles the templates of a project, `status` shows how
its agents are configured, `version` shows the version. Requests for the version or for help come
before everything else that a readable command line says.
-/

namespace EditorPlugins.CommandLine

/-- Where the templates of a project and their configuration are found. -/
structure Location where
  project : Option String
  templates : String
  config : Option String
deriving DecidableEq, Repr

/-- What a build is to do. -/
structure BuildRequest where
  place : Location
  targets : List String
  output : Option String
  assignments : List String
  dryRun : Bool
  report : Bool
  verbose : Bool
deriving DecidableEq, Repr

/-- What a command line asks for. -/
inductive Command where
  | version
  | help
  | build (request : BuildRequest)
  | status (place : Location)
deriving DecidableEq, Repr

def helpRule : OptionRule := ⟨"--help", none, false⟩

def globalRules : List OptionRule := [⟨"--version", none, false⟩, helpRule]

/-- The options that tell where the templates are found. -/
def locationRules : List OptionRule :=
  [⟨"--project", some 'p', true⟩, ⟨"--templates", none, true⟩, ⟨"--config", some 'c', true⟩,
    helpRule]

def buildRules : List OptionRule :=
  locationRules ++
    [⟨"--target", some 't', true⟩, ⟨"--output", some 'o', true⟩, ⟨"--var", none, true⟩,
      ⟨"--dry-run", none, false⟩, ⟨"--json", none, false⟩, ⟨"--verbose", some 'v', false⟩]

namespace Location

/-- The location that the options of a command tell. -/
def ofArguments (arguments : Arguments) : Location :=
  ⟨arguments.value? "--project",
    (arguments.value? "--templates").getD Plugin.templatesDirectory,
    arguments.value? "--config"⟩

/-- The path of the project; without one it is the current directory. -/
def projectPath (disk : Disk) (place : Location) : FilePath :=
  match place.project with
  | some path => FilePath.ofText path
  | none => ⟨"/", disk.here⟩

end Location

namespace Command

/-- The command of a command line whose words are read, unless help is wanted or words are left. -/
def orHelp (arguments : Arguments) (command : Except UsageError Command) :
    Except UsageError Command :=
  if arguments.has helpRule.name then .ok help
  else
    match command with
    | .error error => .error error
    | .ok command =>
      if arguments.words.isEmpty then .ok command else .error (.wordsUnexpected arguments.words)

/-- A build; its project must not be a file. -/
def ofBuild (disk : Disk) (arguments : Arguments) : Except UsageError Command :=
  let place := Location.ofArguments arguments
  match disk.isFile? (place.projectPath disk) with
  | .ok true => .error (.projectIsFile (place.projectPath disk).text)
  | _ =>
    .ok <| build
      { place := place
        targets := arguments.values "--target"
        output := arguments.value? "--output"
        assignments := arguments.values "--var"
        dryRun := arguments.has "--dry-run"
        report := arguments.has "--json"
        verbose := arguments.has "--verbose" }

/-- The command that some words name, its options behind it. -/
def ofWords (disk : Disk) : List String → Except UsageError Command
  | [] => .error .commandMissing
  | word :: rest => do
    if word = "build" then
      let arguments ← readArguments buildRules true rest
      orHelp arguments (ofBuild disk arguments)
    else if word = "status" then
      let arguments ← readArguments locationRules true rest
      orHelp arguments (.ok (status (Location.ofArguments arguments)))
    else if word = "version" then
      let arguments ← readArguments [helpRule] true rest
      orHelp arguments (.ok version)
    else throw (.commandUnknown word)

def ofArguments (disk : Disk) (arguments : List String) : Except UsageError Command := do
  let before ← readArguments globalRules false arguments
  match before.given with
  | .flag name :: _ => return if name = helpRule.name then help else version
  | _ => ofWords disk before.words

end Command

end EditorPlugins.CommandLine
