import EditorPlugins.CommandLine.Command
import EditorPlugins.CommandLine.Page
import EditorPlugins.Config.Load
import EditorPlugins.Plugin.Install
import EditorPlugins.Template.Directory

/-! # Running a command

A run takes the disk and a command line to the disk after it, the page that is printed, and an exit
code: zero for success, two for a command line that is refused, and one for every other failure.
Errors of the program's own kinds are printed, others end the run without a word.
-/

namespace EditorPlugins.CommandLine

open Config Plugin Template

/-- How a run ends. -/
structure Ending where
  disk : Disk
  page : List Block
  /-- Lines for whoever watches the run, apart from the page. -/
  remarks : List String
  exitCode : Nat

def versionText : String := "PluginKit version 0.3.0 (development)"

def helpText : String :=
  Text.join "\n"
    ["Compile agents, skills and commands into editor plugins.", "",
      "  build    compile the templates into one plugin for each target",
      "  status   show how each agent is configured for each target",
      "  version  show the version", ""]

namespace Ending

/-- The end of a run that prints a page; a page that cannot be printed in full is a failure. -/
def printing (disk : Disk) (page : List Block) (exitCode : Nat) : Ending :=
  let (blocks, complete) := shownPage page
  ⟨disk, blocks, [], if complete then exitCode else 1⟩

/-- The line that reports an error, if it is one to report. -/
def errorBlocks (error : Error) : List Block :=
  if error.isReported then [.line ("Error: " ++ error.message)] else []

/-- The end of a run that fails after it has printed something. -/
def failing (disk : Disk) (page : List Block) (error : Error) : Ending :=
  printing disk (page ++ errorBlocks error) 1

/-- The end of a run with the records of its log that matter enough. -/
def withLog (least : Level) (log : List Record) (ending : Ending) : Ending :=
  let records := log.filter fun record => least.rank ≤ record.level.rank
  { ending with remarks := records.map Record.text ++ ending.remarks }

end Ending

def compilerAt (disk : Disk) (place : Location) (assignments : List String) : Traced Compiler := do
  let project := place.projectPath disk
  let root := Directory.rootOf disk project place.templates
  if !(← Directory.ask (disk.isDir? root)) then Traced.fail (.templatesAbsent root.text)
  let configPath :=
    match place.config with
    | some path => FilePath.ofText path
    | none => root.child Config.defaultPath
  let config ← Config.load disk configPath true
  match Compose.readAssignments assignments with
  | .error error => Traced.fail (.argumentRefused error.message)
  | .ok bindings =>
    return ⟨Directory.source disk project place.templates, config, bindings, Target.all⟩

def targetReport (files : List GeneratedFile) : Value :=
  let entries := files.map fun file =>
    Value.map <| Mapping.ofFields
      [("relativePath", .text file.path), ("size", .int file.size)]
  .map <| Mapping.ofFields [("files", .list entries), ("totalFiles", .int files.length)]

/-- The files of every target, for tools. -/
def compilationReport (compilation : Compilation) : Value :=
  .map <| Mapping.ofFields <| compilation.map fun (target, files) => (target, targetReport files)

def targetTable (entry : String × List GeneratedFile) : Block :=
  let title := entry.1 ++ " (" ++ Number.natText entry.2.length ++ " files)"
  .table title ["Path", "Bytes"] (entry.2.map fun file => [file.path, Number.natText file.size])

def buildPage (request : BuildRequest) (compilation : Compilation) : List Block :=
  if request.report then [.raw (Json.documentText (compilationReport compilation))]
  else if request.dryRun then .line "Dry run - generated files:" :: compilation.map targetTable
  else []

def writtenLine (output : FilePath) (entry : String × List FilePath) : Block :=
  .line ("✓ " ++ entry.1 ++ ": " ++ Number.natText entry.2.length ++ " files written to " ++
    (output.child entry.1).text)

def finishBuild (disk : Disk) (request : BuildRequest) (output : String)
    (compilation : Compilation) : Ending :=
  let output := FilePath.ofText output
  let installed := installAll disk output compilation
  let page := buildPage request compilation
  let ending :=
    match installed.traced.outcome with
    | .error error => Ending.failing installed.disk page error
    | .ok written =>
      let lines := if request.report then [] else written.map (writtenLine output)
      Ending.printing installed.disk (page ++ lines) 0
  ending.withLog (if request.verbose then .debug else .warning) installed.traced.log

def runBuild (disk : Disk) (request : BuildRequest) : Ending :=
  if request.output.isNone && !(request.dryRun || request.report) then
    Ending.printing disk
      [.line "Error: --output is required unless --dry-run or --json is set"] 1
  else
    let compiled : Traced Compilation := do
      let compiler ← compilerAt disk request.place request.assignments
      compiler.compile (if request.targets.isEmpty then none else some request.targets)
    let ending :=
      match compiled.outcome, request.output with
      | .error error, _ => Ending.failing disk [] error
      | .ok compilation, some output =>
        if request.dryRun then Ending.printing disk (buildPage request compilation) 0
        else finishBuild disk request output compilation
      | .ok compilation, none => Ending.printing disk (buildPage request compilation) 0
    ending.withLog (if request.verbose then .debug else .warning) compiled.log

def reportCells (row : ReportRow) : List String :=
  [row.name, if row.composable then "composable" else "single-file"] ++
    row.statuses.map fun entry => entry.2.name

def statusPage (targets : List String) (rows : List ReportRow) : List Block :=
  let table := Block.table "PluginKit Agent Status" (["Agent", "Kind"] ++ targets)
    (rows.map reportCells)
  table :: (if rows.isEmpty then [.line "Warning: No agents found"] else [])

/-- Show how the agents are configured. -/
def runStatus (disk : Disk) (place : Location) : Ending :=
  let page : Traced (List Block) := do
    let compiler ← compilerAt disk place []
    return statusPage compiler.known (← compiler.report)
  let ending :=
    match page.outcome with
    | .error error => Ending.failing disk [] error
    | .ok page => Ending.printing disk page 0
  ending.withLog .warning page.log

def Command.run (disk : Disk) : Command → Ending
  | .version => Ending.printing disk [.line versionText] 0
  | .help => Ending.printing disk [.raw helpText] 0
  | .build request => runBuild disk request
  | .status place => runStatus disk place

def run (disk : Disk) (arguments : List String) : Ending :=
  match Command.ofArguments disk arguments with
  | .ok command => command.run disk
  | .error error => ⟨disk, [], [error.message], 2⟩

end EditorPlugins.CommandLine
