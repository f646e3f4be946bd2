import EditorPlugins.Plugin.Guest
import EditorPlugins.Plugin.Standalone

/-! # Compiling for several targets

A compiler knows some targets by name. Compiling looks up every requested target before it compiles
the first, so an unknown name costs nothing; the result lists the files of each target in the order
of the request. The report says for every agent how it is configured for each known target.
-/

namespace EditorPlugins.Plugin

open Compose Config Template

/-- A target with the way it is compiled. -/
structure Target where
  name : String
  compile : Job → Traced (List GeneratedFile)

namespace Target

/-- Plugins with files of their own. -/
def standalone : Target := ⟨Standalone.targetName, Standalone.compile⟩

/-- Plugins that share files with their host. -/
def guest : Target := ⟨Guest.targetName, fun job => Guest.compile job Guest.defaultRules⟩

def all : List Target := [standalone, guest]

end Target

/-- The templates, the configuration and the variables for compiling, with the known targets. -/
structure Compiler where
  source : Source
  config : TargetConfig
  bindings : Variables
  targets : List Target

/-- The files of each compiled target, in the order of compilation. -/
abbrev Compilation := Entries String (List GeneratedFile)

namespace Compilation

def targets (compilation : Compilation) : List String := Entries.keys compilation

def filesOf (compilation : Compilation) (target : String) : Except Error (List GeneratedFile) :=
  match Entries.get? compilation target with
  | some files => .ok files
  | none => .error (.targetNotCompiled target)

def allFiles (compilation : Compilation) : List (String × GeneratedFile) :=
  compilation.flatMap fun (target, files) => files.map fun file => (target, file)

/-- The count of files of each target. -/
def summary (compilation : Compilation) : Entries String Nat :=
  compilation.map fun (target, files) => (target, files.length)

def summaryText (compilation : Compilation) : String :=
  Text.join ", " <| compilation.summary.map fun (target, count) =>
    target ++ ": " ++ Number.natText count ++ " files"

end Compilation

/-- How an agent is configured for each target. -/
structure ReportRow where
  name : String
  composable : Bool
  statuses : Entries String AgentStatus
deriving DecidableEq, Repr

namespace Compiler

def known (compiler : Compiler) : List String := compiler.targets.map Target.name

def target (compiler : Compiler) (name : String) : Except Error Target :=
  match compiler.targets.find? fun target => target.name = name with
  | some target => .ok target
  | none => .error (.unknownTarget name compiler.known)

def compileFor (compiler : Compiler) (target : Target) : Traced (List GeneratedFile) :=
  target.compile ⟨target.name, compiler.source, compiler.config, compiler.bindings⟩

def compileTarget (compiler : Compiler) (name : String) : Traced (List GeneratedFile) := do
  compiler.compileFor (← compiler.target name)

/-- Compile for the requested targets, each once, or for all known ones. -/
def compile (compiler : Compiler) (requested : Option (List String)) : Traced Compilation := do
  let names :=
    match requested with
    | none => compiler.known
    | some names => distinct names
  let targets ← names.mapM fun name => Traced.lift (compiler.target name)
  let compilation ← targets.mapM fun target => do
    return (target.name, ← compiler.compileFor target)
  let compilation := Entries.ofPairs compilation
  Traced.note .info ("Compiled " ++ Compilation.summaryText compilation)
  return compilation

/-- The names of all agents with whether they are composable. -/
def agentNames (compiler : Compiler) : Traced (Entries String Bool) := do
  let directories ← compiler.source.subdirectories agentsDirectory
  let composable ← directories.filterM fun directory =>
    Traced.lift (isComposable compiler.source (joinPath agentsDirectory directory))
  let files ← compiler.source.markdownFiles agentsDirectory
  let single := (files.map withoutMarkdown).filter fun name => !composable.contains name
  return composable.map (·, true) ++ single.map (·, false)

/-- How an agent is configured for each known target. -/
def reportRow (compiler : Compiler) (agent : String × Bool) : ReportRow :=
  let statuses := compiler.known.map fun target =>
    (target, compiler.config.agentStatus agent.1 target)
  ⟨agent.1, agent.2, statuses⟩

/-- How every agent is configured for each known target, in the order of names. -/
def report (compiler : Compiler) : Traced (List ReportRow) := do
  let agents := (← compiler.agentNames).mergeSort fun a b => decide (a.1 ≤ b.1)
  return agents.map compiler.reportRow

end Compiler

end EditorPlugins.Plugin
