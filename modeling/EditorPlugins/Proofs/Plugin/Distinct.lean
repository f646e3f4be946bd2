import EditorPlugins.Proofs.Plugin.Outputs
import EditorPlugins.Proofs.Plugin.Report
import Mathlib.Data.Set.Function

/-! # No generated file overwrites another

Different steps of compiling write to different places, and a step writes no file twice: what it
makes files of has a name of its own. The mark is the one thing that can bring two names together,
because a name that carries it already is left as it is. So the files of a target have different
paths exactly if the names of its agents, skills, commands and rules differ in more than the mark.
-/

namespace EditorPlugins.Plugin

open Config Template Traced

section Starts

/-- Whether neither of two texts begins with the other. -/
def diverge (first second : String) : Bool :=
  !Text.startsWith first second && !Text.startsWith second first

private theorem startsWith_append (start rest : String) :
    Text.startsWith start (start ++ rest) = true := by
  rw [Text.startsWith, List.isPrefixOf_iff_prefix, String.toList_append]
  exact List.prefix_append _ _

/-- A path begins with one of two texts that diverge. -/
theorem ne_of_diverge {first second path other : String} (apart : diverge first second = true)
    (begun : Text.startsWith first path = true) (also : Text.startsWith second other = true) :
    path ≠ other := by
  rintro rfl
  simp only [diverge, Bool.and_eq_true, Bool.not_eq_true'] at apart
  simp only [Text.startsWith, List.isPrefixOf_iff_prefix] at begun also
  rcases List.prefix_or_prefix_of_prefix begun also with shorter | longer
  · have inside : Text.startsWith first second = true := List.isPrefixOf_iff_prefix.mpr shorter
    rw [apart.1] at inside
    cases inside
  · have inside : Text.startsWith second first = true := List.isPrefixOf_iff_prefix.mpr longer
    rw [apart.2] at inside
    cases inside

def divergeAll (these those : List String) : Bool := these.all fun x => those.all (diverge x)

end Starts

/-- The paths that one step writes to, and the texts that they begin with. -/
structure Written where
  starts : List String
  paths : List String
  begun : ∀ path ∈ paths, ∃ start ∈ starts, Text.startsWith start path = true

namespace Written

/-- Steps that write to different places write to no path twice if none of them does. -/
theorem nodup_flatten_iff (steps : List Written)
    (apart : (steps.map starts).Pairwise fun these those => divergeAll these those = true) :
    (steps.map paths).flatten.Nodup ↔ ∀ step ∈ steps, step.paths.Nodup := by
  induction steps with
  | nil => simp
  | cons step steps ih =>
    rw [List.map_cons, List.pairwise_cons] at apart
    rw [List.map_cons, List.flatten_cons, List.nodup_append, ih apart.2, List.forall_mem_cons]
    refine ⟨fun ⟨own, others, _⟩ => ⟨own, others⟩, fun ⟨own, others⟩ => ⟨own, others, ?_⟩⟩
    intro path member other inside
    obtain ⟨list, among, present⟩ := List.mem_flatten.mp inside
    obtain ⟨next, following, rfl⟩ := List.mem_map.mp among
    obtain ⟨start, known, begins⟩ := step.begun path member
    obtain ⟨also, knownAlso, beginsAlso⟩ := next.begun other present
    have diverges := apart.1 next.starts (List.mem_map_of_mem following)
    rw [divergeAll, List.all_eq_true] at diverges
    have apart := List.all_eq_true.mp (diverges start known) also knownAlso
    exact ne_of_diverge apart begins beginsAlso

def each {Item : Type} (starts : List String) (path : Item → String)
    (begins : ∀ item, ∃ start ∈ starts, Text.startsWith start (path item) = true)
    (items : List Item) : Written where
  starts := starts
  paths := items.map path
  begun written member := by
    obtain ⟨item, -, rfl⟩ := List.mem_map.mp member
    exact begins item

/-- At most the one path. -/
def single (path : String) (written : List String) (one : written.Sublist [path]) : Written where
  starts := [path]
  paths := written
  begun other member := by
    obtain rfl := List.mem_singleton.mp (one.subset member)
    exact ⟨other, List.mem_singleton_self _, by simpa using startsWith_append other ""⟩

/-- Markdown files of a directory, which carry the mark. -/
def marked (directory : String) : List String → Written :=
  each [directory ++ "/"] (Job.markedPath directory) fun name => by
    refine ⟨_, List.mem_singleton_self _, ?_⟩
    rw [Job.markedPath, String.append_assoc]
    exact startsWith_append _ _

def skills : List (String × String) → Written :=
  each [skillsDirectory ++ "/"] skillPath fun file => by
    refine ⟨_, List.mem_singleton_self _, ?_⟩
    rw [skillPath, String.append_assoc, String.append_assoc]
    exact startsWith_append _ _

def scripts : List String → Written :=
  each [scriptsDirectory ++ "/"] scriptPath fun _ =>
    ⟨_, List.mem_singleton_self _, startsWith_append _ _⟩

private theorem begins_protocol (rules : List String) (name : String) :
    Text.startsWith (if rules.contains name then rulesDirectory ++ "/"
      else Guest.referenceDirectory ++ "/") (Guest.protocolPath rules name) = true := by
  unfold Guest.protocolPath
  split
  · rw [String.append_assoc]
    exact startsWith_append _ _
  · rw [String.append_assoc]
    exact startsWith_append _ _

/-- The protocols of a guest plugin, some of them as rules and the others as documents. -/
def protocols (rules : List String) : List String → Written :=
  each [rulesDirectory ++ "/", Guest.referenceDirectory ++ "/"] (Guest.protocolPath rules)
    fun name => by
      refine ⟨_, ?_, begins_protocol rules name⟩
      split <;> simp

variable {directory path : String} {names written rules : List String}
  {pairs : List (String × String)}

@[simp]
theorem paths_marked : (marked directory names).paths = names.map (Job.markedPath directory) := rfl

@[simp]
theorem paths_skills : (skills pairs).paths = pairs.map skillPath := rfl

@[simp]
theorem paths_scripts : (scripts names).paths = names.map scriptPath := rfl

@[simp]
theorem paths_protocols :
    (protocols rules names).paths = names.map (Guest.protocolPath rules) := rfl

@[simp]
theorem paths_single (one : written.Sublist [path]) :
    (single path written one).paths = written := rfl

private theorem nodup_single (one : written.Sublist [path]) :
    (single path written one).paths.Nodup :=
  (List.nodup_singleton path).sublist one

private theorem nodup_scripts (distinct : names.Nodup) : (scripts names).paths.Nodup :=
  distinct.map fun _ _ same => by simpa [scriptPath, ← String.toList_inj] using same

private theorem nodup_marked_iff (distinct : names.Nodup) :
    (marked directory names).paths.Nodup ↔ Set.InjOn withoutGlyph {name | name ∈ names} := by
  rw [paths_marked, List.nodup_map_iff_inj_on distinct]
  exact ⟨fun apart name member other also same => apart name member other also
    (markedPath_inj.mpr same), fun apart name member other also same =>
      apart member also (markedPath_inj.mp same)⟩

end Written

/-- What one target makes files of has names that differ in more than the mark: agents, skills that
have a file in common, commands, and the protocols that a standalone plugin makes rules of. -/
structure Job.NamesApart (job : Job) : Prop where
  agents : Set.InjOn withoutGlyph {name | ∃ enabled, job.enabledAgents.outcome = .ok enabled ∧
    name ∈ enabled.map EnabledAgent.name}
  skills : ∀ file, Set.InjOn withoutGlyph {skill | job.HasSkillFile skill file}
  commands : Set.InjOn withoutGlyph {name | ∃ names,
    (catalogue job.source commandsDirectory).outcome = .ok names ∧ name ∈ Entries.keys names}
  rules : job.target = Standalone.targetName → Set.InjOn withoutGlyph {name | ∃ artifacts,
    (job.source.artifacts protocolsDirectory).outcome = .ok artifacts ∧
      name ∈ artifacts.map Artifact.name}

section Nodup

variable {job : Job} {files : List GeneratedFile}

/-- What only one run can find is what that run found. -/
theorem setOf_outcome {Found : Type} {run : Traced Found} {found : Found}
    (ran : run.outcome = .ok found) (names : Found → List String) :
    {name | ∃ other, run.outcome = .ok other ∧ name ∈ names other} =
      {name | name ∈ names found} := by
  ext name
  constructor
  · rintro ⟨other, also, member⟩
    cases ran.symm.trans also
    exact member
  · exact fun member => ⟨found, ran, member⟩

private theorem nodup_agents_iff (orderly : job.source.IsOrderly) {enabled : List EnabledAgent}
    (ran : job.enabledAgents.outcome = .ok enabled) :
    (Written.marked agentsDirectory (enabled.map EnabledAgent.name)).paths.Nodup ↔
      Set.InjOn withoutGlyph {name | ∃ enabled, job.enabledAgents.outcome = .ok enabled ∧
        name ∈ enabled.map EnabledAgent.name} := by
  rw [setOf_outcome ran, Written.nodup_marked_iff (nodup_enabledAgents orderly ran)]

private theorem nodup_commands_iff (orderly : job.source.IsOrderly) {names : Entries String Bool}
    (ran : (catalogue job.source commandsDirectory).outcome = .ok names) :
    (Written.marked commandsDirectory (Entries.keys names)).paths.Nodup ↔
      Set.InjOn withoutGlyph {name | ∃ names,
        (catalogue job.source commandsDirectory).outcome = .ok names ∧
          name ∈ Entries.keys names} := by
  rw [setOf_outcome ran, Written.nodup_marked_iff (nodup_catalogue orderly ran)]

private theorem nodup_rules_iff (orderly : job.source.IsOrderly) {artifacts : List Artifact}
    (ran : (job.source.artifacts protocolsDirectory).outcome = .ok artifacts) :
    (Written.marked rulesDirectory (artifacts.map Artifact.name)).paths.Nodup ↔
      Set.InjOn withoutGlyph {name | ∃ artifacts,
        (job.source.artifacts protocolsDirectory).outcome = .ok artifacts ∧
          name ∈ artifacts.map Artifact.name} := by
  obtain ⟨files, shown, names⟩ := names_of_artifacts ran
  rw [setOf_outcome ran fun artifacts => artifacts.map Artifact.name,
    Written.nodup_marked_iff]
  exact names ▸ orderly.nodup_withoutMarkdown shown

private theorem nodup_skills_iff (orderly : job.source.IsOrderly) {pairs : List (String × String)}
    (distinct : pairs.Nodup)
    (mem_iff : ∀ skill file, (skill, file) ∈ pairs ↔ job.HasSkillFile skill file) :
    (Written.skills pairs).paths.Nodup ↔
      ∀ file, Set.InjOn withoutGlyph {skill | job.HasSkillFile skill file} := by
  have noSlash {skill file : String} (has : job.HasSkillFile skill file) : '/' ∉ skill.toList := by
    obtain ⟨skills, listed, member, -⟩ := has
    exact orderly.noSlash_subdirectories listed skill member
  rw [Written.paths_skills, List.nodup_map_iff_inj_on distinct]
  constructor
  · intro apart file skill has other also same
    have paths : skillPath (skill, file) = skillPath (other, file) :=
      (skillPath_inj (noSlash has) (noSlash also)).mpr ⟨same, rfl⟩
    exact (Prod.mk.inj (apart _ ((mem_iff skill file).mpr has) _ ((mem_iff other file).mpr also)
      paths)).1
  · rintro apart ⟨skill, file⟩ member ⟨other, rest⟩ also same
    have has := (mem_iff skill file).mp member
    have hasAlso := (mem_iff other rest).mp also
    obtain ⟨marked, rfl⟩ := (skillPath_inj (noSlash has) (noSlash hasAlso)).mp same
    rw [apart file has hasAlso marked]

/-- A rule and a document are written to different directories. -/
private theorem protocolPath_ne {rules : List String} {name other : String}
    (isRule : rules.contains name = true) (notRule : ¬ rules.contains other = true) :
    Guest.protocolPath rules name ≠ Guest.protocolPath rules other := by
  have rule := Written.begins_protocol rules name
  have document := Written.begins_protocol rules other
  rw [if_pos isRule] at rule
  rw [if_neg notRule] at document
  exact ne_of_diverge (by decide) rule document

/-- The protocols of a guest plugin have different files, for only one of them can be a rule. -/
theorem nodup_protocols (orderly : job.source.IsOrderly) {names : List String}
    (shown : (job.source.markdownFiles protocolsDirectory).outcome = .ok names) :
    (Written.protocols Guest.defaultRules names).paths.Nodup := by
  have stems := orderly.nodup_withoutMarkdown shown
  refine (List.Nodup.of_map _ stems).map_on fun name member other also same => ?_
  by_cases isRule : Guest.defaultRules.contains name = true <;>
    by_cases isRuleAlso : Guest.defaultRules.contains other = true
  · simp only [Guest.defaultRules, List.contains_eq_mem, List.mem_singleton, decide_eq_true_eq]
      at isRule isRuleAlso
    rw [isRule, isRuleAlso]
  · exact absurd same (protocolPath_ne isRule isRuleAlso)
  · exact absurd same.symm (protocolPath_ne isRuleAlso isRule)
  · rw [Guest.protocolPath, Guest.protocolPath, if_neg isRule, if_neg isRuleAlso] at same
    have stem : withoutMarkdown name = withoutMarkdown other := by
      simpa [← String.toList_inj] using same
    exact List.inj_on_of_nodup_map stems member also stem

end Nodup

section Targets

/-- What the paths that each step of a standalone plugin writes to begin with. -/
def Standalone.starts : List (List String) :=
  [[agentsDirectory ++ "/"], [skillsDirectory ++ "/"], [commandsDirectory ++ "/"],
    [rulesDirectory ++ "/"], [instructionsPath], [hooksPath], [scriptsDirectory ++ "/"],
    [serversPath], [manifestPath]]

theorem Standalone.starts_diverge : Standalone.starts.Pairwise fun these those =>
    divergeAll these those = true := by decide

/-- What the paths that each step of a guest plugin writes to begin with. -/
def Guest.starts : List (List String) :=
  [[agentsDirectory ++ "/"], [skillsDirectory ++ "/"], [commandsDirectory ++ "/"],
    [rulesDirectory ++ "/", referenceDirectory ++ "/"], [instructionsPath], [hooksPath],
    [scriptsDirectory ++ "/"], [serversPath]]

theorem Guest.starts_diverge : Guest.starts.Pairwise fun these those =>
    divergeAll these those = true := by decide

variable {job : Job} {files : List GeneratedFile}

/-- The steps of a standalone plugin write to different places. -/
theorem Standalone.nodup_iff (orderly : job.source.IsOrderly)
    (isTarget : job.target = Standalone.targetName)
    (compiled : (Standalone.compile job).outcome = .ok files) :
    (files.map GeneratedFile.path).Nodup ↔ job.NamesApart := by
  simp only [Standalone.compile, Job.compiled, bind_eq_ok_iff] at compiled
  obtain ⟨agents, agentsRan, skills, skillsRan, commands, commandsRan, rules, rulesRan, hooks,
    hooksRan, scripts, scriptsRan, servers, serversRan, manifest, manifestRan, -, -, same⟩ :=
      compiled
  cases same
  obtain ⟨enabled, enabledRan, agentPaths⟩ := Standalone.paths_agents agentsRan
  obtain ⟨pairs, pairsNodup, pairsIff, skillPaths⟩ := Job.paths_skills orderly skillsRan
  obtain ⟨names, namesRan, commandPaths⟩ := Job.paths_commands commandsRan
  obtain ⟨artifacts, instructions, artifactsRan, rulePaths, one⟩ := Standalone.paths_rules rulesRan
  obtain ⟨scriptNames, scriptsNodup, scriptPaths⟩ := Job.paths_hookScripts orderly scriptsRan
  let steps : List Written := [.marked agentsDirectory (enabled.map EnabledAgent.name),
    .skills pairs, .marked commandsDirectory (Entries.keys names),
    .marked rulesDirectory (artifacts.map Artifact.name), .single _ _ one,
    .single _ _ (Standalone.paths_hooks hooksRan), .scripts scriptNames,
    .single _ _ (Standalone.paths_servers serversRan),
    .single _ _ (Standalone.paths_manifest manifestRan)]
  have apart : (steps.map Written.starts).Pairwise fun these those =>
      divergeAll these those = true := Standalone.starts_diverge
  have whole : (agents ++ skills ++ commands ++ rules ++ hooks ++ scripts ++ servers ++
      manifest).map GeneratedFile.path = (steps.map Written.paths).flatten := by
    simp [steps, agentPaths, skillPaths, commandPaths, rulePaths, scriptPaths]
  rw [whole, Written.nodup_flatten_iff steps apart]
  simp only [steps, List.forall_mem_cons, List.not_mem_nil, false_implies, implies_true, and_true]
  rw [nodup_agents_iff orderly enabledRan, nodup_skills_iff orderly pairsNodup pairsIff,
    nodup_commands_iff orderly namesRan, nodup_rules_iff orderly artifactsRan]
  constructor
  · rintro ⟨agents, skills, commands, rules, -⟩
    exact ⟨agents, skills, commands, fun _ => rules⟩
  · intro apart
    exact ⟨apart.agents, apart.skills, apart.commands, apart.rules isTarget,
      Written.nodup_single _, Written.nodup_single _, Written.nodup_scripts scriptsNodup,
      Written.nodup_single _, Written.nodup_single _⟩

/-- The steps of a guest plugin write to different places, and its protocols do too. -/
theorem Guest.nodup_iff (orderly : job.source.IsOrderly)
    (other : job.target ≠ Standalone.targetName)
    (compiled : (Guest.compile job Guest.defaultRules).outcome = .ok files) :
    (files.map GeneratedFile.path).Nodup ↔ job.NamesApart := by
  simp only [Guest.compile, Job.compiled, bind_eq_ok_iff] at compiled
  obtain ⟨agents, agentsRan, skills, skillsRan, commands, commandsRan, protocols, protocolsRan,
    hooks, hooksRan, scripts, scriptsRan, servers, serversRan, -, -, same⟩ := compiled
  cases same
  obtain ⟨enabled, enabledRan, agentPaths⟩ := Guest.paths_agents agentsRan
  obtain ⟨pairs, pairsNodup, pairsIff, skillPaths⟩ := Job.paths_skills orderly skillsRan
  obtain ⟨names, namesRan, commandPaths⟩ := Job.paths_commands commandsRan
  obtain ⟨fileNames, instructions, shown, protocolPaths, one⟩ := Guest.paths_protocols protocolsRan
  obtain ⟨scriptNames, scriptsNodup, scriptPaths⟩ := Job.paths_hookScripts orderly scriptsRan
  let steps : List Written := [.marked agentsDirectory (enabled.map EnabledAgent.name),
    .skills pairs, .marked commandsDirectory (Entries.keys names),
    .protocols Guest.defaultRules fileNames, .single _ _ one,
    .single _ _ (Guest.paths_hooks hooksRan), .scripts scriptNames,
    .single _ _ (Guest.paths_servers serversRan)]
  have apart : (steps.map Written.starts).Pairwise fun these those =>
      divergeAll these those = true := Guest.starts_diverge
  have whole : (agents ++ skills ++ commands ++ protocols ++ hooks ++ scripts ++ servers).map
      GeneratedFile.path = (steps.map Written.paths).flatten := by
    simp [steps, agentPaths, skillPaths, commandPaths, protocolPaths, scriptPaths]
  rw [whole, Written.nodup_flatten_iff steps apart]
  simp only [steps, List.forall_mem_cons, List.not_mem_nil, false_implies, implies_true, and_true]
  rw [nodup_agents_iff orderly enabledRan, nodup_skills_iff orderly pairsNodup pairsIff,
    nodup_commands_iff orderly namesRan]
  constructor
  · rintro ⟨agents, skills, commands, -⟩
    exact ⟨agents, skills, commands, fun isTarget => absurd isTarget other⟩
  · intro apart
    exact ⟨apart.agents, apart.skills, apart.commands, nodup_protocols orderly shown,
      Written.nodup_single _, Written.nodup_single _, Written.nodup_scripts scriptsNodup,
      Written.nodup_single _⟩

end Targets

/-- The files of a built-in target have different paths exactly if the names of what they are made
of differ in more than the mark. -/
theorem compile_nodup_iff {compiler : Compiler} (templates : compiler.source.IsTemplates)
    {target : Target} (known : target ∈ Target.all) {files : List GeneratedFile}
    (compiled : (compiler.compileFor target).outcome = .ok files) :
    (files.map GeneratedFile.path).Nodup ↔ (compiler.job target.name).NamesApart := by
  have orderly : (compiler.job target.name).source.IsOrderly := templates.isOrderly
  simp only [Target.all, List.mem_cons, List.not_mem_nil, or_false] at known
  rcases known with rfl | rfl
  · exact Standalone.nodup_iff orderly rfl compiled
  · have other : Guest.targetName ≠ Standalone.targetName := by decide
    exact Guest.nodup_iff orderly other compiled

/-- A composed agent, and a single file whose name is that of the agent with the mark. -/
def shadowFiles : Entries String Octets :=
  [("agents/scout/_order.yaml", Text.Utf8.encode "sections: [body.md]\n"),
    ("agents/scout/body.md", Text.Utf8.encode "Composed.\n"),
    ("agents/🧠-scout.md", Text.Utf8.encode "Old.\n")]

def shadowSnapshot : Snapshot where
  files :=
    [(["agents", "scout", "_order.yaml"], Text.Utf8.encode "sections: [body.md]\n"),
      (["agents", "scout", "body.md"], Text.Utf8.encode "Composed.\n"),
      (["agents", "🧠-scout.md"], Text.Utf8.encode "Old.\n")]

/-- A compiler whose configuration enables the agent. -/
def shadowCompiler : Compiler where
  source := shadowSnapshot.source ⟨"/", []⟩
  config := ⟨"1", [], [("scout", [(Standalone.targetName,
    some ⟨none, none, none, none, none, none, none, []⟩)])], [], [], [], []⟩
  bindings := []
  targets := Target.all

private theorem shadowSnapshot_ofFiles : Snapshot.ofFiles shadowFiles = .ok shadowSnapshot := rfl

private theorem shadowSnapshot_list :
    shadowSnapshot.list agentsDirectory = .ok [⟨"scout", true⟩, ⟨"🧠-scout.md", false⟩] := by
  have names : shadowSnapshot.names ["agents"] = ["scout", "🧠-scout.md"] :=
    List.mergeSort_of_pairwise (by decide)
  have read : TemplatePath.ofText? agentsDirectory = some ["agents"] := by decide
  rw [Snapshot.list_of_ofText? read, if_pos (by decide), Snapshot.entries, names]
  rfl

private theorem shadowCompiler_paths :
    (shadowCompiler.compileFor Target.standalone).outcome.toOption.map
      (·.map GeneratedFile.path) =
        some ["agents/🧠-scout.md", "agents/🧠-scout.md", ".claude-plugin/plugin.json"] := by
  rw [shadowCompiler, Compiler.compileFor, Snapshot.source_eq_of_list _ shadowSnapshot_list]
  decide +kernel

/-- Both agents are enabled by the one entry of the configuration, and written to the same path. -/
theorem shadowCompiler_overwrites :
    Snapshot.ofFiles shadowFiles = .ok shadowSnapshot ∧
      ∃ files, (shadowCompiler.compileFor Target.standalone).outcome = .ok files ∧
        files.map GeneratedFile.path =
          ["agents/🧠-scout.md", "agents/🧠-scout.md", ".claude-plugin/plugin.json"] ∧
        ¬ (files.map GeneratedFile.path).Nodup := by
  obtain ⟨files, compiled, written⟩ := Outcome.exists_of_toOption shadowCompiler_paths
  exact ⟨shadowSnapshot_ofFiles, files, compiled, written, written ▸ (by decide)⟩

/-- The compiler of the roster, with both agents enabled for the standalone plugin. -/
def fullRosterCompiler : Compiler :=
  { Compiler.rosterCompiler with
    config := ⟨"1", [], ["guard", "scout"].map fun name => (name, [(Standalone.targetName,
      some ⟨none, none, none, none, none, none, none, []⟩)]), [], [], [], []⟩ }

/-- Agents of different names have files of their own; one that shadows another has not. -/
theorem rosterCompiler_nodup_iff :
    (∃ files, (fullRosterCompiler.compileFor Target.standalone).outcome = .ok files ∧
      files.map GeneratedFile.path =
        ["agents/🧠-guard.md", "agents/🧠-scout.md", ".claude-plugin/plugin.json"] ∧
      (fullRosterCompiler.job Target.standalone.name).NamesApart) ∧
    ¬ (shadowCompiler.job Target.standalone.name).NamesApart := by
  have paths : ((fullRosterCompiler.compileFor Target.standalone).outcome.toOption.map
      (·.map GeneratedFile.path)) =
        some ["agents/🧠-guard.md", "agents/🧠-scout.md", ".claude-plugin/plugin.json"] := by
    rw [fullRosterCompiler, Compiler.rosterCompiler, Compiler.compileFor,
      Snapshot.source_eq_of_list _ Compiler.rosterSnapshot_list]
    decide +kernel
  have bundled : Snapshot.ofFiles Compiler.rosterFiles = .ok Compiler.rosterSnapshot := rfl
  have known : Target.standalone ∈ Target.all := by simp [Target.all]
  constructor
  · obtain ⟨files, compiled, written⟩ := Outcome.exists_of_toOption paths
    have iff := compile_nodup_iff (.snapshot bundled _) known compiled
    exact ⟨files, compiled, written, iff.mp (written ▸ (by decide))⟩
  · obtain ⟨files, compiled, written⟩ := Outcome.exists_of_toOption shadowCompiler_paths
    have iff := compile_nodup_iff (.snapshot shadowSnapshot_ofFiles _) known compiled
    rw [← iff, written]
    decide

end EditorPlugins.Plugin
