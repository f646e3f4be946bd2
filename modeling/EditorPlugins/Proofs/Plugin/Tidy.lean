import EditorPlugins.Proofs.Plugin.Distinct

/-! # The paths of generated files are tidy

Every path that a target writes to is made of fixed directories and of names that stand in the
template tree. None of these is empty or a dot, and none has a slash in it, so two paths that are
different lead to different places.
-/

namespace EditorPlugins.Plugin

open Config Template Traced

section Names

private theorem noSlash_withoutMarkdown {name : String} (noSlash : '/' ∉ name.toList) :
    '/' ∉ (withoutMarkdown name).toList := by
  unfold withoutMarkdown
  split
  · rw [String.toList_ofList]
    exact fun member => noSlash (List.mem_of_mem_take member)
  · exact noSlash

/-- A name of two characters or more, none of them a slash. -/
private theorem isTidy_of_long {name : String} (noSlash : '/' ∉ name.toList)
    (long : 1 < name.length) : FilePath.IsTidy name := by
  refine FilePath.isTidy_of_noSlash noSlash ?_ ?_ <;> rintro rfl
  · exact absurd long (by decide)
  · exact absurd long (by decide)

private theorem isTidy_ending {name ending : String} (noSlash : '/' ∉ name.toList)
    (plain : '/' ∉ ending.toList) (long : 1 < ending.length) :
    FilePath.IsTidy (name ++ ending) := by
  refine isTidy_of_long ?_ ?_
  · rw [String.toList_append, List.mem_append, not_or]
    exact ⟨noSlash, plain⟩
  · rw [String.length_append]
    omega

private theorem isTidy_withGlyph {name : String} (noSlash : '/' ∉ name.toList) :
    FilePath.IsTidy (withGlyph name) := by
  refine isTidy_of_long (noSlash_withGlyph noSlash) ?_
  have mark : glyphMark.length = 2 := by decide
  rw [withGlyph_eq, String.length_append]
  omega

private theorem isTidy_markedPath {directory name : String} (tidy : FilePath.IsTidy directory)
    (noSlash : '/' ∉ name.toList) : FilePath.IsTidy (Job.markedPath directory name) := by
  rw [Job.markedPath, String.append_assoc]
  exact tidy.append (isTidy_ending (noSlash_withGlyph noSlash) (by decide) (by decide))

/-- Whether all of some paths are tidy. -/
def AreTidy (paths : List String) : Prop := ∀ path ∈ paths, FilePath.IsTidy path

theorem AreTidy.append {paths more : List String} (tidy : AreTidy paths) (also : AreTidy more) :
    AreTidy (paths ++ more) := fun path member =>
  (List.mem_append.mp member).elim (tidy path) (also path)

private theorem AreTidy.of_sublist {path : String} {written : List String}
    (one : written.Sublist [path])
    (tidy : FilePath.IsTidy path) : AreTidy written := fun other member => by
  rw [List.mem_singleton.mp (one.subset member)]
  exact tidy

private theorem AreTidy.markedPaths {directory : String} {names : List String}
    (tidy : FilePath.IsTidy directory) (noSlash : ∀ name ∈ names, '/' ∉ name.toList) :
    AreTidy (names.map (Job.markedPath directory)) := fun path member => by
  obtain ⟨name, present, rfl⟩ := List.mem_map.mp member
  exact isTidy_markedPath tidy (noSlash name present)

end Names

section Steps

variable {job : Job} (orderly : job.source.IsOrderly) {files : List GeneratedFile}

include orderly

private theorem noSlash_catalogue {category : String} {names : Entries String Bool}
    (ran : (catalogue job.source category).outcome = .ok names) :
    ∀ name ∈ Entries.keys names, '/' ∉ name.toList := by
  obtain ⟨directories, listed, composable, kept, files, shown, rfl⟩ := catalogue_eq_ok_iff.mp ran
  intro name member
  rw [keys_named] at member
  rcases List.mem_append.mp member with directory | file
  · exact orderly.noSlash_subdirectories listed name ((sublist_of_filterM kept).subset directory)
  · obtain ⟨fileName, present, rfl⟩ := List.mem_map.mp (List.mem_filter.mp file).1
    exact noSlash_withoutMarkdown (orderly.noSlash_markdownFiles shown fileName present)

/-- The files of agents carry the names of these. -/
theorem areTidy_agents (ran : ∃ enabled, job.enabledAgents.outcome = .ok enabled ∧
    files.map GeneratedFile.path =
      (enabled.map EnabledAgent.name).map (Job.markedPath agentsDirectory)) :
    AreTidy (files.map GeneratedFile.path) := by
  obtain ⟨enabled, found, paths⟩ := ran
  rw [paths]
  refine .markedPaths (by decide) fun name member => ?_
  obtain ⟨names, listed, same⟩ := catalogue_of_enabledAgents found
  have key : name ∈ (enabled.map EnabledAgent.agent).map Prod.fst := by rwa [List.map_map]
  rw [same] at key
  exact noSlash_catalogue orderly listed name ((List.filter_sublist.map Prod.fst).subset key)

private theorem areTidy_commands (ran : job.commands.outcome = .ok files) :
    AreTidy (files.map GeneratedFile.path) := by
  obtain ⟨names, listed, paths⟩ := Job.paths_commands ran
  exact paths ▸ .markedPaths (by decide) (noSlash_catalogue orderly listed)

private theorem areTidy_rules (ran : (Standalone.rules job).outcome = .ok files) :
    AreTidy (files.map GeneratedFile.path) := by
  obtain ⟨artifacts, written, read, paths, one⟩ := Standalone.paths_rules ran
  obtain ⟨shown, marked, names⟩ := names_of_artifacts read
  rw [paths, names]
  refine AreTidy.append (.markedPaths (by decide) fun name member => ?_)
    (.of_sublist one (by decide))
  obtain ⟨file, present, rfl⟩ := List.mem_map.mp member
  exact noSlash_withoutMarkdown (orderly.noSlash_markdownFiles marked file present)

private theorem areTidy_skills (ran : job.skills.outcome = .ok files) :
    AreTidy (files.map GeneratedFile.path) := by
  obtain ⟨pairs, -, mem_iff, paths⟩ := Job.paths_skills orderly ran
  rw [paths]
  rintro path member
  obtain ⟨⟨skill, file⟩, present, rfl⟩ := List.mem_map.mp member
  obtain ⟨skills, listed, among, found, walked, inside⟩ := (mem_iff skill file).mp present
  have marked := isTidy_withGlyph (orderly.noSlash_subdirectories listed skill among)
  have directory : FilePath.IsTidy skillsDirectory := by decide
  exact (directory.append marked).append (orderly.isTidy_treeWithin walked file inside)

private theorem areTidy_hookScripts (ran : job.hookScripts.outcome = .ok files) :
    AreTidy (files.map GeneratedFile.path) := by
  simp only [Job.hookScripts, bind_eq_ok_iff] at ran
  obtain ⟨directory, -, names, listed, made⟩ := ran
  rw [outcome_mapM] at made
  intro path member
  obtain ⟨file, present, rfl⟩ := List.mem_map.mp member
  obtain ⟨name, inside, ran⟩ := Outcome.exists_of_mem_mapM made present
  obtain ⟨content, -, written⟩ := bind_eq_ok_iff.mp ran
  rw [(GeneratedFile.of_eq_ok written).1]
  have directory : FilePath.IsTidy scriptsDirectory := by decide
  exact directory.append (orderly.isTidy_plainFiles listed name inside)

private theorem areTidy_protocols {rules : List String}
    (ran : (Guest.protocols job rules).outcome = .ok files) :
    AreTidy (files.map GeneratedFile.path) := by
  obtain ⟨names, written, shown, paths, one⟩ := Guest.paths_protocols ran
  rw [paths]
  refine AreTidy.append (fun path member => ?_) (.of_sublist one (by decide))
  obtain ⟨name, present, rfl⟩ := List.mem_map.mp member
  have noSlash := noSlash_withoutMarkdown (orderly.noSlash_markdownFiles shown name present)
  unfold Guest.protocolPath
  split
  · rw [String.append_assoc]
    have directory : FilePath.IsTidy rulesDirectory := by decide
    exact directory.append (isTidy_ending (noSlash_withGlyph noSlash) (by decide) (by decide))
  · rw [String.append_assoc]
    have directory : FilePath.IsTidy Guest.referenceDirectory := by decide
    exact directory.append (isTidy_ending noSlash (by decide) (by decide))

end Steps

section Targets

variable {job : Job} (orderly : job.source.IsOrderly) {files : List GeneratedFile}

include orderly

theorem Standalone.areTidy (compiled : (Standalone.compile job).outcome = .ok files) :
    AreTidy (files.map GeneratedFile.path) := by
  simp only [Standalone.compile, Job.compiled, bind_eq_ok_iff] at compiled
  obtain ⟨agents, agentsRan, skills, skillsRan, commands, commandsRan, rules, rulesRan, hooks,
    hooksRan, scripts, scriptsRan, servers, serversRan, manifest, manifestRan, -, -, same⟩ :=
      compiled
  cases same
  intro path member
  simp only [List.map_append, List.mem_append, or_assoc] at member
  rcases member with agent | skill | command | rule | hook | script | server | manifest
  · exact areTidy_agents orderly (Standalone.paths_agents agentsRan) path agent
  · exact areTidy_skills orderly skillsRan path skill
  · exact areTidy_commands orderly commandsRan path command
  · exact areTidy_rules orderly rulesRan path rule
  · exact AreTidy.of_sublist (Standalone.paths_hooks hooksRan) (by decide) path hook
  · exact areTidy_hookScripts orderly scriptsRan path script
  · exact AreTidy.of_sublist (Standalone.paths_servers serversRan) (by decide) path server
  · exact AreTidy.of_sublist (Standalone.paths_manifest manifestRan) (by decide) path manifest

theorem Guest.areTidy (compiled : (Guest.compile job Guest.defaultRules).outcome = .ok files) :
    AreTidy (files.map GeneratedFile.path) := by
  simp only [Guest.compile, Job.compiled, bind_eq_ok_iff] at compiled
  obtain ⟨agents, agentsRan, skills, skillsRan, commands, commandsRan, protocols, protocolsRan,
    hooks, hooksRan, scripts, scriptsRan, servers, serversRan, -, -, same⟩ := compiled
  cases same
  intro path member
  simp only [List.map_append, List.mem_append, or_assoc] at member
  rcases member with agent | skill | command | protocol | hook | script | server
  · exact areTidy_agents orderly (Guest.paths_agents agentsRan) path agent
  · exact areTidy_skills orderly skillsRan path skill
  · exact areTidy_commands orderly commandsRan path command
  · exact areTidy_protocols orderly protocolsRan path protocol
  · exact AreTidy.of_sublist (Guest.paths_hooks hooksRan) (by decide) path hook
  · exact areTidy_hookScripts orderly scriptsRan path script
  · exact AreTidy.of_sublist (Guest.paths_servers serversRan) (by decide) path server

end Targets

/-- The files of a built-in target have tidy paths. -/
theorem areTidy_compileFor {compiler : Compiler} (templates : compiler.source.IsTemplates)
    {target : Target} (known : target ∈ Target.all) {files : List GeneratedFile}
    (compiled : (compiler.compileFor target).outcome = .ok files) :
    AreTidy (files.map GeneratedFile.path) := by
  simp only [Target.all, List.mem_cons, List.not_mem_nil, or_false] at known
  rcases known with rfl | rfl
  · exact Standalone.areTidy templates.isOrderly compiled
  · exact Guest.areTidy templates.isOrderly compiled

end EditorPlugins.Plugin
