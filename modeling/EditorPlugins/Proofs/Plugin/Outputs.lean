import EditorPlugins.Proofs.Plugin.Catalogue
import EditorPlugins.Proofs.Plugin.File
import EditorPlugins.Proofs.Plugin.StandaloneAgents

/-! # Where the files of a target go

Each step of compiling writes its files to places of its own: the paths of agents, commands, skills
and rules are made of the marked names of these, the other ones of fixed names and of the names of
files.
-/

namespace EditorPlugins.Plugin

open Compose Config Template Traced

def skillPath (file : String × String) : String :=
  skillsDirectory ++ "/" ++ withGlyph file.1 ++ "/" ++ file.2

def scriptPath (name : String) : String := scriptsDirectory ++ "/" ++ name

section Names

variable {name other : String}

/-- A marked name is the mark with what the name is without it. -/
theorem withGlyph_eq (name : String) : withGlyph name = glyphMark ++ withoutGlyph name := by
  unfold withGlyph withoutGlyph
  split
  · next marked =>
    obtain ⟨plain, whole⟩ := List.isPrefixOf_iff_prefix.mp marked
    apply String.toList_inj.mp
    rw [String.toList_append, String.toList_ofList, ← whole, ← String.length_toList,
      List.drop_left]
  · rfl

private theorem withGlyph_inj :
    withGlyph name = withGlyph other ↔ withoutGlyph name = withoutGlyph other := by
  rw [withGlyph_eq, withGlyph_eq, ← String.toList_inj, String.toList_append, String.toList_append,
    List.append_cancel_left_eq, String.toList_inj]

theorem markedPath_inj {directory : String} :
    Job.markedPath directory name = Job.markedPath directory other ↔
      withoutGlyph name = withoutGlyph other := by
  rw [← withGlyph_inj]
  simp [Job.markedPath, ← String.toList_inj]

theorem noSlash_withGlyph (noSlash : '/' ∉ name.toList) : '/' ∉ (withGlyph name).toList := by
  unfold withGlyph
  split
  · exact noSlash
  · rw [String.toList_append, List.mem_append, not_or]
    exact ⟨by decide, noSlash⟩

theorem skillPath_inj (noSlash : '/' ∉ name.toList) (also : '/' ∉ other.toList)
    {file rest : String} : skillPath (name, file) = skillPath (other, rest) ↔
      withoutGlyph name = withoutGlyph other ∧ file = rest := by
  rw [← withGlyph_inj]
  constructor
  · intro same
    have texts : (withGlyph name).toList ++ '/' :: file.toList =
        (withGlyph other).toList ++ '/' :: rest.toList := by
      simpa [skillPath, ← String.toList_inj] using same
    have cut := congrArg (Text.cutAt '/') texts
    rw [Text.cutAt_append _ (noSlash_withGlyph noSlash),
      Text.cutAt_append _ (noSlash_withGlyph also), Prod.mk.injEq, Option.some.injEq] at cut
    exact ⟨String.toList_inj.mp cut.1, String.toList_inj.mp cut.2⟩
  · rintro ⟨same, rfl⟩
    rw [skillPath, skillPath, same]

end Names

namespace Job

variable {job : Job} {files : List GeneratedFile}

def HasSkillFile (job : Job) (skill file : String) : Prop :=
  ∃ skills, (job.source.subdirectories skillsDirectory).outcome = .ok skills ∧ skill ∈ skills ∧
    ∃ found, (job.source.tree (joinPath skillsDirectory skill)).outcome = .ok found ∧ file ∈ found

/-- The files of a skill have the paths that are found in its tree. -/
theorem paths_skill {skill : String} (ran : (job.skill skill).outcome = .ok files) :
    ∃ found, (job.source.tree (joinPath skillsDirectory skill)).outcome = .ok found ∧
      files.map GeneratedFile.path = found.map fun file => skillPath (skill, file) := by
  rw [Job.skill, bind_eq_ok_iff] at ran
  obtain ⟨found, walked, made⟩ := ran
  rw [outcome_mapM] at made
  refine ⟨found, walked, Outcome.map_of_mapM made fun file generated here => ?_⟩
  obtain ⟨content, -, written⟩ := bind_eq_ok_iff.mp here
  exact (GeneratedFile.of_eq_ok written).1

/-- The files of all skills, each once. -/
theorem paths_skills (orderly : job.source.IsOrderly) (ran : job.skills.outcome = .ok files) :
    ∃ pairs : List (String × String), pairs.Nodup ∧
      (∀ skill file, (skill, file) ∈ pairs ↔ job.HasSkillFile skill file) ∧
      files.map GeneratedFile.path = pairs.map skillPath := by
  simp only [skills, bind_eq_ok_iff, outcome_pure, Except.ok.injEq, outcome_mapM] at ran
  obtain ⟨skills, listed, lists, made, rfl⟩ := ran
  let trees (skill : String) : Except Error (List (String × String)) :=
    (job.source.tree (joinPath skillsDirectory skill)).outcome.map (·.map (skill, ·))
  obtain ⟨pairs, found, same⟩ := Outcome.exists_mapM_map (g := trees) made
    (h := List.map GeneratedFile.path) (k := List.map skillPath) fun skill _ files ran => by
      obtain ⟨found, walked, paths⟩ := paths_skill ran
      exact ⟨found.map (skill, ·), Outcome.map_eq_ok_iff.mpr ⟨found, walked, rfl⟩,
        by rw [paths, List.map_map]; rfl⟩
  refine ⟨pairs.flatten, ?_, fun skill file => ?_, ?_⟩
  · refine Outcome.nodup_flatten_of_mapM found id Prod.fst
      (by rw [List.map_id]; exact orderly.nodup_subdirectories listed) fun skill _ files ran => ?_
    obtain ⟨inner, walked, rfl⟩ := Outcome.map_eq_ok_iff.mp ran
    exact ⟨(orderly.nodup_tree walked).map fun _ _ same => (Prod.mk.inj same).2, by simp⟩
  · rw [List.mem_flatten]
    constructor
    · rintro ⟨list, among, member⟩
      obtain ⟨other, present, ran⟩ := Outcome.exists_of_mem_mapM found among
      obtain ⟨inner, walked, rfl⟩ := Outcome.map_eq_ok_iff.mp ran
      obtain ⟨inside, inTree, pair⟩ := List.mem_map.mp member
      cases pair
      exact ⟨skills, listed, present, inner, walked, inTree⟩
    · rintro ⟨others, also, present, inner, walked, inTree⟩
      cases listed.symm.trans also
      obtain ⟨list, among, ran⟩ := Outcome.exists_mem_of_mapM found present
      obtain ⟨again, walkedAgain, rfl⟩ := Outcome.map_eq_ok_iff.mp ran
      cases walked.symm.trans walkedAgain
      exact ⟨_, among, List.mem_map_of_mem inTree⟩
  · rw [List.map_flatten, List.map_flatten, same]

/-- A directory makes a command exactly if it is composable. -/
theorem isComposable_of_directoryCommand {directory : String}
    {command : Option (String × GeneratedFile)}
    (ran : (job.directoryCommand directory).outcome = .ok command) :
    isComposable job.source (joinPath commandsDirectory directory) = .ok command.isSome ∧
      ∀ named ∈ command, named.1 = directory ∧
        named.2.path = markedPath commandsDirectory directory := by
  rw [directoryCommand, bind_eq_ok_iff] at ran
  obtain ⟨composable, asked, ran⟩ := ran
  rw [show isComposable job.source _ = _ from asked]
  cases composable with
  | false =>
    cases ran
    simp
  | true =>
    simp only [Bool.not_true, Bool.false_eq_true, if_false, bind_eq_ok_iff] at ran
    obtain ⟨body, -, file, made, same⟩ := ran
    cases same
    simpa using (GeneratedFile.of_eq_ok made).1

private theorem path_copyArtifact {directory : String} {artifact : Artifact} {file : GeneratedFile}
    (ran : (job.copyArtifact directory artifact).outcome = .ok file) :
    file.path = markedPath directory artifact.name := by
  obtain ⟨content, -, made⟩ := bind_eq_ok_iff.mp ran
  exact (GeneratedFile.of_eq_ok made).1

private theorem composed_commands {directories : List String}
    {commands : List (String × GeneratedFile)}
    (made : List.Forall₂ (fun directory command =>
      (job.directoryCommand directory).outcome = .ok (some command)) directories commands) :
    commands.map Prod.fst = directories ∧
      (commands.map Prod.snd).map GeneratedFile.path =
        directories.map (markedPath commandsDirectory) := by
  induction made with
  | nil => exact ⟨rfl, rfl⟩
  | cons here _ ih =>
    obtain ⟨name, path⟩ := (isComposable_of_directoryCommand here).2 _ rfl
    simp only [List.map_cons, ih.1, ih.2, name, path, and_self]

/-- The commands are those of the catalogue. -/
theorem paths_commands (ran : job.commands.outcome = .ok files) :
    ∃ names, (catalogue job.source commandsDirectory).outcome = .ok names ∧
      files.map GeneratedFile.path = (Entries.keys names).map (markedPath commandsDirectory) := by
  simp only [commands, bind_eq_ok_iff, outcome_pure, Except.ok.injEq] at ran
  obtain ⟨directories, listed, commands, made, artifacts, read, single, copied, rfl⟩ := ran
  rw [outcome_mapM] at made copied
  obtain ⟨composable, kept, stands⟩ := exists_filterM
    (f := fun directory => lift (isComposable job.source (joinPath commandsDirectory directory)))
    made fun _ _ ran => (isComposable_of_directoryCommand ran).1
  obtain ⟨shown, marked, names⟩ := names_of_artifacts read
  obtain ⟨hidden, composed⟩ := composed_commands stands
  rw [hidden] at copied
  have rest : single.map GeneratedFile.path = ((shown.map withoutMarkdown).filter fun name =>
      !composable.contains name).map (markedPath commandsDirectory) := by
    rw [Outcome.map_of_mapM copied fun artifact _ ran => path_copyArtifact ran, ← names,
      List.filter_map, List.map_map]
    rfl
  refine ⟨named composable shown, catalogue_eq_ok_iff.mpr
    ⟨directories, listed, composable, kept, shown, marked, rfl⟩, ?_⟩
  rw [List.map_append, composed, rest, keys_named, List.map_append]

/-- Hook scripts keep the names of their files. -/
theorem paths_hookScripts (orderly : job.source.IsOrderly)
    (ran : job.hookScripts.outcome = .ok files) :
    ∃ names : List String, names.Nodup ∧
      files.map GeneratedFile.path = names.map scriptPath := by
  simp only [hookScripts, bind_eq_ok_iff] at ran
  obtain ⟨directory, -, names, listed, made⟩ := ran
  rw [outcome_mapM] at made
  refine ⟨names, orderly.nodup_plainFiles listed, Outcome.map_of_mapM made fun name file here => ?_⟩
  obtain ⟨content, -, written⟩ := bind_eq_ok_iff.mp here
  exact (GeneratedFile.of_eq_ok written).1

/-- There is one document of instructions, or none. -/
theorem paths_instructions {path : String} (ran : (job.instructions path).outcome = .ok files) :
    (files.map GeneratedFile.path).Sublist [path] := by
  rw [instructions, bind_eq_ok_iff] at ran
  obtain ⟨artifact, -, ran⟩ := ran
  cases artifact with
  | none =>
    cases ran
    exact List.nil_sublist _
  | some artifact =>
    simp only [bind_eq_ok_iff] at ran
    obtain ⟨body, -, file, made, same⟩ := ran
    cases same
    rw [List.map_singleton, (GeneratedFile.of_eq_ok made).1]

end Job

section Agents

variable {job : Job} {files : List GeneratedFile}

/-- The files of agents have the marked names of these, whatever is written in them. -/
private theorem paths_agents {agentFile : EnabledAgent → Except Error GeneratedFile}
    (path : ∀ agent file, agentFile agent = .ok file →
      file.path = Job.markedPath agentsDirectory agent.name)
    (ran : (do (← job.enabledAgents).mapM fun agent => Traced.lift (agentFile agent) :
      Traced (List GeneratedFile)).outcome = .ok files) :
    ∃ enabled, job.enabledAgents.outcome = .ok enabled ∧
      files.map GeneratedFile.path =
        (enabled.map EnabledAgent.name).map (Job.markedPath agentsDirectory) := by
  obtain ⟨enabled, found, made⟩ := bind_eq_ok_iff.mp ran
  rw [outcome_mapM] at made
  refine ⟨enabled, found, ?_⟩
  rw [Outcome.map_of_mapM made path, List.map_map]
  rfl

theorem Standalone.paths_agents (ran : (Standalone.agents job).outcome = .ok files) :
    ∃ enabled, job.enabledAgents.outcome = .ok enabled ∧
      files.map GeneratedFile.path =
        (enabled.map EnabledAgent.name).map (Job.markedPath agentsDirectory) :=
  Plugin.paths_agents (fun _ _ made => (Standalone.agentFile_read made).1) ran

theorem Guest.paths_agents (ran : (Guest.agents job).outcome = .ok files) :
    ∃ enabled, job.enabledAgents.outcome = .ok enabled ∧
      files.map GeneratedFile.path =
        (enabled.map EnabledAgent.name).map (Job.markedPath agentsDirectory) := by
  refine Plugin.paths_agents (fun agent file made => ?_) ran
  unfold Guest.agentFile at made
  split at made
  · cases made
  · exact (GeneratedFile.of_eq_ok made).1

end Agents

section Protocols

variable {job : Job} {files : List GeneratedFile}

/-- All protocols become rules of a standalone plugin. -/
theorem Standalone.paths_rules (ran : (Standalone.rules job).outcome = .ok files) :
    ∃ artifacts written, (job.source.artifacts protocolsDirectory).outcome = .ok artifacts ∧
      files.map GeneratedFile.path =
        (artifacts.map Artifact.name).map (Job.markedPath rulesDirectory) ++ written ∧
      written.Sublist [Standalone.instructionsPath] := by
  simp only [Standalone.rules, bind_eq_ok_iff, outcome_pure, Except.ok.injEq] at ran
  obtain ⟨artifacts, read, copied, made, instructions, composed, rfl⟩ := ran
  rw [outcome_mapM] at made
  refine ⟨artifacts, _, read, ?_, Job.paths_instructions composed⟩
  rw [List.map_append, Outcome.map_of_mapM made fun _ _ ran => Job.path_copyArtifact ran,
    List.map_map]
  rfl

/-- The path of the file of a protocol, by the name of the file that it is read from. -/
def Guest.protocolPath (rules : List String) (fileName : String) : String :=
  if rules.contains fileName then
    rulesDirectory ++ "/" ++ withGlyph (withoutMarkdown fileName) ++ Guest.ruleEnding
  else Guest.referenceDirectory ++ "/" ++ withoutMarkdown fileName ++ markdownEnding

private theorem Guest.path_protocolFile {rules : List String} {fileName : String}
    {artifact : Artifact} {file : GeneratedFile}
    (read : job.source.artifact protocolsDirectory fileName = .ok artifact)
    (made : Guest.protocolFile job rules artifact = .ok file) :
    file.path = Guest.protocolPath rules fileName := by
  have fields : artifact.fileName = fileName ∧ artifact.name = withoutMarkdown fileName := by
    simp only [Source.artifact, Outcome.bind_eq_ok_iff] at read
    obtain ⟨text, -, parsed⟩ := read
    split at parsed <;> cases parsed
    exact ⟨rfl, rfl⟩
  rw [Guest.protocolFile, fields.1] at made
  unfold Guest.protocolPath
  split at made
  · next isRule =>
    rw [if_pos isRule, ← fields.2]
    unfold Guest.ruleFile at made
    simp only at made
    split at made
    · cases made
    · exact (GeneratedFile.of_eq_ok made).1
  · next other =>
    rw [if_neg other, ← fields.2]
    obtain ⟨content, -, written⟩ := Outcome.bind_eq_ok_iff.mp made
    exact (GeneratedFile.of_eq_ok written).1

private theorem Guest.paths_protocolFiles {rules names : List String} {artifacts : List Artifact}
    (read : List.Forall₂ (fun name artifact =>
      job.source.artifact protocolsDirectory name = .ok artifact) names artifacts)
    (made : List.Forall₂ (fun artifact file =>
      Guest.protocolFile job rules artifact = .ok file) artifacts files) :
    files.map GeneratedFile.path = names.map (Guest.protocolPath rules) := by
  induction read generalizing files with
  | nil =>
    cases made
    rfl
  | cons here _ ih =>
    cases made with
    | cons there rest => rw [List.map_cons, List.map_cons, path_protocolFile here there, ih rest]

/-- The protocols of a guest plugin become rules or documents. -/
theorem Guest.paths_protocols {rules : List String}
    (ran : (Guest.protocols job rules).outcome = .ok files) :
    ∃ names written, (job.source.markdownFiles protocolsDirectory).outcome = .ok names ∧
      files.map GeneratedFile.path = names.map (Guest.protocolPath rules) ++ written ∧
      written.Sublist [Guest.instructionsPath] := by
  simp only [Guest.protocols, Source.artifacts, bind_eq_ok_iff, outcome_pure, Except.ok.injEq]
    at ran
  obtain ⟨artifacts, ⟨names, listed, found, read, -, -, rfl⟩, copied, made, instructions,
    composed, rfl⟩ := ran
  rw [outcome_mapM] at read made
  refine ⟨names, _, listed, ?_, Job.paths_instructions composed⟩
  rw [List.map_append, paths_protocolFiles (Outcome.forall₂_of_mapM read)
    (Outcome.forall₂_of_mapM made)]

end Protocols

section Documents

variable {job : Job} {files : List GeneratedFile}

/-- A step that writes one file at most. -/
private theorem sublist_of_made {path content : String} {file : GeneratedFile}
    (made : GeneratedFile.of path content = .ok file) :
    ([file].map GeneratedFile.path).Sublist [path] := by
  rw [List.map_singleton, (GeneratedFile.of_eq_ok made).1]

theorem Standalone.paths_hooks (ran : (Standalone.hooks job).outcome = .ok files) :
    (files.map GeneratedFile.path).Sublist [Standalone.hooksPath] := by
  rw [Standalone.hooks, bind_eq_ok_iff] at ran
  obtain ⟨configured, -, ran⟩ := ran
  cases configured with
  | none =>
    cases ran
    exact List.nil_sublist _
  | some configured =>
    simp only [bind_eq_ok_iff] at ran
    obtain ⟨path, -, text, -, ran⟩ := ran
    cases text with
    | none =>
      cases ran
      exact List.nil_sublist _
    | some text =>
      simp only [bind_eq_ok_iff] at ran
      obtain ⟨document, -, ran⟩ := ran
      cases document with
      | none =>
        cases ran
        exact List.nil_sublist _
      | some document =>
        obtain ⟨file, made, same⟩ := bind_eq_ok_iff.mp ran
        cases same
        exact sublist_of_made made

theorem Standalone.paths_servers (ran : (Standalone.servers job).outcome = .ok files) :
    (files.map GeneratedFile.path).Sublist [Standalone.serversPath] := by
  rw [Standalone.servers, bind_eq_ok_iff] at ran
  obtain ⟨config, -, ran⟩ := ran
  cases config with
  | none =>
    cases ran
    exact List.nil_sublist _
  | some config =>
    simp only [bind_eq_ok_iff] at ran
    obtain ⟨text, -, file, made, same⟩ := ran
    cases same
    exact sublist_of_made made

theorem Standalone.paths_manifest (ran : Standalone.manifest.outcome = .ok files) :
    (files.map GeneratedFile.path).Sublist [Standalone.manifestPath] := by
  simp only [Standalone.manifest, bind_eq_ok_iff] at ran
  obtain ⟨text, -, file, made, same⟩ := ran
  cases same
  exact sublist_of_made made

private theorem Guest.path_payloadFile {path : String} {content : Mapping} {file : GeneratedFile}
    (ran : (Guest.payloadFile path content).outcome = .ok file) :
    ([file].map GeneratedFile.path).Sublist [path] := by
  simp only [Guest.payloadFile, bind_eq_ok_iff] at ran
  obtain ⟨payload, -, text, -, made⟩ := ran
  exact sublist_of_made made

theorem Guest.paths_hooks (ran : (Guest.hooks job).outcome = .ok files) :
    (files.map GeneratedFile.path).Sublist [Guest.hooksPath] := by
  rw [Guest.hooks, bind_eq_ok_iff] at ran
  obtain ⟨content, -, ran⟩ := ran
  split at ran
  · obtain ⟨file, made, same⟩ := bind_eq_ok_iff.mp ran
    cases same
    exact Guest.path_payloadFile made
  · cases ran
    exact List.nil_sublist _

theorem Guest.paths_servers (ran : (Guest.servers job).outcome = .ok files) :
    (files.map GeneratedFile.path).Sublist [Guest.serversPath] := by
  rw [Guest.servers, bind_eq_ok_iff] at ran
  obtain ⟨config, -, ran⟩ := ran
  cases config with
  | none =>
    cases ran
    exact List.nil_sublist _
  | some config =>
    obtain ⟨file, made, same⟩ := bind_eq_ok_iff.mp ran
    cases same
    exact Guest.path_payloadFile made

end Documents

end EditorPlugins.Plugin
