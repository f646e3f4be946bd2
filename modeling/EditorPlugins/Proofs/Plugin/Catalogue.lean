import EditorPlugins.Plugin.Compilation
import EditorPlugins.Proofs.Plugin.Agents
import EditorPlugins.Proofs.Template.Orderly

/-! # The artifacts of a category

Agents and commands are directories with an order, or single files that no such directory hides. A
report lists them without composing any; compiling finds the same ones on its way. No two of them
have the same name.
-/

namespace EditorPlugins.Plugin

open Compose Config Template Traced

/-- Composable directories, and the names of files that none of them hides. -/
def named (composable files : List String) : Entries String Bool :=
  composable.map (·, true) ++
    ((files.map withoutMarkdown).filter fun name => !composable.contains name).map (·, false)

/-- The names of the artifacts of a category, each with whether it is composable. -/
def catalogue (source : Source) (category : String) : Traced (Entries String Bool) := do
  let directories ← source.subdirectories category
  let composable ← directories.filterM fun directory =>
    Traced.lift (isComposable source (joinPath category directory))
  let files ← source.markdownFiles category
  return named composable files

theorem Compiler.agentNames_eq (compiler : Compiler) :
    compiler.agentNames = catalogue compiler.source agentsDirectory := rfl

section Catalogue

variable {source : Source} {category : String} {names : Entries String Bool}

theorem catalogue_eq_ok_iff : (catalogue source category).outcome = .ok names ↔
    ∃ directories, (source.subdirectories category).outcome = .ok directories ∧
      ∃ composable, (directories.filterM fun directory =>
          lift (isComposable source (joinPath category directory))).outcome = .ok composable ∧
        ∃ files, (source.markdownFiles category).outcome = .ok files ∧
          named composable files = names := by
  simp only [catalogue, bind_eq_ok_iff, outcome_pure, Except.ok.injEq]

theorem keys_named (composable files : List String) : Entries.keys (named composable files) =
    composable ++ (files.map withoutMarkdown).filter fun name => !composable.contains name := by
  simp [Entries.keys, named, Function.comp_def]

/-- A directory hides the single file of its name, and neither kind has a name twice. -/
theorem nodup_catalogue (orderly : source.IsOrderly)
    (ran : (catalogue source category).outcome = .ok names) : (Entries.keys names).Nodup := by
  obtain ⟨directories, listed, composable, kept, files, shown, rfl⟩ := catalogue_eq_ok_iff.mp ran
  rw [keys_named, List.nodup_append]
  refine ⟨(orderly.nodup_subdirectories listed).sublist (sublist_of_filterM kept),
    (orderly.nodup_withoutMarkdown shown).filter _, ?_⟩
  rintro name among other member rfl
  simpa [among] using (List.mem_filter.mp member).2

/-- Artifacts are named after the files that they are read from. -/
theorem names_of_artifacts {artifacts : List Artifact}
    (ran : (source.artifacts category).outcome = .ok artifacts) :
    ∃ files, (source.markdownFiles category).outcome = .ok files ∧
      artifacts.map Artifact.name = files.map withoutMarkdown := by
  simp only [Source.artifacts, bind_eq_ok_iff] at ran
  obtain ⟨files, shown, found, read, -, -, same⟩ := ran
  cases same
  rw [outcome_mapM] at read
  refine ⟨files, shown, Outcome.map_of_mapM read fun file artifact here => ?_⟩
  simp only [outcome_lift, Source.artifact, Outcome.bind_eq_ok_iff] at here
  obtain ⟨text, -, parsed⟩ := here
  split at parsed <;> cases parsed
  rfl

end Catalogue

/-- What an agent is in the catalogue, whatever its settings and its body. -/
def EnabledAgent.agent (enabled : EnabledAgent) : String × Bool := (enabled.name, enabled.composed)

section Enabled

variable {job : Job}

private theorem names_of_candidates {directories : List String} {candidates : List Candidate}
    (considered : List.Forall₂ (fun directory candidate =>
      (job.directoryAgent directory).outcome = .ok (some candidate)) directories candidates) :
    candidates.map Candidate.name = directories := by
  induction considered with
  | nil => rfl
  | cons here _ ih => rw [List.map_cons, job.name_of_directoryAgent here, ih]

/-- Composed agents are the composable directories that have settings. -/
private theorem composed_agents {directories : List String} {candidates : List Candidate}
    (considered : List.Forall₂ (fun directory candidate =>
      (job.directoryAgent directory).outcome = .ok (some candidate)) directories candidates) :
    (candidates.filterMap Candidate.agent).map EnabledAgent.agent =
      (directories.map (·, true)).filter fun agent =>
        (job.config.agentSettings? agent.1 job.target).isSome := by
  induction considered with
  | nil => rfl
  | @cons directory candidate directories candidates here _ ih =>
    obtain ⟨composable, -, added⟩ := job.directoryAgent_eq_ok_iff.mp here
    split at added
    · cases settings : job.config.agentSettings? directory job.target with
      | none =>
        rw [settings] at added
        cases added
        simp [settings, ih]
      | some found =>
        rw [settings] at added
        obtain ⟨body, -, same⟩ := added
        cases same
        simp [settings, ih, EnabledAgent.agent]
    · cases added

/-- Agents of single files are those that no directory hides and that have settings. -/
private theorem single_agents {hidden : List String} {artifacts : List Artifact}
    {agents : List (Option EnabledAgent)}
    (considered : (artifacts.mapM (job.fileAgent hidden)).outcome = .ok agents) :
    (agents.filterMap id).map EnabledAgent.agent =
      (((artifacts.map Artifact.name).filter fun name => !hidden.contains name).map
        (·, false)).filter fun agent =>
          (job.config.agentSettings? agent.1 job.target).isSome := by
  rw [outcome_mapM] at considered
  induction artifacts generalizing agents with
  | nil =>
    cases considered
    rfl
  | cons artifact artifacts ih =>
    obtain ⟨first, rest, here, later, rfl⟩ := Outcome.mapM_cons_eq_ok_iff.mp considered
    rw [Job.outcome_fileAgent] at here
    cases here
    by_cases among : artifact.name ∈ hidden
    · simpa [among] using ih later
    · cases settings : job.config.agentSettings? artifact.name job.target with
      | none => simpa [among, settings] using ih later
      | some found => simpa [among, settings, EnabledAgent.agent] using ih later

/-- The agents that are enabled are those of the catalogue that have settings. -/
theorem catalogue_of_enabledAgents {enabled : List EnabledAgent}
    (ran : job.enabledAgents.outcome = .ok enabled) :
    ∃ names, (catalogue job.source agentsDirectory).outcome = .ok names ∧
      enabled.map EnabledAgent.agent =
        names.filter fun agent => (job.config.agentSettings? agent.1 job.target).isSome := by
  simp only [Job.enabledAgents, bind_eq_ok_iff] at ran
  obtain ⟨directories, listed, candidates, considered, artifacts, read, single, made, -, -, same⟩ :=
    ran
  cases same
  rw [outcome_mapM] at considered
  obtain ⟨composable, kept, stands⟩ := exists_filterM
    (f := fun directory => lift (isComposable job.source (joinPath agentsDirectory directory)))
    considered fun _ _ => job.isComposable_eq_ok
  obtain ⟨files, shown, names⟩ := names_of_artifacts read
  refine ⟨named composable files, catalogue_eq_ok_iff.mpr
    ⟨directories, listed, composable, kept, files, shown, rfl⟩, ?_⟩
  rw [List.map_append, named, List.filter_append, composed_agents stands, single_agents made, names,
    names_of_candidates stands]

/-- No two agents that are enabled have the same name. -/
theorem nodup_enabledAgents (orderly : job.source.IsOrderly) {enabled : List EnabledAgent}
    (ran : job.enabledAgents.outcome = .ok enabled) : (enabled.map EnabledAgent.name).Nodup := by
  obtain ⟨names, listed, same⟩ := catalogue_of_enabledAgents ran
  have keys : ((enabled.map EnabledAgent.agent).map Prod.fst).Nodup := by
    rw [same]
    exact (nodup_catalogue orderly listed).sublist (List.filter_sublist.map Prod.fst)
  rwa [List.map_map] at keys

end Enabled

end EditorPlugins.Plugin
