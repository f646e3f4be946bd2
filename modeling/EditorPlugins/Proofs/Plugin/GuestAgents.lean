import EditorPlugins.Plugin.Guest
import EditorPlugins.Proofs.Frontmatter.Bare
import EditorPlugins.Proofs.Frontmatter.Restored
import EditorPlugins.Proofs.Plugin.File
import EditorPlugins.Proofs.Traced
import EditorPlugins.Proofs.Value.Tree

/-! # Agents of guest plugins carry a description

The file of an agent with a description is read as this description and nothing else, whatever its
body is. Without a description the file is the body alone, so what is read of it is whatever
frontmatter the body itself starts with.
-/

namespace EditorPlugins.Plugin.Guest

open Config Template Frontmatter

/-- Settings that give a description which is not empty. -/
def IsDescribed (settings : AgentSettings) : Prop :=
  ∃ description, settings.description = some description ∧ description ≠ ""

/-- Frontmatter that holds the description of an agent, or nothing if it has none. -/
inductive ShowsDescription (settings : AgentSettings) : Mapping → Prop where
  | described {description : String} (given : settings.description = some description)
      (nonempty : description ≠ "") :
      ShowsDescription settings (Mapping.ofFields [("description", .text description)])
  | bare (none : ¬IsDescribed settings) : ShowsDescription settings []

private theorem agentFrontmatter_of_described {settings : AgentSettings} {description : String}
    (given : settings.description = some description) (nonempty : description ≠ "") :
    agentFrontmatter settings = Mapping.ofFields [("description", .text description)] := by
  simp [agentFrontmatter, given, nonempty]

private theorem agentFrontmatter_of_bare {settings : AgentSettings} (none : ¬IsDescribed settings) :
    agentFrontmatter settings = [] := by
  unfold agentFrontmatter
  split
  · next description given =>
    split
    · rfl
    · next nonempty => exact absurd ⟨description, given, nonempty⟩ none
  · rfl

private theorem showsDescription_iff_of_bare {settings : AgentSettings} {frontmatter : Mapping}
    (none : ¬IsDescribed settings) : ShowsDescription settings frontmatter ↔ frontmatter = [] := by
  constructor
  · intro shows
    cases shows with
    | described given nonempty => exact absurd ⟨_, given, nonempty⟩ none
    | bare => rfl
  · rintro rfl
    exact .bare none

private theorem description_isName : IsName "description" := by decide

/-- Below a description the body keeps to itself, even if it starts with an envelope. -/
theorem split_described (description body : String) {content : String}
    (joined : join (Mapping.ofFields [("description", .text description)]) body none =
      .ok content) :
    split content = .ok ⟨Mapping.ofFields [("description", .text description)],
      String.ofList (body.toList.dropWhile Text.isNewline)⟩ := by
  have names : HasNames (Mapping.ofFields [("description", .text description)]) := by
    refine ⟨List.forall_mem_singleton.mpr (.text description_isName), ?_⟩
    intro key entries member
    cases List.mem_singleton.mp member
  have parsed : IsMapOf IsParsed (Mapping.ofFields [("description", .text description)]) :=
    ⟨List.nodup_singleton _, List.forall_mem_singleton.mpr (.line (.inr (.text _)))⟩
  exact split_join names parsed (List.cons_ne_nil _ _) joined

/-- The file of an agent shows its description just when it has one or its body has no
frontmatter. -/
theorem agentFile_shows_iff {agent : EnabledAgent} {file : GeneratedFile}
    (made : agentFile agent = .ok file) :
    file.path = Job.markedPath agentsDirectory agent.name ∧
      ((∃ document, split file.content = .ok document ∧
          ShowsDescription agent.settings document.frontmatter) ↔
        IsDescribed agent.settings ∨ ¬HasFrontmatter agent.body) := by
  unfold agentFile at made
  split at made
  · cases made
  next content joined =>
  obtain ⟨path, same⟩ := GeneratedFile.of_eq_ok made
  refine ⟨path, ?_⟩
  rw [same]
  by_cases described : IsDescribed agent.settings
  · obtain ⟨description, given, nonempty⟩ := described
    rw [agentFrontmatter_of_described given nonempty] at joined
    exact iff_of_true ⟨_, split_described description _ joined, .described given nonempty⟩
      (.inl ⟨description, given, nonempty⟩)
  · rw [agentFrontmatter_of_bare described] at joined
    obtain rfl : agent.body = content := Except.ok.inj joined
    rw [← split_bare_iff, or_iff_right described]
    simp only [showsDescription_iff_of_bare described]

/-- The files of agents stand for the enabled agents one by one. What is read of a file is the
description of its agent, or nothing if there is none, just when the agent has a description or its
body does not start with frontmatter of its own. -/
theorem agents_show_iff {job : Job} {files : List GeneratedFile}
    (compiled : (agents job).outcome = .ok files) :
    ∃ enabled, job.enabledAgents.outcome = .ok enabled ∧
      List.Forall₂ (fun agent file =>
        file.path = Job.markedPath agentsDirectory agent.name ∧
          ((∃ document, split file.content = .ok document ∧
              ShowsDescription agent.settings document.frontmatter) ↔
            IsDescribed agent.settings ∨ ¬HasFrontmatter agent.body))
        enabled files := by
  simp only [agents, Traced.outcome_bind, Outcome.exceptBind_eq_ok_iff] at compiled
  obtain ⟨enabled, selected, written⟩ := compiled
  simp only [Traced.outcome_mapM, Traced.outcome_lift] at written
  have files := Outcome.forall₂_of_mapM written
  exact ⟨enabled, selected, files.imp fun agent file made => agentFile_shows_iff made⟩

/-- Settings with a description or without one. -/
def settingsWith (description : Option String) : AgentSettings where
  model := none
  description := description
  memory := none
  color := none
  argumentHint := none
  tools := none
  skills := none
  given := []

/-- A job with one agent, whose template file has some content. -/
def scoutJob (content : String) (description : Option String) : Job where
  target := targetName
  source :=
    { origin := .snapshot 1
      projectRoot := FilePath.ofText "/project"
      readBytes := fun path =>
        if path = "agents/scout.md" then .ok (Text.Utf8.encode content)
        else .error (.snapshotMissing path)
      list := fun directory =>
        if directory = agentsDirectory then .ok [⟨"scout.md", false⟩]
        else .error (.snapshotDirectoryMissing directory)
      exists? := fun path => .ok (path = "agents/scout.md")
      isDir? := fun path => .ok (path = agentsDirectory)
      depth := 1 }
  config :=
    ⟨"1", [], [("scout", [(targetName, some (settingsWith description))])], [], [], [], []⟩
  bindings := []

/-- Frontmatter, and a body that starts with an envelope of its own. -/
def twiceEnveloped : String := "---\na: 1\n---\n---\nb: 2\n---\nx\n"

theorem scoutJob_shows : ∃ files,
    (agents (scoutJob twiceEnveloped (some "Looks: around"))).outcome = .ok files ∧
    files.map GeneratedFile.path = ["agents/🧠-scout.md"] ∧
    ∃ enabled, (scoutJob twiceEnveloped (some "Looks: around")).enabledAgents.outcome =
        .ok enabled ∧
      List.Forall₂ (fun agent file =>
        file.path = Job.markedPath agentsDirectory agent.name ∧
          ((∃ document, split file.content = .ok document ∧
              ShowsDescription agent.settings document.frontmatter) ↔
            IsDescribed agent.settings ∨ ¬HasFrontmatter agent.body))
        enabled files := by
  have paths : (agents (scoutJob twiceEnveloped (some "Looks: around"))).outcome.toOption.map
      (·.map GeneratedFile.path) = some ["agents/🧠-scout.md"] := by decide +kernel
  obtain ⟨files, compiled, same⟩ := Outcome.exists_of_toOption paths
  exact ⟨files, compiled, same, agents_show_iff compiled⟩

/-- Without a description, the envelope that a body starts with is read as frontmatter. -/
theorem scoutJob_shows_body : ∃ enabled file document,
    (scoutJob twiceEnveloped none).enabledAgents.outcome = .ok [enabled] ∧
    ¬IsDescribed enabled.settings ∧
    (agents (scoutJob twiceEnveloped none)).outcome = .ok [file] ∧
    split file.content = .ok document ∧
    document.frontmatter = Mapping.ofFields [("b", .int 2)] ∧
    ¬ShowsDescription enabled.settings document.frontmatter := by
  have bare : ¬IsDescribed (settingsWith none) := fun ⟨_, given, _⟩ => nomatch given
  have contents : (agents (scoutJob twiceEnveloped none)).outcome.toOption.map
      (·.map GeneratedFile.content) = some ["---\nb: 2\n---\nx\n"] := by decide +kernel
  obtain ⟨files, compiled, same⟩ := Outcome.exists_of_toOption contents
  obtain ⟨file, rest, rfl, content, alone⟩ := List.map_eq_cons_iff.mp same
  obtain rfl := List.map_eq_nil_iff.mp alone
  refine ⟨⟨"scout", settingsWith none, "---\nb: 2\n---\nx\n", false⟩, file,
    ⟨Mapping.ofFields [("b", .int 2)], "x\n"⟩, rfl, bare, compiled, by rw [content]; rfl, rfl,
    fun shows => ?_⟩
  cases (showsDescription_iff_of_bare bare).mp shows

end EditorPlugins.Plugin.Guest
