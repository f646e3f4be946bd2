import EditorPlugins.Plugin.Standalone
import EditorPlugins.Proofs.Frontmatter.Envelope
import EditorPlugins.Proofs.Frontmatter.RoundTrip
import EditorPlugins.Proofs.Plugin.File
import EditorPlugins.Proofs.Traced

/-! # Agents are read as they are configured

Whoever splits the file of an agent finds its name, the settings that are configured and not empty,
and its body. Settings and bodies are arbitrary texts, so this rests on the quoting of texts and on
the envelope that no line of a setting can close.
-/

namespace EditorPlugins.Plugin.Standalone

open Config Template

/-- The settings that are texts, by their keys in frontmatter. -/
def textSettings (settings : AgentSettings) : List (String × Option String) :=
  [("model", settings.model), ("description", settings.description), ("memory", settings.memory),
    ("color", settings.color), ("argument-hint", settings.argumentHint)]

/-- The settings that are lists of texts, by their keys in frontmatter. -/
def listSettings (settings : AgentSettings) : List (String × Option (List String)) :=
  [("tools", settings.tools), ("skills", settings.skills)]

/-- A setting that is given and not empty, by its key in frontmatter and its value there. -/
inductive Configures (settings : AgentSettings) : String → Value → Prop where
  | text {key text : String} (given : (key, some text) ∈ textSettings settings)
      (nonempty : text ≠ "") : Configures settings key (.text text)
  | texts {key : String} {texts : List String} (given : (key, some texts) ∈ listSettings settings)
      (nonempty : texts ≠ []) : Configures settings key (Value.texts texts)

/-- Frontmatter holds the marked name of an agent and what is configured for it, in the order of
the keys. -/
structure Describes (agent : EnabledAgent) (frontmatter : Mapping) : Prop where
  name : Mapping.field? frontmatter "name" = some (.text (withGlyph agent.name))
  settings : ∀ key value, key ≠ "name" →
    (Mapping.field? frontmatter key = some value ↔ Configures agent.settings key value)
  order : (Entries.keys frontmatter).Sublist agentKeys

private theorem mem_textEntry {key name : String} {value : Value} {setting : Option String} :
    (name, value) ∈ textEntry key setting ↔
      name = key ∧ ∃ text, setting = some text ∧ text ≠ "" ∧ value = .text text := by
  cases setting with
  | none => simp [textEntry]
  | some text => by_cases empty : text = "" <;> simp [textEntry, empty]

private theorem mem_textsEntry {key name : String} {value : Value}
    {setting : Option (List String)} :
    (name, value) ∈ textsEntry key setting ↔
      name = key ∧ ∃ texts, setting = some texts ∧ texts ≠ [] ∧ value = Value.texts texts := by
  cases setting with
  | none => simp [textsEntry]
  | some texts => by_cases empty : texts = [] <;> simp [textsEntry, empty]

/-- The fields that the settings of an agent have in frontmatter. -/
def settingFields (settings : AgentSettings) : List (String × Value) :=
  ((textSettings settings).flatMap fun setting => textEntry setting.1 setting.2) ++
    (listSettings settings).flatMap fun setting => textsEntry setting.1 setting.2

private theorem agentFrontmatter_eq (name : String) (settings : AgentSettings) :
    agentFrontmatter name settings =
      Mapping.ofFields (("name", .text (withGlyph name)) :: settingFields settings) := by
  simp [agentFrontmatter, settingFields, textSettings, listSettings]

private theorem mem_settingFields {settings : AgentSettings} {key : String} {value : Value} :
    (key, value) ∈ settingFields settings ↔ Configures settings key value := by
  constructor
  · intro member
    rcases List.mem_append.mp member with member | member
    · obtain ⟨⟨_, setting⟩, given, member⟩ := List.mem_flatMap.mp member
      obtain ⟨rfl, text, rfl, nonempty, rfl⟩ := mem_textEntry.mp member
      exact .text given nonempty
    · obtain ⟨⟨_, setting⟩, given, member⟩ := List.mem_flatMap.mp member
      obtain ⟨rfl, texts, rfl, nonempty, rfl⟩ := mem_textsEntry.mp member
      exact .texts given nonempty
  · intro configured
    cases configured with
    | text given nonempty =>
      exact List.mem_append_left _
        (List.mem_flatMap.mpr ⟨_, given, mem_textEntry.mpr ⟨rfl, _, rfl, nonempty, rfl⟩⟩)
    | texts given nonempty =>
      exact List.mem_append_right _
        (List.mem_flatMap.mpr ⟨_, given, mem_textsEntry.mpr ⟨rfl, _, rfl, nonempty, rfl⟩⟩)

private theorem mem_agentFrontmatter {name : String} {key : Scalar} {settings : AgentSettings}
    {value : Value} : (key, value) ∈ agentFrontmatter name settings ↔
      ∃ field, key = .text field ∧
        (field = "name" ∧ value = .text (withGlyph name) ∨ Configures settings field value) := by
  rw [agentFrontmatter_eq, Mapping.ofFields]
  simp only [List.mem_map, List.mem_cons, Prod.exists, Prod.mk.injEq, ← mem_settingFields]
  constructor
  · rintro ⟨field, value, present, rfl, rfl⟩
    exact ⟨field, rfl, present⟩
  · rintro ⟨field, rfl, present⟩
    exact ⟨field, value, present, rfl, rfl⟩

private theorem keys_flatMap_sublist {α : Type} {fields : String × α → List (String × Value)}
    (each : ∀ setting, ((fields setting).map Prod.fst).Sublist [setting.1])
    (settings : List (String × α)) :
    ((settings.flatMap fields).map Prod.fst).Sublist (settings.map Prod.fst) := by
  induction settings with
  | nil => exact List.Sublist.refl _
  | cons setting settings ih =>
    rw [List.flatMap_cons, List.map_append]
    exact (each setting).append ih

private theorem keys_textEntry_sublist (setting : String × Option String) :
    ((textEntry setting.1 setting.2).map Prod.fst).Sublist [setting.1] := by
  unfold textEntry
  split
  · exact List.nil_sublist _
  split
  · exact List.nil_sublist _
  · exact List.Sublist.refl _

private theorem keys_textsEntry_sublist (setting : String × Option (List String)) :
    ((textsEntry setting.1 setting.2).map Prod.fst).Sublist [setting.1] := by
  unfold textsEntry
  split
  · exact List.nil_sublist _
  split
  · exact List.nil_sublist _
  · exact List.Sublist.refl _

/-- The keys of an agent's frontmatter come in their order. -/
theorem keys_agentFrontmatter_sublist (name : String) (settings : AgentSettings) :
    (Entries.keys (agentFrontmatter name settings)).Sublist agentKeys := by
  have texts := keys_flatMap_sublist keys_textEntry_sublist (textSettings settings)
  have lists := keys_flatMap_sublist keys_textsEntry_sublist (listSettings settings)
  have fields : ((settingFields settings).map Prod.fst).Sublist
      ((textSettings settings).map Prod.fst ++ (listSettings settings).map Prod.fst) := by
    rw [settingFields, List.map_append]
    exact texts.append lists
  have keys : Entries.keys (agentFrontmatter name settings) =
      ("name" :: (settingFields settings).map Prod.fst).map .text := by
    rw [agentFrontmatter_eq]
    simp [Entries.keys, Mapping.ofFields]
  rw [keys]
  exact (fields.cons_cons "name").map Scalar.text

private theorem nodup_agentKeys : agentKeys.Nodup := by decide

/-- The keys of an agent's frontmatter as texts. -/
def agentNames : List String :=
  ["name", "model", "description", "memory", "color", "argument-hint", "tools", "skills"]

private theorem agentKeys_eq : agentKeys = agentNames.map .text := rfl

theorem isKey_of_mem_agentKeys {key : Scalar} (member : key ∈ agentKeys) :
    Frontmatter.IsKey key := by
  have names : ∀ name ∈ agentNames, Frontmatter.IsName name := by decide
  obtain ⟨name, present, rfl⟩ := List.mem_map.mp (agentKeys_eq ▸ member)
  exact .text (names name present)

/-- The values of an agent's frontmatter are written as they are. -/
theorem content_of_mem_agentFrontmatter {name : String} {settings : AgentSettings} {key : Scalar}
    {value : Value} (member : (key, value) ∈ agentFrontmatter name settings) :
    Frontmatter.IsField value ∧ Frontmatter.keptValue? value = some value := by
  obtain ⟨field, -, ⟨-, rfl⟩ | configured⟩ := mem_agentFrontmatter.mp member
  · exact ⟨.leaf (.text _), rfl⟩
  · cases configured with
    | text => exact ⟨.leaf (.text _), rfl⟩
    | @texts texts given nonempty =>
      refine ⟨.texts texts, ?_⟩
      obtain ⟨text, rest, rfl⟩ := List.exists_cons_of_ne_nil nonempty
      rfl

private theorem kept_agentFrontmatter (name : String) (settings : AgentSettings) :
    Frontmatter.kept (agentFrontmatter name settings) = agentFrontmatter name settings :=
  Frontmatter.kept_eq_self fun _ member => (content_of_mem_agentFrontmatter member).2

private theorem plain_agentFrontmatter (name : String) (settings : AgentSettings) :
    ∀ entry ∈ agentFrontmatter name settings,
      Frontmatter.IsKey entry.1 ∧ Frontmatter.IsField entry.2 := by
  rintro ⟨key, value⟩ member
  have present : key ∈ agentKeys :=
    (keys_agentFrontmatter_sublist name settings).mem (List.mem_map_of_mem member)
  exact ⟨isKey_of_mem_agentKeys present, (content_of_mem_agentFrontmatter member).1⟩

/-- Lines that were written for an agent are read as a description of it. -/
theorem exists_describes (agent : EnabledAgent) {lines : List (List Char)}
    (formed : Frontmatter.mappingLines (agentFrontmatter agent.name agent.settings)
      (some agentKeys) = .ok lines) :
    ∃ frontmatter, Frontmatter.readMapping .document lines = .ok frontmatter ∧
      Describes agent frontmatter := by
  have keys := keys_agentFrontmatter_sublist agent.name agent.settings
  have nodup := nodup_agentKeys.sublist keys
  have formed : Frontmatter.mappingLines (agentFrontmatter agent.name agent.settings)
    ((some agentNames).map (·.map .text)) = .ok lines := formed
  obtain ⟨frontmatter, run, same, order⟩ :=
    Frontmatter.exists_readMapping nodup (plain_agentFrontmatter _ _) formed
  rw [kept_agentFrontmatter] at order
  have found : ∀ key value, Mapping.field? frontmatter key = some value ↔
      (.text key, value) ∈ agentFrontmatter agent.name agent.settings := by
    intro key value
    rw [Mapping.field?, same, kept_agentFrontmatter]
    exact ⟨Entries.mem_of_get?, Entries.get?_of_mem nodup⟩
  refine ⟨frontmatter, run, ?_, ?_, ?_⟩
  · exact (found _ _).mpr (mem_agentFrontmatter.mpr ⟨"name", rfl, .inl ⟨rfl, rfl⟩⟩)
  · intro key value other
    rw [found, mem_agentFrontmatter]
    constructor
    · rintro ⟨field, text, ⟨rfl, -⟩ | configured⟩
      · exact absurd (Scalar.text.inj text) other
      · exact Scalar.text.inj text ▸ configured
    · intro configured
      exact ⟨key, rfl, .inr configured⟩
  · rw [order, Option.getD_some, ← agentKeys_eq,
      Frontmatter.arranged_of_forall_mem nodup_agentKeys fun key member => keys.mem member]
    exact List.filter_sublist

/-- The file of an agent is split into a description of it and its body. -/
theorem exists_split (agent : EnabledAgent) {content : String}
    (joined : Frontmatter.join (agentFrontmatter agent.name agent.settings) agent.body
      (some agentKeys) = .ok content) :
    ∃ document, Frontmatter.split content = .ok document ∧
      Describes agent document.frontmatter ∧
      document.body = String.ofList (agent.body.toList.dropWhile Text.isNewline) := by
  obtain ⟨lines, formed, rfl⟩ := Frontmatter.join_eq_ok joined
  obtain ⟨frontmatter, run, describes⟩ := exists_describes agent formed
  -- The name is always written, so the document has an envelope.
  have nonempty : lines ≠ [] := by
    rintro rfl
    cases run
    cases describes.name
  have inside : ∀ line ∈ lines, Frontmatter.IsBlockLine line := by
    refine Frontmatter.isBlockLine_of_mappingLines (fun entry member => ?_) formed
    have present : entry ∈ agentFrontmatter agent.name agent.settings :=
      @Frontmatter.mem_of_mem_orderedEntries _ (some agentNames) _ member
    obtain ⟨isKey, isField⟩ := plain_agentFrontmatter _ _ entry present
    exact isField.shape isKey
  rw [if_neg nonempty, Frontmatter.split_enveloped inside, run]
  exact ⟨_, rfl, describes, rfl⟩

/-- The file of an agent bears its marked name and is split into a description of it and its
body. -/
theorem agentFile_read {agent : EnabledAgent} {file : GeneratedFile}
    (made : agentFile agent = .ok file) :
    file.path = Job.markedPath agentsDirectory agent.name ∧
      ∃ document, Frontmatter.split file.content = .ok document ∧
        Describes agent document.frontmatter ∧
        document.body = String.ofList (agent.body.toList.dropWhile Text.isNewline) := by
  unfold agentFile at made
  cases joined : Frontmatter.join (agentFrontmatter agent.name agent.settings) agent.body
      (some agentKeys) with
  | error cause =>
    simp only [joined] at made
    cases made
  | ok content =>
    simp only [joined] at made
    obtain ⟨path, same⟩ := GeneratedFile.of_eq_ok made
    rw [same]
    exact ⟨path, exists_split agent joined⟩

/-- The files of agents stand for the enabled agents one by one, in their order. Each is split into
the name of its agent with what is configured for it, and the body of the agent without the line
ends at its start. -/
theorem agents_read {job : Job} {files : List GeneratedFile}
    (compiled : (agents job).outcome = .ok files) :
    ∃ enabled, job.enabledAgents.outcome = .ok enabled ∧
      List.Forall₂ (fun agent file =>
        file.path = Job.markedPath agentsDirectory agent.name ∧
          ∃ document, Frontmatter.split file.content = .ok document ∧
            Describes agent document.frontmatter ∧
            document.body = String.ofList (agent.body.toList.dropWhile Text.isNewline))
        enabled files := by
  simp only [agents, Traced.outcome_bind, Outcome.exceptBind_eq_ok_iff] at compiled
  obtain ⟨enabled, selected, written⟩ := compiled
  simp only [Traced.outcome_mapM, Traced.outcome_lift] at written
  have files := Outcome.forall₂_of_mapM written
  exact ⟨enabled, selected, files.imp fun agent file made => agentFile_read made⟩

/-- A tree with one agent, whose body has lines that look like delimiters. -/
def reviewerSource : Source where
  origin := .snapshot 1
  projectRoot := FilePath.ofText "/project"
  readBytes _ := .ok (Text.Utf8.encode "Read:\n---\nall of it\n---\n")
  list directory :=
    if directory = agentsDirectory then .ok [⟨"reviewer.md", false⟩]
    else .error (.directoryMissing directory)
  exists? _ := .ok true
  isDir? path := .ok (path = agentsDirectory)
  depth := 1

/-- Settings that are left out, and texts that have other meanings when they are not quoted. -/
def reviewerSettings : AgentSettings where
  model := some ""
  description := some "Reviews: \"all\"\n---"
  memory := none
  color := some "true"
  argumentHint := some "[file]"
  tools := some ["- read", "12"]
  skills := some []
  given := ["model", "description", "color", "argument_hint", "tools", "skills"]

def reviewerJob : Job where
  target := targetName
  source := reviewerSource
  config := ⟨"1", [], [("reviewer", [(targetName, some reviewerSettings)])], [], [], [], []⟩
  bindings := []

theorem reviewerJob_agents : ∃ files, (agents reviewerJob).outcome = .ok files ∧
    files.map GeneratedFile.path = ["agents/🧠-reviewer.md"] ∧
    ∃ enabled, reviewerJob.enabledAgents.outcome = .ok enabled ∧
      List.Forall₂ (fun agent file =>
        file.path = Job.markedPath agentsDirectory agent.name ∧
          ∃ document, Frontmatter.split file.content = .ok document ∧
            Describes agent document.frontmatter ∧
            document.body = String.ofList (agent.body.toList.dropWhile Text.isNewline))
        enabled files := by
  have paths : (agents reviewerJob).outcome.toOption.map (·.map GeneratedFile.path) =
      some ["agents/🧠-reviewer.md"] := by decide +kernel
  cases compiled : (agents reviewerJob).outcome with
  | error cause =>
    rw [compiled] at paths
    cases paths
  | ok files =>
    rw [compiled] at paths
    exact ⟨files, rfl, Option.some.inj paths, agents_read compiled⟩

end EditorPlugins.Plugin.Standalone
