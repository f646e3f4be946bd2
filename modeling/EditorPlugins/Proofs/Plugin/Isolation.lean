import EditorPlugins.Plugin.Compilation
import EditorPlugins.Proofs.Compose.Local
import EditorPlugins.Proofs.Plugin.Agents
import EditorPlugins.Proofs.Template.Outside

/-! # Disabled agents are isolated

A composable agent that the configuration does not enable takes part in compiling only by its name:
it hides a single file. Its directory is not composed, and no other agent's sections lead into it.
So whatever that directory holds besides its order, the agents of a target are the same.
-/

namespace EditorPlugins.Plugin

open Compose Config Template Traced

private theorem isTargetName_name {target : Target} (known : target ∈ Target.all) :
    IsTargetName target.name := by
  simp only [Target.all, List.mem_cons, List.not_mem_nil, or_false] at known
  rcases known with rfl | rfl <;> exact .of_isAlphanum (by decide) (by decide)

/-- The built-in targets by name, each with the step that compiles its agents. -/
def agentSteps : List (String × (Job → Traced (List GeneratedFile))) :=
  [(Target.standalone.name, Standalone.agents), (Target.guest.name, Guest.agents)]

section Paths

variable {name : String}

private theorem isBase_agents : TemplatePath.IsBase [agentsDirectory] :=
  TemplatePath.IsBase.of_ofText? (by decide) (List.cons_ne_nil _ _)

/-- The path of what stands directly among the agents. -/
theorem joinPath_agents (noSlash : '/' ∉ name.toList) :
    joinPath agentsDirectory name = TemplatePath.text [agentsDirectory, name] := by
  rw [← TemplatePath.text_singleton agentsDirectory,
    TemplatePath.joinPath_text isBase_agents.plain noSlash]
  rfl

/-- The order of an agent reads back, whatever the agent's name. -/
theorem ofText?_order (isName : TemplatePath.IsName name) :
    TemplatePath.ofText? (joinPath (joinPath agentsDirectory name) orderFile) =
      some [agentsDirectory, name, orderFile] := by
  have base := isBase_agents.child isName
  have written : joinPath (TemplatePath.text [agentsDirectory, name]) orderFile =
      TemplatePath.text ([agentsDirectory, name] ++ [orderFile]) :=
    TemplatePath.joinPath_text base.plain (by decide)
  rw [joinPath_agents isName.noSlash, written]
  exact base.ofText?_child (by constructor <;> decide) isInside_orderFile.unblank

/-- A markdown file among the agents reads back. -/
theorem ofText?_markdown (isName : TemplatePath.IsName name)
    (markdown : Text.endsWith markdownEnding name = true) :
    TemplatePath.ofText? (joinPath agentsDirectory name) = some [agentsDirectory, name] := by
  rw [joinPath_agents isName.noSlash]
  refine isBase_agents.ofText?_child isName fun c last => ?_
  obtain ⟨before, whole⟩ := List.isSuffixOf_iff_suffix.mp markdown
  rw [← whole, List.getLast?_append] at last
  cases last
  decide

end Paths

/-- A disabled agent is a candidate and nothing more. -/
theorem outcome_directoryAgent {job : Job} {agent : String} {snapshot : Snapshot} (root : FilePath)
    (isName : TemplatePath.IsName agent)
    (order : [agentsDirectory, agent, orderFile] ∈ Entries.keys snapshot.files)
    (disabled : job.config.agentSettings? agent job.target = none) :
    ((job.reading (snapshot.source root)).directoryAgent agent).outcome =
      .ok (some ⟨agent, none⟩) := by
  have composable : isComposable (snapshot.source root) (joinPath agentsDirectory agent) =
      .ok true := by
    rw [isComposable, Snapshot.exists?_of_ofText? root (ofText?_order isName),
      Snapshot.isFile_iff.mpr order, Bool.true_or]
  refine (Job.directoryAgent_eq_ok_iff _).mpr ⟨true, composable, ?_⟩
  simp only [if_true, Job.reading, disabled]

/-- Two snapshots of files that differ only within the directory of one agent, which has an order in
both. -/
structure DifferWithin (agent : String) (first second : Snapshot) : Prop where
  named : ∀ path ∈ Entries.keys first.files, ∀ name ∈ path, TemplatePath.IsName name
  agree : Snapshot.AgreeOutside ([agentsDirectory] ++ [agent]) first second
  isName : TemplatePath.IsName agent
  order : [agentsDirectory, agent, orderFile] ∈ Entries.keys first.files
  also : [agentsDirectory, agent, orderFile] ∈ Entries.keys second.files

namespace DifferWithin

variable {agent : String} {first second : Snapshot} (differ : DifferWithin agent first second)
  (root other : FilePath)

include differ

private theorem outcome_entries_eq : ((first.source root).entries agentsDirectory).outcome =
    ((second.source other).entries agentsDirectory).outcome := by
  have read : TemplatePath.ofText? agentsDirectory = some [agentsDirectory] := by decide
  rw [Snapshot.outcome_entries root read, Snapshot.outcome_entries other read,
    differ.agree.entries_eq (Snapshot.isDir_iff.mpr (.inr ⟨[orderFile], by simp, differ.order⟩))
      (Snapshot.isDir_iff.mpr (.inr ⟨[orderFile], by simp, differ.also⟩))]

/-- What is listed among the agents are names. -/
theorem isName_of_mem_entries {entries : List Entry}
    (listed : ((first.source root).entries agentsDirectory).outcome = .ok entries) {entry : Entry}
    (member : entry ∈ entries) : TemplatePath.IsName entry.name := by
  have read : TemplatePath.ofText? agentsDirectory = some [agentsDirectory] := by decide
  rw [Snapshot.outcome_entries root read] at listed
  cases listed
  obtain ⟨name, present, rfl⟩ := List.mem_map.mp member
  obtain ⟨below, found⟩ := Snapshot.mem_names_iff.mp present
  exact differ.named _ found name (by simp)

/-- The directories of the other agents do not lie within the one that differs. -/
theorem agreeBelow {name : String} (beside : name ≠ agent) :
    AgreeBelow [agentsDirectory, name] (first.source root) (second.source other) :=
  fun _ _ read => differ.agree.readBytes_eq beside read

private theorem outcome_directoryAgent_eq {job : Job} (isTarget : IsTargetName job.target)
    (disabled : job.config.agentSettings? agent job.target = none) {name : String}
    (isName : TemplatePath.IsName name) :
    ((job.reading (first.source root)).directoryAgent name).outcome =
      ((job.reading (second.source other)).directoryAgent name).outcome := by
  by_cases same : name = agent
  · rw [same, outcome_directoryAgent root differ.isName differ.order disabled,
      outcome_directoryAgent other differ.isName differ.also disabled]
  · refine job.outcome_directoryAgent_congr ?_ ?_
    · exact @Snapshot.AgreeOutside.exists?_eq _ _ [agentsDirectory] [orderFile] _ _ differ.agree
        same root other _ (ofText?_order isName)
    · rw [Job.compose, Job.compose, joinPath_agents isName.noSlash]
      exact outcome_composeDirectory_congr (isBase_agents.child isName)
        (differ.agreeBelow root other same) isTarget _

/-- A single file stands beside every directory. -/
theorem artifact_eq {name : String} (isName : TemplatePath.IsName name)
    (markdown : Text.endsWith markdownEnding name = true) :
    (first.source root).artifact agentsDirectory name =
      (second.source other).artifact agentsDirectory name := by
  have read := ofText?_markdown isName markdown
  have beside : Entries.get? first.files [agentsDirectory, name] =
      Entries.get? second.files [agentsDirectory, name] := by
    refine differ.agree _ fun below proper same => proper ?_
    simp only [List.cons_append, List.nil_append, List.cons.injEq] at same
    exact same.2.2.symm
  have content : (first.source root).readBytes (joinPath agentsDirectory name) =
      (second.source other).readBytes (joinPath agentsDirectory name) := by
    change first.readBytes _ = second.readBytes _
    rw [Snapshot.readBytes_of_ofText? read, Snapshot.readBytes_of_ofText? read, beside]
  have text : (first.source root).readText (joinPath agentsDirectory name) =
      (second.source other).readText (joinPath agentsDirectory name) := by
    rw [Source.readText, content]
    rfl
  rw [Source.artifact, Source.artifact, text]

private theorem outcome_artifacts_eq : ((first.source root).artifacts agentsDirectory).outcome =
    ((second.source other).artifacts agentsDirectory).outcome := by
  have listed : ((first.source root).markdownFiles agentsDirectory).outcome =
      ((second.source other).markdownFiles agentsDirectory).outcome :=
    outcome_bind_congr (differ.outcome_entries_eq root other) fun _ _ => rfl
  refine outcome_bind_congr listed fun names shown => ?_
  refine outcome_bind_congr (outcome_mapM_congr fun name member => ?_) fun _ _ => rfl
  rw [← listed, Source.markdownFiles, bind_eq_ok_iff] at shown
  obtain ⟨entries, all, found⟩ := shown
  cases found
  obtain ⟨entry, present, rfl⟩ := List.mem_map.mp member
  obtain ⟨inside, plain⟩ := List.mem_filter.mp present
  rw [Bool.and_eq_true] at plain
  rw [differ.artifact_eq root other (differ.isName_of_mem_entries root all inside) plain.2]

/-- A disabled agent makes no difference to the agents that are enabled. -/
theorem outcome_enabledAgents_eq {job : Job} (isTarget : IsTargetName job.target)
    (disabled : job.config.agentSettings? agent job.target = none) :
    (job.reading (first.source root)).enabledAgents.outcome =
      (job.reading (second.source other)).enabledAgents.outcome := by
  have listed : ((first.source root).subdirectories agentsDirectory).outcome =
      ((second.source other).subdirectories agentsDirectory).outcome :=
    outcome_bind_congr (differ.outcome_entries_eq root other) fun _ _ => rfl
  refine outcome_bind_congr listed fun directories shown => ?_
  refine outcome_bind_congr (outcome_mapM_congr fun name member => ?_) fun candidates _ => ?_
  · replace shown := listed.trans shown
    rw [Source.subdirectories, bind_eq_ok_iff] at shown
    obtain ⟨entries, all, found⟩ := shown
    cases found
    obtain ⟨entry, present, rfl⟩ := List.mem_map.mp member
    exact differ.outcome_directoryAgent_eq root other isTarget disabled
      (differ.isName_of_mem_entries root all (List.mem_filter.mp present).1)
  · exact outcome_bind_congr (differ.outcome_artifacts_eq root other) fun _ _ => rfl

end DifferWithin

/-- Whatever the directory of a disabled agent holds besides its order, compiling the agents of a
target has the same outcome. That the agent's name can be a name need not be said: it stands in a
path of a snapshot. -/
theorem agents_isolated {files : Entries String Octets} {first second : Snapshot}
    (bundled : Snapshot.ofFiles files = .ok first) {agent : String}
    (agree : Snapshot.AgreeOutside [agentsDirectory, agent] first second)
    (order : [agentsDirectory, agent, orderFile] ∈ Entries.keys first.files)
    (also : [agentsDirectory, agent, orderFile] ∈ Entries.keys second.files)
    (root other : FilePath) {job : Job} {agents : Job → Traced (List GeneratedFile)}
    (known : (job.target, agents) ∈ agentSteps)
    (disabled : job.config.agentSettings? agent job.target = none) :
    (agents (job.reading (first.source root))).outcome =
      (agents (job.reading (second.source other))).outcome := by
  have isName : TemplatePath.IsName agent :=
    Snapshot.isName_of_ofFiles bundled _ order agent (by simp)
  have differ : DifferWithin agent first second :=
    ⟨Snapshot.isName_of_ofFiles bundled, agree, isName, order, also⟩
  have isTarget : IsTargetName job.target := by
    simp only [agentSteps, List.mem_cons, List.not_mem_nil, or_false, Prod.mk.injEq] at known
    rcases known with ⟨same, -⟩ | ⟨same, -⟩ <;> rw [same] <;>
      exact isTargetName_name (by simp [Target.all])
  have enabled := differ.outcome_enabledAgents_eq root other isTarget disabled
  simp only [agentSteps, List.mem_cons, List.not_mem_nil, or_false, Prod.mk.injEq] at known
  rcases known with ⟨-, rfl⟩ | ⟨-, rfl⟩
  · exact outcome_bind_congr enabled fun _ _ => rfl
  · exact outcome_bind_congr enabled fun _ _ => rfl

/-- A composed agent beside another directory of agents, whose order and section are not fixed. -/
def guardedFiles (order text : String) : Entries String Octets :=
  [("agents/guard/_order.yaml", Text.Utf8.encode "sections: [\x7btool\x7d.md]"),
    ("agents/guard/cursor.md", Text.Utf8.encode "Keep watch.\n"),
    ("agents/scout/_order.yaml", Text.Utf8.encode order),
    ("agents/scout/notes.md", Text.Utf8.encode text)]

def guardedSnapshot (order text : String) : Snapshot where
  files :=
    [(["agents", "guard", "_order.yaml"], Text.Utf8.encode "sections: [\x7btool\x7d.md]"),
      (["agents", "guard", "cursor.md"], Text.Utf8.encode "Keep watch.\n"),
      (["agents", "scout", "_order.yaml"], Text.Utf8.encode order),
      (["agents", "scout", "notes.md"], Text.Utf8.encode text)]

/-- A job for which the other directory is disabled. -/
def guardJob : Job where
  target := Target.guest.name
  source := (guardedSnapshot "" "").source ⟨"/", []⟩
  config := ⟨"1", [], [("guard", [("cursor", some ⟨none, none, none, none, none, none, none, []⟩)]),
    ("scout", [("cursor", none)])], [], [], [], []⟩
  bindings := []

private theorem guardedSnapshot_agree (order text order' text' : String) :
    Snapshot.AgreeOutside [agentsDirectory, "scout"] (guardedSnapshot order text)
      (guardedSnapshot order' text') := by
  intro path outside
  have first := (outside ["_order.yaml"] (by simp)).symm
  have second := (outside ["notes.md"] (by simp)).symm
  simp only [agentsDirectory, List.cons_append, List.nil_append] at first second
  simp [guardedSnapshot, Entries.get?, first, second]

private theorem guardedSnapshot_ofFiles (order text : String) :
    Snapshot.ofFiles (guardedFiles order text) = .ok (guardedSnapshot order text) := rfl

private theorem guardedSnapshot_list (order text : String) :
    (guardedSnapshot order text).list agentsDirectory =
      .ok [⟨"guard", true⟩, ⟨"scout", true⟩] := by
  have names : (guardedSnapshot order text).names ["agents"] = ["guard", "scout"] :=
    List.mergeSort_of_pairwise (by decide : ["guard", "scout"].Pairwise _)
  have read : TemplatePath.ofText? agentsDirectory = some ["agents"] := by decide
  rw [Snapshot.list_of_ofText? read, if_pos (by rfl), Snapshot.entries, names]
  rfl

theorem guardJob_isolated :
    Snapshot.AgreeOutside [agentsDirectory, "scout"] (guardedSnapshot "sections: notes.md" "Look.")
        (guardedSnapshot "sections: [../guard/cursor.md, gone.md]" "\x7btool\x7d") ∧
      guardJob.config.agentSettings? "scout" guardJob.target = none ∧
      (Guest.agents (guardJob.reading
          ((guardedSnapshot "sections: notes.md" "Look.").source ⟨"/", []⟩))).outcome.toOption.map
        (·.map GeneratedFile.path) = some ["agents/🧠-guard.md"] ∧
      (Guest.agents (guardJob.reading
          ((guardedSnapshot "sections: notes.md" "Look.").source ⟨"/", []⟩))).outcome =
        (Guest.agents (guardJob.reading
          ((guardedSnapshot "sections: [../guard/cursor.md, gone.md]" "\x7btool\x7d").source
            ⟨"/", ["project"]⟩))).outcome := by
  have agree := guardedSnapshot_agree "sections: notes.md" "Look."
    "sections: [../guard/cursor.md, gone.md]" "\x7btool\x7d"
  have disabled : guardJob.config.agentSettings? "scout" guardJob.target = none := by
    decide +kernel
  refine ⟨agree, disabled, ?_, ?_⟩
  · rw [Snapshot.source_eq_of_list _ (guardedSnapshot_list _ _)]
    decide +kernel
  · exact agents_isolated (guardedSnapshot_ofFiles _ _) agree (by decide) (by decide) _ _
      (by simp [agentSteps, guardJob]) disabled

end EditorPlugins.Plugin
