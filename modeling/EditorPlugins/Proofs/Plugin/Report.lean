import EditorPlugins.Proofs.Plugin.Catalogue
import EditorPlugins.Proofs.Text.Order

/-! # What the report tells is what is compiled

The report goes through the catalogue of agents without composing any of them, and says for each how
it is configured. The agents that compiling for a target finds are those that the report calls
configured for it, and the report names every agent once.
-/

namespace EditorPlugins

namespace Config.TargetConfig

/-- An agent is configured for a target when it has settings for it. -/
theorem agentStatus_eq_configured_iff {config : TargetConfig} {name target : String} :
    config.agentStatus name target = .configured ↔
      (config.agentSettings? name target).isSome = true := by
  unfold agentStatus agentSettings?
  split <;> next found => simp [found]

end Config.TargetConfig

namespace Plugin

open Config Template Traced

/-- Whether a row says that its agent is configured for a target. -/
def ReportRow.isConfiguredFor (row : ReportRow) (target : String) : Bool :=
  Entries.get? row.statuses target = some .configured

def ReportRow.agent (row : ReportRow) : String × Bool := (row.name, row.composable)

namespace Compiler

def job (compiler : Compiler) (target : String) : Job :=
  ⟨target, compiler.source, compiler.config, compiler.bindings⟩

variable {compiler : Compiler} {target : String}

private theorem get?_statuses (known : target ∈ compiler.known) (agent : String × Bool) :
    Entries.get? (compiler.reportRow agent).statuses target =
      some (compiler.config.agentStatus agent.1 target) := by
  have each (targets : List String) (member : target ∈ targets) :
      Entries.get? (targets.map fun name => (name, compiler.config.agentStatus agent.1 name))
        target = some (compiler.config.agentStatus agent.1 target) := by
    induction targets with
    | nil => cases member
    | cons name targets ih =>
      by_cases same : name = target
      · simp [Entries.get?, same]
      · simpa [Entries.get?, same] using ih (List.mem_of_ne_of_mem (Ne.symm same) member)
  exact each compiler.known known

private theorem isConfiguredFor_reportRow (known : target ∈ compiler.known)
    (agent : String × Bool) :
    (compiler.reportRow agent).isConfiguredFor target =
      (compiler.config.agentSettings? agent.1 target).isSome := by
  rw [ReportRow.isConfiguredFor, get?_statuses known, Bool.eq_iff_iff, decide_eq_true_iff,
    Option.some.injEq, TargetConfig.agentStatus_eq_configured_iff]

/-- The rows of the report are the catalogue of agents, sorted by name. -/
theorem outcome_report {names : Entries String Bool}
    (listed : (catalogue compiler.source agentsDirectory).outcome = .ok names) :
    compiler.report.outcome =
      .ok ((names.mergeSort fun a b => decide (a.1 ≤ b.1)).map compiler.reportRow) := by
  rw [report, outcome_bind, agentNames_eq, listed]
  rfl

/-- Names that differ are sorted into strictly ascending order. -/
theorem pairwise_report (compiler : Compiler) {names : Entries String Bool}
    (distinct : (Entries.keys names).Nodup) :
    (((names.mergeSort fun a b => decide (a.1 ≤ b.1)).map compiler.reportRow).map
      ReportRow.name).Pairwise (· < ·) := by
  have ascending := Text.pairwise_mergeSort_by Prod.fst names
  have different : ((names.mergeSort fun a b => decide (a.1 ≤ b.1)).map Prod.fst).Nodup :=
    ((List.mergeSort_perm _ _).map Prod.fst).nodup_iff.mpr distinct
  rw [List.map_map, List.pairwise_map]
  refine ascending.imp₂ (fun first second atMost other => ?_) (List.pairwise_map.mp different)
  exact String.not_le.mp fun atLeast => other (String.le_antisymm atMost atLeast)

/-- The agents that are enabled for a known target are exactly those that the report calls
configured for it. Neither of the two has a name twice, and the report is in the order of names. -/
theorem report_tells (templates : compiler.source.IsTemplates) (known : target ∈ compiler.known)
    {enabled : List EnabledAgent}
    (ran : (compiler.job target).enabledAgents.outcome = .ok enabled) :
    ∃ rows, compiler.report.outcome = .ok rows ∧
      (enabled.map EnabledAgent.agent).Perm
        ((rows.filter fun row => row.isConfiguredFor target).map ReportRow.agent) ∧
      (enabled.map EnabledAgent.name).Nodup ∧ (rows.map ReportRow.name).Nodup ∧
      (rows.map ReportRow.name).Pairwise (· < ·) := by
  obtain ⟨names, listed, same⟩ := catalogue_of_enabledAgents ran
  have distinct := nodup_catalogue templates.isOrderly listed
  have ascending := pairwise_report compiler distinct
  refine ⟨_, outcome_report listed, ?_, nodup_enabledAgents templates.isOrderly ran,
    ascending.imp String.ne_of_lt, ascending⟩
  have rows (agents : Entries String Bool) : ((agents.map compiler.reportRow).filter fun row =>
      row.isConfiguredFor target).map ReportRow.agent =
        agents.filter fun agent => (compiler.config.agentSettings? agent.1 target).isSome := by
    rw [List.filter_map, List.map_map]
    simp only [Function.comp_def, isConfiguredFor_reportRow known]
    exact List.map_id _
  rw [rows]
  exact same ▸ ((List.mergeSort_perm _ _).filter _).symm

/-- An agent that is composed, and one in a single file. -/
def rosterFiles : Entries String Octets :=
  [("agents/guard/_order.yaml", Text.Utf8.encode "sections: watch.md"),
    ("agents/guard/watch.md", Text.Utf8.encode "Keep watch.\n"),
    ("agents/scout.md", Text.Utf8.encode "Look around.\n")]

def rosterSnapshot : Snapshot where
  files :=
    [(["agents", "guard", "_order.yaml"], Text.Utf8.encode "sections: watch.md"),
      (["agents", "guard", "watch.md"], Text.Utf8.encode "Keep watch.\n"),
      (["agents", "scout.md"], Text.Utf8.encode "Look around.\n")]

/-- A compiler for which the single file is disabled. -/
def rosterCompiler : Compiler where
  source := rosterSnapshot.source ⟨"/", []⟩
  config := ⟨"1", [], [("guard", [("cursor", some ⟨none, none, none, none, none, none, none, []⟩)]),
    ("scout", [("cursor", none)])], [], [], [], []⟩
  bindings := []
  targets := Target.all

theorem rosterSnapshot_list :
    rosterSnapshot.list agentsDirectory = .ok [⟨"guard", true⟩, ⟨"scout.md", false⟩] := by
  have names : rosterSnapshot.names ["agents"] = ["guard", "scout.md"] :=
    List.mergeSort_of_pairwise (by decide)
  have read : TemplatePath.ofText? agentsDirectory = some ["agents"] := by decide
  rw [Snapshot.list_of_ofText? read, if_pos (by decide), Snapshot.entries, names]
  rfl

theorem rosterCompiler_report : ∃ enabled,
    (rosterCompiler.job "cursor").enabledAgents.outcome = .ok enabled ∧
      enabled.map EnabledAgent.agent = [("guard", true)] ∧
      ∃ rows, rosterCompiler.report.outcome = .ok rows ∧
        (enabled.map EnabledAgent.agent).Perm
          ((rows.filter fun row => row.isConfiguredFor "cursor").map ReportRow.agent) ∧
        (enabled.map EnabledAgent.name).Nodup ∧ (rows.map ReportRow.name).Nodup ∧
        (rows.map ReportRow.name).Pairwise (· < ·) := by
  have agents : ((rosterCompiler.job "cursor").enabledAgents.outcome.toOption.map
      (·.map EnabledAgent.agent)) = some [("guard", true)] := by
    rw [rosterCompiler, job, Snapshot.source_eq_of_list _ rosterSnapshot_list]
    decide +kernel
  have bundled : Snapshot.ofFiles rosterFiles = .ok rosterSnapshot := rfl
  obtain ⟨enabled, ran, found⟩ := Outcome.exists_of_toOption agents
  exact ⟨enabled, ran, found, report_tells (.snapshot bundled _) (by decide) ran⟩

end Compiler

end Plugin

end EditorPlugins
