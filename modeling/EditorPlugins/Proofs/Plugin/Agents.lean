import EditorPlugins.Plugin.Job
import EditorPlugins.Proofs.Traced

/-! # What agents are made of

A composable directory is a candidate, and an agent if the configuration enables it; a single file
is an agent if it is enabled too and no candidate has its name.
-/

namespace EditorPlugins.Plugin.Job

open Compose Template Traced

/-- The same job, reading from another source. -/
def reading (job : Job) (source : Source) : Job := { job with source := source }

variable (job : Job)

private theorem outcome_enabledSettings? (name : String) :
    (job.enabledSettings? name).outcome = .ok (job.config.agentSettings? name job.target) := by
  unfold enabledSettings?
  split
  · next settings found => rw [found]; rfl
  · next found => rw [found]; rfl

/-- What a directory with an order adds: a candidate of its name, composed if it is enabled. -/
theorem directoryAgent_eq_ok_iff {directory : String} {candidate : Option Candidate} :
    (job.directoryAgent directory).outcome = .ok candidate ↔
      ∃ composable, isComposable job.source (joinPath agentsDirectory directory) = .ok composable ∧
        if composable = true then
          match job.config.agentSettings? directory job.target with
          | none => candidate = some ⟨directory, none⟩
          | some settings => ∃ body,
            (job.compose (joinPath agentsDirectory directory)).outcome = .ok body ∧
              candidate = some ⟨directory, some ⟨directory, settings, body, true⟩⟩
        else candidate = none := by
  rw [directoryAgent, bind_eq_ok_iff]
  refine exists_congr fun composable => and_congr_right fun _ => ?_
  cases composable with
  | false =>
    simp only [Bool.not_false, if_true, outcome_pure, Except.ok.injEq, Bool.false_eq_true, if_false]
    exact eq_comm
  | true =>
    simp only [Bool.not_true, Bool.false_eq_true, if_false, if_true, outcome_bind,
      outcome_enabledSettings?, Except.bind]
    cases job.config.agentSettings? directory job.target with
    | none =>
      simp only [outcome_pure, Except.ok.injEq]
      exact eq_comm
    | some settings =>
      simp only [bind_eq_ok_iff, outcome_pure, Except.ok.injEq]
      exact exists_congr fun body => and_congr_right fun _ => eq_comm

/-- A directory is composable exactly if it adds a candidate. -/
theorem isComposable_eq_ok {directory : String} {candidate : Option Candidate}
    (ran : (job.directoryAgent directory).outcome = .ok candidate) :
    isComposable job.source (joinPath agentsDirectory directory) = .ok candidate.isSome := by
  obtain ⟨composable, asked, added⟩ := job.directoryAgent_eq_ok_iff.mp ran
  rw [asked]
  cases composable with
  | false => rw [added]; rfl
  | true =>
    simp only [if_true] at added
    split at added
    · rw [added]; rfl
    · obtain ⟨body, -, same⟩ := added
      rw [same]; rfl

/-- A directory adds the same from two sources that tell the same about it. -/
theorem outcome_directoryAgent_congr {first second : Source} {directory : String}
    (composable : isComposable first (joinPath agentsDirectory directory) =
      isComposable second (joinPath agentsDirectory directory))
    (composed : ((job.reading first).compose (joinPath agentsDirectory directory)).outcome =
      ((job.reading second).compose (joinPath agentsDirectory directory)).outcome) :
    ((job.reading first).directoryAgent directory).outcome =
      ((job.reading second).directoryAgent directory).outcome := by
  refine outcome_bind_congr (congrArg (fun asked => (lift asked).outcome) composable) ?_
  intro composable _
  cases composable with
  | false => rfl
  | true =>
    refine outcome_bind_congr rfl fun settings _ => ?_
    cases settings with
    | none => rfl
    | some settings => exact outcome_bind_congr composed fun _ _ => rfl

/-- A candidate has the name of its directory. -/
theorem name_of_directoryAgent {directory : String} {candidate : Candidate}
    (ran : (job.directoryAgent directory).outcome = .ok (some candidate)) :
    candidate.name = directory := by
  obtain ⟨composable, -, added⟩ := job.directoryAgent_eq_ok_iff.mp ran
  split at added
  · split at added
    · rw [Option.some.inj added]
    · obtain ⟨body, -, same⟩ := added
      rw [Option.some.inj same]
  · cases added

/-- The names that candidates hide. -/
def names (candidates : List (Option Candidate)) : List String :=
  (candidates.filterMap id).map Candidate.name

theorem mem_names_iff {candidates : List (Option Candidate)} {name : String} :
    name ∈ names candidates ↔
      ∃ candidate, some candidate ∈ candidates ∧ candidate.name = name := by
  simp [names, List.mem_filterMap]

/-- What a single file adds. -/
theorem outcome_fileAgent (hidden : List String) (artifact : Artifact) :
    (job.fileAgent hidden artifact).outcome =
      .ok (if artifact.name ∈ hidden then none
        else (job.config.agentSettings? artifact.name job.target).map fun settings =>
          ⟨artifact.name, settings, artifact.body, false⟩) := by
  unfold fileAgent
  by_cases among : artifact.name ∈ hidden
  · rw [if_pos (by simpa using among), if_pos among]
    rfl
  · simp only [List.contains_eq_mem, among, decide_false, Bool.false_eq_true, if_false,
      outcome_bind, outcome_enabledSettings?, Except.bind]
    cases job.config.agentSettings? artifact.name job.target <;> rfl

end EditorPlugins.Plugin.Job
