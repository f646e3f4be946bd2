import EditorPlugins.Proofs.Outcome
import EditorPlugins.Traced

/-! # Outcomes of traced computations

The outcome of a sequence, and that of a computation over a list, do not depend on the logs that
their steps keep.
-/

namespace EditorPlugins.Traced

variable {α β : Type}

@[simp] theorem outcome_lift (outcome : Except Error α) : (lift outcome).outcome = outcome := rfl

@[simp] theorem outcome_map (f : α → β) (traced : Traced α) :
    (f <$> traced).outcome = traced.outcome.map f := by
  rw [map_eq_pure_bind, outcome_bind]
  cases traced.outcome <;> rfl

/-- A sequence has a value if its steps have one after the other. -/
theorem bind_eq_ok_iff {first : Traced α} {next : α → Traced β} {result : β} :
    (first >>= next).outcome = .ok result ↔
      ∃ value, first.outcome = .ok value ∧ (next value).outcome = .ok result := by
  rw [outcome_bind, Outcome.exceptBind_eq_ok_iff]

/-- Sequences end alike if they start alike and go on alike from the value they start with. -/
theorem outcome_bind_congr {first other : Traced α} {next also : α → Traced β}
    (start : first.outcome = other.outcome)
    (steps : ∀ value, other.outcome = .ok value → (next value).outcome = (also value).outcome) :
    (first >>= next).outcome = (other >>= also).outcome := by
  rw [outcome_bind, outcome_bind, start]
  cases ran : other.outcome with
  | error error => rfl
  | ok value => exact steps value ran

theorem outcome_mapM (f : α → Traced β) (items : List α) :
    (items.mapM f).outcome = items.mapM fun item => (f item).outcome := by
  induction items with
  | nil => rfl
  | cons item items ih =>
    simp only [List.mapM_cons, outcome_bind, outcome_pure, ih]
    rfl

theorem outcome_mapM_congr {f g : α → Traced β} {items : List α}
    (same : ∀ item ∈ items, (f item).outcome = (g item).outcome) :
    (items.mapM f).outcome = (items.mapM g).outcome := by
  rw [outcome_mapM, outcome_mapM, Outcome.mapM_congr same]

section Filter

variable {f : α → Traced Bool} {items kept : List α}

private theorem outcome_filterAuxM (items start : List α) :
    (items.filterAuxM f start).outcome = (items.filterAuxM f []).outcome.map (· ++ start) := by
  induction items generalizing start with
  | nil => rfl
  | cons item items ih =>
    simp only [List.filterAuxM, outcome_bind]
    cases (f item).outcome with
    | error error => rfl
    | ok keep =>
      simp only [Except.bind]
      rw [ih, ih (cond keep [item] [])]
      cases (items.filterAuxM f []).outcome <;> cases keep <;> simp [Except.map]

/-- A filter keeps an item in front of what it keeps of the others. -/
theorem filterM_cons_eq_ok_iff {item : α} : ((item :: items).filterM f).outcome = .ok kept ↔
    ∃ keep rest, (f item).outcome = .ok keep ∧ (items.filterM f).outcome = .ok rest ∧
      kept = if keep then item :: rest else rest := by
  simp only [List.filterM, List.filterAuxM, outcome_bind, Outcome.exceptBind_eq_ok_iff,
    outcome_pure, Except.ok.injEq]
  constructor
  · rintro ⟨last, ⟨keep, here, went⟩, rfl⟩
    rw [outcome_filterAuxM] at went
    obtain ⟨more, ran, rfl⟩ := Outcome.map_eq_ok_iff.mp went
    exact ⟨keep, more.reverse, here, ⟨more, ran, rfl⟩, by cases keep <;> simp⟩
  · rintro ⟨keep, rest, here, ⟨more, ran, rfl⟩, rfl⟩
    refine ⟨more ++ cond keep [item] [], ⟨keep, here, ?_⟩, by cases keep <;> simp⟩
    rw [outcome_filterAuxM, ran]
    rfl

/-- What a filter keeps are some of the items, in their order. -/
theorem sublist_of_filterM (ran : (items.filterM f).outcome = .ok kept) : kept.Sublist items := by
  induction items generalizing kept with
  | nil =>
    cases ran
    exact List.Sublist.refl _
  | cons item items ih =>
    obtain ⟨keep, rest, -, later, rfl⟩ := filterM_cons_eq_ok_iff.mp ran
    cases keep with
    | true => exact (ih later).cons_cons item
    | false => exact (ih later).cons item

/-- Items that are kept exactly when they have a result are kept with their results. -/
theorem exists_filterM {g : α → Except Error (Option β)} {results : List (Option β)}
    (ran : items.mapM g = .ok results)
    (each : ∀ item result, g item = .ok result → (f item).outcome = .ok result.isSome) :
    ∃ kept, (items.filterM f).outcome = .ok kept ∧
      List.Forall₂ (fun item result => g item = .ok (some result)) kept (results.filterMap id) := by
  induction items generalizing results with
  | nil =>
    cases ran
    exact ⟨[], rfl, List.Forall₂.nil⟩
  | cons item items ih =>
    obtain ⟨first, rest, here, later, rfl⟩ := Outcome.mapM_cons_eq_ok_iff.mp ran
    obtain ⟨kept, found, stands⟩ := ih later
    refine ⟨if first.isSome then item :: kept else kept,
      filterM_cons_eq_ok_iff.mpr ⟨_, kept, each item first here, found, rfl⟩, ?_⟩
    cases first with
    | none => exact stands
    | some result => exact List.Forall₂.cons here stands

end Filter

end EditorPlugins.Traced
