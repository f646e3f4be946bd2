import EditorPlugins.Proofs.Outcome
import EditorPlugins.Proofs.Traced

/-! # Computations that follow others

A computation follows another one when it has its value whenever that one has one; what either of
them logs does not matter, nor which errors the other one fails with. Steps that follow each other
make computations that do. A run over a list is also followed by a run over some of its items, if
the others add nothing to the result.
-/

namespace EditorPlugins

namespace Outcome

variable {ε α β γ : Type}

/-- Items that add nothing may be left out of a run. -/
theorem exists_mapM_filter {f g : α → Except ε β} {collapse : β → List γ} {keep : α → Bool}
    {items : List α} {results : List β} (ran : items.mapM f = .ok results)
    (kept : ∀ item ∈ items, keep item = true → ∀ result, f item = .ok result →
      ∃ other, g item = .ok other ∧ collapse other = collapse result)
    (bare : ∀ item ∈ items, keep item = false → ∀ result, f item = .ok result →
      collapse result = []) :
    ∃ others, (items.filter keep).mapM g = .ok others ∧
      others.flatMap collapse = results.flatMap collapse := by
  induction items generalizing results with
  | nil =>
    cases ran
    exact ⟨[], rfl, rfl⟩
  | cons item items ih =>
    obtain ⟨first, rest, here, later, rfl⟩ := mapM_cons_eq_ok_iff.mp ran
    obtain ⟨keptFirst, keptRest⟩ := List.forall_mem_cons.mp kept
    obtain ⟨bareFirst, bareRest⟩ := List.forall_mem_cons.mp bare
    obtain ⟨others, found, same⟩ := ih later keptRest bareRest
    cases kind : keep item with
    | true =>
      obtain ⟨other, also, equal⟩ := keptFirst kind first here
      refine ⟨other :: others, ?_, by simp [equal, same]⟩
      rw [List.filter_cons_of_pos kind]
      exact mapM_cons_eq_ok_iff.mpr ⟨other, others, also, found, rfl⟩
    | false =>
      refine ⟨others, ?_, by simp [bareFirst kind first here, same]⟩
      rwa [List.filter_cons_of_neg (by simp [kind])]

end Outcome

namespace Traced

variable {α β : Type}

/-- A computation has the value of another one whenever that one has a value. -/
def Follows (later first : Traced α) : Prop :=
  ∀ value, first.outcome = .ok value → later.outcome = .ok value

theorem Follows.refl (traced : Traced α) : Follows traced traced := fun _ ran => ran

theorem Follows.lift {later first : Except Error α}
    (follows : ∀ value, first = .ok value → later = .ok value) :
    Follows (lift later) (lift first) := follows

theorem Follows.bind {later first : Traced α} {next former : α → Traced β}
    (start : Follows later first) (steps : ∀ value, Follows (next value) (former value)) :
    Follows (later >>= next) (first >>= former) := by
  intro result ran
  rw [bind_eq_ok_iff] at ran ⊢
  obtain ⟨value, began, went⟩ := ran
  exact ⟨value, start value began, steps value result went⟩

theorem Follows.mapM {next former : α → Traced β}
    (steps : ∀ item, Follows (next item) (former item)) (items : List α) :
    Follows (items.mapM next) (items.mapM former) := by
  induction items with
  | nil => exact Follows.refl _
  | cons item items ih =>
    rw [List.mapM_cons, List.mapM_cons]
    exact (steps item).bind fun _ => ih.bind fun _ => Follows.refl _

end Traced

end EditorPlugins
