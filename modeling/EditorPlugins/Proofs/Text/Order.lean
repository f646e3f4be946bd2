import EditorPlugins.Text.Basic
import Mathlib.Data.List.Perm.Basic

/-! # Sorting by name

Listings and reports are sorted by the names of what they show.
-/

namespace EditorPlugins.Text

/-- Sorting by name puts the items into the order of their names. -/
theorem pairwise_mergeSort_by {Item : Type} (name : Item → String) (items : List Item) :
    (items.mergeSort fun a b => decide (name a ≤ name b)).Pairwise fun a b => name a ≤ name b := by
  have transitive : ∀ a b c : Item, decide (name a ≤ name b) = true →
      decide (name b ≤ name c) = true → decide (name a ≤ name c) = true := by
    simpa only [decide_eq_true_eq] using fun a b c => String.le_trans
  have total : ∀ a b : Item, (decide (name a ≤ name b) || decide (name b ≤ name a)) = true := by
    simpa only [Bool.or_eq_true, decide_eq_true_eq] using fun a b => String.le_total _ _
  simpa only [decide_eq_true_eq] using List.pairwise_mergeSort transitive total items

theorem pairwise_mergeSort_names (names : List String) :
    (names.mergeSort fun a b => decide (a ≤ b)).Pairwise (· ≤ ·) :=
  pairwise_mergeSort_by id names

/-- Names that are sorted and not repeated are determined by which names they are. -/
theorem eq_of_sorted {first second : List String} (sorted : first.Pairwise (· ≤ ·))
    (also : second.Pairwise (· ≤ ·)) (distinct : first.Nodup) (distinctAlso : second.Nodup)
    (same : ∀ name, name ∈ first ↔ name ∈ second) : first = second :=
  List.Perm.eq_of_pairwise (fun _ _ _ _ => String.le_antisymm) sorted also
    ((List.perm_ext_iff_of_nodup distinct distinctAlso).mpr same)

end EditorPlugins.Text
