import EditorPlugins.Proofs.Entries
import EditorPlugins.Value.Basic
import Mathlib.Data.List.Forall2

/-! # Values without the order of their keys

Two documents may say the same and differ in the order of their keys. Nothing else is passed over:
scalars are the same scalars, lists have alike items one by one, and maps have the same keys with
alike values, at any depth.
-/

namespace EditorPlugins.Value

open Entries

/-- Equality of values up to the order of the keys of maps, at any depth. -/
inductive Alike : Value → Value → Prop where
  | scalar (value : Scalar) : Alike (.scalar value) (.scalar value)
  | list {items others : List Value} (each : List.Forall₂ Alike items others) :
      Alike (.list items) (.list others)
  | map {entries others : Mapping} (keys : ∀ key, key ∈ keys entries ↔ key ∈ keys others)
      (values : ∀ key value other, get? entries key = some value → get? others key = some other →
        Alike value other) : Alike (.map entries) (.map others)

namespace Alike

theorem refl : ∀ value : Value, Alike value value
  | .scalar value => .scalar value
  | .list items => .list (List.forall₂_same.mpr fun item _ => refl item)
  | .map entries => .map (fun _ => Iff.rfl) fun key value other found also => by
    cases found.symm.trans also
    have inside : sizeOf value < sizeOf entries := by
      have member := List.sizeOf_lt_of_mem (mem_of_get? found)
      simp only [Prod.mk.sizeOf_spec] at member
      omega
    exact refl value

theorem rel_refl (found : Option Value) : Option.Rel Alike found found := by
  cases found with
  | none => exact .none
  | some value => exact .some (refl value)

/-- Maps in which every key is found with alike values are alike. -/
theorem map_of_rel {entries others : Mapping}
    (each : ∀ key, Option.Rel Alike (get? entries key) (get? others key)) :
    Alike (.map entries) (.map others) := by
  refine .map (fun key => ?_) fun key value other found also => ?_
  · have both := each key
    rw [← get?_isSome_iff, ← get?_isSome_iff]
    generalize get? entries key = here, get? others key = there at both
    cases both <;> rfl
  · have both := each key
    rw [found, also] at both
    cases both with
    | some alike => exact alike

/-- Maps in which every key is found with the same value are alike. -/
theorem map_of_get? {entries others : Mapping}
    (same : ∀ key, get? entries key = get? others key) : Alike (.map entries) (.map others) := by
  refine map_of_rel fun key => ?_
  rw [same key]
  exact rel_refl _

end Alike

end EditorPlugins.Value
