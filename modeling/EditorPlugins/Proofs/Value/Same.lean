import EditorPlugins.Proofs.Value.Alike
import EditorPlugins.Proofs.Value.Keys
import EditorPlugins.Proofs.Value.Tree
import Mathlib.Data.List.Perm.Subperm

/-! # Comparing values by meaning

Scalars that are neither numbers nor dates mean the same only if they are equal. Trees with such
leaves mean the same exactly if they are alike up to the order of keys. Maps are compared by their
sizes and one way only, so the other way is a matter of counting: keys are distinct, and as many are
found as there are.
-/

namespace EditorPlugins

open Entries

/-- A scalar that is neither a number nor a date, and means the same as itself alone. -/
structure Scalar.IsSingular (x : Scalar) : Prop where
  noNumber : x.number? = none
  noDate : ∀ date, x ≠ .date date

theorem Scalar.IsSingular.same_iff {x y : Scalar} (singular : x.IsSingular) :
    x.same y = true ↔ x = y := by
  simp only [Scalar.same, singular.noNumber]
  cases other : y.number? with
  | some n =>
    refine iff_of_false Bool.false_ne_true ?_
    rintro rfl
    cases singular.noNumber.symm.trans other
  | none =>
    simp only
    split
    · next date _ => exact absurd rfl (singular.noDate date)
    · exact decide_eq_true_iff

namespace Mapping

variable {fields others : Entries String Value}

theorem length_ofFields : (ofFields fields).length = fields.length := List.length_map _

theorem keys_ofFields : keys (ofFields fields) = (keys fields).map .text := by
  simp [ofFields, keys, Function.comp_def]

private theorem text_mem_keys_ofFields {name : String} :
    .text name ∈ keys (ofFields fields) ↔ name ∈ keys fields := by
  rw [keys_ofFields]
  exact List.mem_map_of_injective fun _ _ same => Scalar.text.inj same

/-- Maps with fields are alike if they have the same names, with alike values. -/
theorem alike_ofFields_iff : Value.Alike (.map (ofFields fields)) (.map (ofFields others)) ↔
    (∀ name, name ∈ keys fields ↔ name ∈ keys others) ∧
      ∀ name value other, get? fields name = some value → get? others name = some other →
        Value.Alike value other := by
  simp only [← field?_ofFields]
  constructor
  · rintro (_ | _ | ⟨sameKeys, values⟩)
    refine ⟨fun name => ?_, fun name => values (.text name)⟩
    rw [← text_mem_keys_ofFields, sameKeys, text_mem_keys_ofFields]
  · rintro ⟨sameNames, values⟩
    refine .map (fun key => ?_) fun key value other found also => ?_
    · simp only [keys_ofFields, List.mem_map, sameNames]
    · have member := (get?_isSome_iff _ _).mp (Option.isSome_of_eq_some found)
      rw [keys_ofFields] at member
      obtain ⟨name, -, rfl⟩ := List.mem_map.mp member
      exact values name value other found also

end Mapping

namespace Value

theorem sameEntries_ofFields_iff {fields others : Entries String Value} :
    sameEntries (Mapping.ofFields fields) (Mapping.ofFields others) = true ↔
      ∀ field ∈ fields, ∃ other, get? others field.1 = some other ∧
        same field.2 other = true := by
  induction fields with
  | nil => simp [Mapping.ofFields, sameEntries]
  | cons field fields ih =>
    have first : Mapping.ofFields (field :: fields) =
        (.text field.1, field.2) :: Mapping.ofFields fields := rfl
    rw [first, sameEntries, Bool.and_eq_true, ih, List.forall_mem_cons, Mapping.lookup?_text,
      Mapping.field?_ofFields]
    refine and_congr_left' ?_
    cases get? others field.1 <;> simp

private theorem sameItems_iff {items others : List Value}
    (each : ∀ item ∈ items, ∀ other ∈ others, same item other = true ↔ Alike item other) :
    sameItems items others = true ↔ List.Forall₂ Alike items others := by
  induction items generalizing others with
  | nil => cases others <;> simp [sameItems]
  | cons item items ih =>
    cases others with
    | nil => simp [sameItems]
    | cons other others =>
      have later := ih fun item member other also =>
        each item (List.mem_cons_of_mem _ member) other (List.mem_cons_of_mem _ also)
      rw [sameItems, Bool.and_eq_true, List.forall₂_cons, later,
        each item List.mem_cons_self other List.mem_cons_self]

/-- Of two maps of the same size, all names of the one being among those of the other. -/
private theorem names_iff {fields others : Entries String Value} (distinct : (keys fields).Nodup)
    (size : fields.length = others.length) (found : ∀ name ∈ keys fields, name ∈ keys others)
    (name : String) : name ∈ keys fields ↔ name ∈ keys others := by
  have within : List.Subperm (keys fields) (keys others) := distinct.subperm found
  have counted : (keys others).length ≤ (keys fields).length := by simp [keys, size]
  exact (within.perm_of_length_le counted).mem_iff

private theorem sameMaps_iff {fields others : Entries String Value}
    (distinct : (keys fields).Nodup) (distinctOthers : (keys others).Nodup)
    (each : ∀ field ∈ fields, ∀ other ∈ others,
      same field.2 other.2 = true ↔ Alike field.2 other.2) :
    same (.map (Mapping.ofFields fields)) (.map (Mapping.ofFields others)) = true ↔
      Alike (.map (Mapping.ofFields fields)) (.map (Mapping.ofFields others)) := by
  rw [same, Bool.and_eq_true, sameEntries_ofFields_iff, Mapping.alike_ofFields_iff,
    Mapping.length_ofFields, Mapping.length_ofFields, decide_eq_true_eq]
  constructor
  · rintro ⟨size, found⟩
    refine ⟨names_iff distinct size fun name member => ?_, fun name value other here there => ?_⟩
    · obtain ⟨field, present, rfl⟩ := List.mem_map.mp member
      obtain ⟨other, there, -⟩ := found field present
      exact (get?_isSome_iff _ _).mp (Option.isSome_of_eq_some there)
    · have present := mem_of_get? here
      obtain ⟨same, also, equal⟩ := found _ present
      cases there.symm.trans also
      exact (each _ present _ (mem_of_get? there)).mp equal
  · rintro ⟨names, values⟩
    have size := ((List.perm_ext_iff_of_nodup distinct distinctOthers).mpr names).length_eq
    refine ⟨by simpa [keys] using size, fun field present => ?_⟩
    have member := (names field.1).mp (List.mem_map_of_mem present)
    obtain ⟨other, there⟩ := Option.isSome_iff_exists.mp ((get?_isSome_iff _ _).mpr member)
    have alike := values _ _ _ (get?_of_mem distinct present) there
    exact ⟨other, there, (each _ present _ (mem_of_get? there)).mpr alike⟩

/-- Trees without numbers and dates are the same exactly if they are alike. -/
theorem same_iff_alike {value other : Value} (tree : IsTree Scalar.IsSingular value)
    (otherTree : IsTree Scalar.IsSingular other) : same value other = true ↔ Alike value other := by
  induction tree generalizing other with
  | scalar accepted =>
    cases otherTree with
    | scalar also =>
      rw [same, accepted.same_iff]
      exact ⟨fun equal => equal ▸ .scalar _, fun alike => by cases alike; rfl⟩
    | list | map => exact iff_of_false (by simp [same]) nofun
  | @list items each ih =>
    cases otherTree with
    | list eachOther =>
      rw [same, sameItems_iff fun item member other also => ih item member (eachOther other also)]
      exact ⟨.list, fun alike => by cases alike; assumption⟩
    | scalar | map => exact iff_of_false (by simp [same]) nofun
  | map distinct each ih =>
    cases otherTree with
    | map distinctOther eachOther =>
      exact sameMaps_iff distinct distinctOther fun field present other also =>
        ih field present (eachOther other also)
    | scalar | list => exact iff_of_false (by simp [same]) nofun

/-- The order of keys does not matter, that of items does. -/
example : same (.map [(.text "a", .null), (.text "b", .text "x")])
      (.map [(.text "b", .text "x"), (.text "a", .null)]) = true ∧
    same (.list [.null, .text "x"]) (.list [.text "x", .null]) = false := by decide

end Value

end EditorPlugins
