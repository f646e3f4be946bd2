import EditorPlugins.Proofs.Entries
import EditorPlugins.Value.Basic

/-! # Trees of values

Documents are trees whose maps have distinct texts as keys. What stands at the leaves depends on
the kind of document, so it is left open here.
-/

namespace EditorPlugins

namespace Mapping

theorem mem_ofFields {fields : List (String × Value)} {entry : Scalar × Value} :
    entry ∈ ofFields fields ↔ ∃ name, entry.1 = .text name ∧ (name, entry.2) ∈ fields := by
  rcases entry with ⟨key, value⟩
  simp only [ofFields, List.mem_map, Prod.mk.injEq, Prod.exists]
  constructor
  · rintro ⟨name, _, present, rfl, rfl⟩
    exact ⟨name, rfl, present⟩
  · rintro ⟨name, rfl, present⟩
    exact ⟨name, value, present, rfl, rfl⟩

@[simp] theorem field?_ofFields (fields : Entries String Value) (name : String) :
    field? (ofFields fields) name = Entries.get? fields name := by
  induction fields with
  | nil => rfl
  | cons field fields ih =>
    simp only [field?, ofFields, List.map_cons, Entries.get?, Scalar.text.injEq] at ih ⊢
    rw [ih]

@[simp] theorem setField_ofFields (fields : Entries String Value) (name : String) (value : Value) :
    setField (ofFields fields) name value = ofFields (Entries.set fields name value) := by
  induction fields with
  | nil => rfl
  | cons field fields ih =>
    simp only [setField, ofFields, List.map_cons, Entries.set, Scalar.text.injEq] at ih ⊢
    split
    · rfl
    · rw [ih, List.map_cons]

end Mapping

namespace Value

private theorem fitsItems_of_forall {items : List Value} (each : ∀ item ∈ items, item.fits = true) :
    fitsItems items = true := by
  induction items with
  | nil => rfl
  | cons item items ih =>
    obtain ⟨first, later⟩ := List.forall_mem_cons.mp each
    rw [fitsItems, first, ih later]
    rfl

private theorem fitsEntries_of_forall {fields : List (String × Value)}
    (each : ∀ field ∈ fields, field.2.fits = true) :
    fitsEntries (Mapping.ofFields fields) = true := by
  induction fields with
  | nil => rfl
  | cons field fields ih =>
    obtain ⟨first, later⟩ := List.forall_mem_cons.mp each
    simp only [Mapping.ofFields, List.map_cons, fitsEntries, first, Bool.and_true, Bool.true_and]
    exact ih later

/-- A tree of lists and maps: its leaves satisfy a condition, the keys of its maps are distinct
texts. -/
inductive IsTree (leaf : Scalar → Prop) : Value → Prop where
  | scalar {value : Scalar} (accepted : leaf value) : IsTree leaf (.scalar value)
  | list {items : List Value} (each : ∀ item ∈ items, IsTree leaf item) : IsTree leaf (.list items)
  | map {fields : Entries String Value} (distinct : (Entries.keys fields).Nodup)
      (each : ∀ field ∈ fields, IsTree leaf field.2) : IsTree leaf (.map (Mapping.ofFields fields))

namespace IsTree

variable {leaf : Scalar → Prop}

theorem scalar_iff {value : Scalar} : IsTree leaf (.scalar value) ↔ leaf value :=
  ⟨fun tree => by cases tree; assumption, .scalar⟩

/-- A tree whose leaves satisfy more than is asked for. -/
theorem imp {other : Scalar → Prop} {value : Value} (each : ∀ value, leaf value → other value)
    (tree : IsTree leaf value) : IsTree other value := by
  induction tree with
  | scalar accepted => exact .scalar (each _ accepted)
  | list _ ih => exact .list ih
  | map distinct _ ih => exact .map distinct ih

theorem empty_map : IsTree leaf (.map []) :=
  @map leaf [] List.nodup_nil fun _ absent => absurd absent List.not_mem_nil

theorem list_iff {items : List Value} :
    IsTree leaf (.list items) ↔ ∀ item ∈ items, IsTree leaf item :=
  ⟨fun tree => by cases tree; assumption, .list⟩

theorem map_iff {entries : Mapping} :
    IsTree leaf (.map entries) ↔ ∃ fields, entries = Mapping.ofFields fields ∧
      (Entries.keys fields).Nodup ∧ ∀ field ∈ fields, IsTree leaf field.2 := by
  constructor
  · intro tree
    cases tree with
    | map distinct each => exact ⟨_, rfl, distinct, each⟩
  · rintro ⟨fields, rfl, distinct, each⟩
    exact .map distinct each

theorem map_ofFields_iff {fields : Entries String Value} :
    IsTree leaf (.map (Mapping.ofFields fields)) ↔
      (Entries.keys fields).Nodup ∧ ∀ field ∈ fields, IsTree leaf field.2 := by
  constructor
  · intro tree
    obtain ⟨others, same, distinct, each⟩ := map_iff.mp tree
    have equal : fields = others := (List.map_inj_right (by simp)).mp same
    exact equal ▸ ⟨distinct, each⟩
  · rintro ⟨distinct, each⟩
    exact .map distinct each

/-- In a tree of scalars with short numbers, all numbers are short. -/
theorem fits {value : Value} (each : ∀ value, leaf value → (Value.scalar value).fits = true)
    (tree : IsTree leaf value) : value.fits = true := by
  induction tree with
  | scalar accepted => exact each _ accepted
  | list _ ih => exact fitsItems_of_forall ih
  | map _ _ ih => exact fitsEntries_of_forall ih

/-- The values of a map in a tree are trees. -/
theorem of_mem {entries : Mapping} (tree : IsTree leaf (.map entries)) {entry : Scalar × Value}
    (member : entry ∈ entries) : IsTree leaf entry.2 := by
  obtain ⟨fields, rfl, -, each⟩ := map_iff.mp tree
  obtain ⟨name, -, present⟩ := Mapping.mem_ofFields.mp member
  exact each _ present

/-- Setting a field to a tree keeps a map a tree. -/
theorem setField {entries : Mapping} (tree : IsTree leaf (.map entries)) (name : String)
    {value : Value} (set : IsTree leaf value) :
    IsTree leaf (.map (Mapping.setField entries name value)) := by
  obtain ⟨fields, rfl, distinct, each⟩ := map_iff.mp tree
  rw [Mapping.setField_ofFields]
  refine .map (Entries.nodup_keys_set distinct name value) fun field member => ?_
  rcases Entries.mem_set member with old | rfl
  · exact each field old
  · exact set

end IsTree

end Value

end EditorPlugins
