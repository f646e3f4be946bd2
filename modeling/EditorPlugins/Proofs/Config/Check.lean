import EditorPlugins.Config.Check
import EditorPlugins.Proofs.Entries
import EditorPlugins.Proofs.Outcome

/-! # Checks that accept

A check of many values accepts exactly when it accepts each of them. So a list of texts is a list of
texts, a map with text keys is a map from texts to anything, and what is accepted as a map is one.
-/

namespace EditorPlugins.Config

namespace Checked

variable {α β : Type}

@[simp] theorem under_eq_ok_iff {step : Step} {checked : Checked α} {value : α} :
    checked.under step = .ok value ↔ checked = .ok value := by
  cases checked <;> simp [under]

@[simp] theorem both_eq_ok_iff {first : Checked α} {second : Checked β} {values : α × β} :
    first.both second = .ok values ↔ first = .ok values.1 ∧ second = .ok values.2 := by
  cases first <;> cases second <;> simp [both, Prod.ext_iff]

private theorem exists_ok_of_all {outcomes : List (Checked α)} {values : List α}
    (checked : all outcomes = .ok values) : ∀ outcome ∈ outcomes, ∃ value, outcome = .ok value := by
  induction outcomes generalizing values with
  | nil => simp
  | cons outcome outcomes ih =>
    simp only [all, Outcome.map_eq_ok_iff, both_eq_ok_iff] at checked
    obtain ⟨⟨value, rest⟩, ⟨first, later⟩, -⟩ := checked
    exact List.forall_mem_cons.mpr ⟨⟨value, first⟩, ih later⟩

end Checked

private theorem Checked.all_ok {α : Type} (values : List α) :
    Checked.all (values.map Except.ok) = .ok values := by
  induction values with
  | nil => rfl
  | cons value values ih => rw [List.map_cons, Checked.all, ih]; rfl

theorem checkTexts_texts (texts : List String) :
    checkTexts (Value.texts texts) = .ok texts := by
  rw [Value.texts, checkTexts, ← Checked.all_ok texts]
  congr 1
  apply List.ext_getElem
  · simp
  · intro n _ _
    simp only [List.getElem_map, List.getElem_zipIdx]
    rfl

theorem checkAnyMap_ofFields (fields : Entries String Value) :
    checkAnyMap (.map (Mapping.ofFields fields)) = .ok (Entries.ofPairs fields) := by
  have accepted : (Mapping.ofFields fields).map (fun entry =>
      (checkKey entry.1).both (Checked.under (keyStep entry.1) (.ok entry.2))) =
        fields.map Except.ok := by
    rw [Mapping.ofFields, List.map_map]
    rfl
  change (Checked.all _).map _ = _
  rw [accepted, Checked.all_ok]
  rfl

/-- What is accepted as a map is one, and each of its values is accepted. -/
theorem exists_map_of_checkMap {α : Type} {check : Value → Checked α} {value : Value}
    {result : Entries String α} (checked : checkMap check value = .ok result) :
    ∃ entries, value = .map entries ∧ ∀ entry ∈ entries, ∃ item, check entry.2 = .ok item := by
  unfold checkMap at checked
  split at checked
  · next entries =>
    simp only [Outcome.map_eq_ok_iff] at checked
    obtain ⟨pairs, checked, -⟩ := checked
    refine ⟨entries, rfl, fun entry member => ?_⟩
    obtain ⟨pair, accepted⟩ := Checked.exists_ok_of_all checked _ (List.mem_map_of_mem member)
    exact ⟨_, Checked.under_eq_ok_iff.mp (Checked.both_eq_ok_iff.mp accepted).2⟩
  · cases checked

/-- A field that is given is checked. -/
theorem exists_ok_of_fieldOr {α : Type} {entries : Mapping} {name : String} {otherwise result : α}
    {check : Value → Checked α} (checked : fieldOr entries [name] otherwise check = .ok result)
    {value : Value} (given : Mapping.field? entries name = some value) :
    ∃ item, check value = .ok item := by
  have found : firstField? entries [name] = some (name, value) := by simp [firstField?, given]
  rw [fieldOr, found] at checked
  exact ⟨result, Checked.under_eq_ok_iff.mp checked⟩

end EditorPlugins.Config
