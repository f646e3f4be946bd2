import EditorPlugins.Proofs.Entries
import EditorPlugins.Value.Basic

/-! # Text keys

Keys of different kinds may mean the same, as numbers do. A text means the same as no other key, so
for text keys the comparison by meaning is equality, and lists of them are rid of repetitions as
lists of texts are.
-/

namespace EditorPlugins

@[simp] theorem Scalar.same_text (x : Scalar) (name : String) :
    x.same (.text name) = decide (x = .text name) := by
  cases x <;> simp [Scalar.same, Scalar.number?]

@[simp] theorem Scalar.text_same (name : String) (x : Scalar) :
    (Scalar.text name).same x = decide (.text name = x) := by
  cases x <;> simp [Scalar.same, Scalar.number?]

theorem Scalar.isAmong_text {scalars : List Scalar} {name : String} :
    (Scalar.text name).isAmong scalars = true ↔ .text name ∈ scalars := by
  simp [Scalar.isAmong]

/-- Among texts there are only texts. -/
theorem Scalar.isAmong_texts {names : List String} {x : Scalar} :
    x.isAmong (names.map .text) = true ↔ x ∈ names.map Scalar.text := by
  simp only [Scalar.isAmong, List.any_map, List.any_eq_true, Function.comp_apply, text_same,
    decide_eq_true_eq, List.mem_map]

theorem Mapping.lookup?_text (entries : Mapping) (key : String) :
    Mapping.lookup? entries (.text key) = Mapping.field? entries key := by
  induction entries with
  | nil => rfl
  | cons entry rest ih =>
    by_cases same : entry.1 = .text key
    · simp [Mapping.lookup?, Mapping.field?, Entries.get?, same]
    · simp only [Mapping.lookup?, Mapping.field?, Scalar.same_text] at ih
      simp [Mapping.lookup?, Mapping.field?, Entries.get?, same, ih]

private theorem Mapping.insert_text (entries : Mapping) (key : String) (value : Value) :
    Mapping.insert entries (.text key) value = Entries.set entries (.text key) value := by
  induction entries with
  | nil => rfl
  | cons entry rest ih =>
    rw [Mapping.insert, Entries.set, Scalar.same_text, ih]
    by_cases same : entry.1 = .text key <;> simp [same]

/-- Pairs with text keys, each once, are a map as they stand. -/
theorem Mapping.ofPairs_texts {pairs : List (Scalar × Value)}
    (texts : ∀ pair ∈ pairs, ∃ name, pair.1 = .text name)
    (distinct : (Entries.keys pairs).Nodup) : Mapping.ofPairs pairs = pairs := by
  suffices written : ∀ entries : Mapping,
      pairs.foldl (fun written pair => Mapping.insert written pair.1 pair.2) entries =
        Entries.update entries pairs from (written []).trans (Entries.ofPairs_of_nodup distinct)
  clear distinct
  induction pairs with
  | nil => exact fun _ => rfl
  | cons pair pairs ih =>
    obtain ⟨⟨name, key⟩, others⟩ := List.forall_mem_cons.mp texts
    intro entries
    rw [List.foldl_cons, ih others, key, Mapping.insert_text, ← key]
    rfl

private theorem keepDistinct_texts (names kept : List String) :
    (names.map Scalar.text).foldl
        (fun kept x => if x.isAmong kept then kept else kept ++ [x]) (kept.map Scalar.text) =
      (names.foldl (fun kept name => if name ∈ kept then kept else kept ++ [name]) kept).map
        Scalar.text := by
  induction names generalizing kept with
  | nil => rfl
  | cons name names ih =>
    have known : (Scalar.text name).isAmong (kept.map Scalar.text) = decide (name ∈ kept) := by
      apply Bool.eq_iff_iff.mpr
      simp [Scalar.isAmong_text]
    by_cases member : name ∈ kept
    · simpa [known, member] using ih kept
    · simpa [known, member] using ih (kept ++ [name])

/-- A text that is among some scalars stands once among the distinct ones. -/
theorem Scalar.count_text_distinct {scalars : List Scalar} {name : String}
    (member : .text name ∈ scalars) : (Scalar.distinct scalars).count (.text name) = 1 := by
  -- The induction is on the scalars, after those that are kept already.
  suffices grown : ∀ kept : List Scalar, kept.count (.text name) ≤ 1 →
      .text name ∈ kept ∨ .text name ∈ scalars →
        (scalars.foldl (fun kept x => if x.isAmong kept then kept else kept ++ [x]) kept).count
          (.text name) = 1 from grown [] (Nat.zero_le 1) (.inr member)
  clear member
  induction scalars with
  | nil =>
    intro kept once present
    have some := List.count_pos_iff.mpr (present.resolve_right List.not_mem_nil)
    exact Nat.le_antisymm once some
  | cons x scalars ih =>
    intro kept once present
    rw [List.foldl_cons]
    by_cases here : x = .text name
    · subst here
      by_cases known : Scalar.text name ∈ kept
      · rw [if_pos (Scalar.isAmong_text.mpr known)]
        exact ih kept once (.inl known)
      · rw [if_neg (mt Scalar.isAmong_text.mp known)]
        refine ih _ ?_ (.inl (by simp))
        simp [List.count_append, List.count_eq_zero.mpr known]
    · have left : .text name ∈ kept ∨ .text name ∈ scalars := by
        rcases present with early | later
        · exact .inl early
        · exact .inr ((List.mem_cons.mp later).resolve_left (Ne.symm here))
      split
      · exact ih kept once left
      · refine ih _ ?_ (left.imp_left (List.mem_append_left _))
        simpa [List.count_append, List.count_singleton, here] using once

theorem Scalar.distinct_texts (names : List String) :
    Scalar.distinct (names.map .text) = (EditorPlugins.distinct names).map .text :=
  keepDistinct_texts names []

end EditorPlugins
