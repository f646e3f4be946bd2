import EditorPlugins.Merge.KeyPath
import EditorPlugins.Proofs.Text.Trim
import EditorPlugins.Proofs.Value.Keys

/-! # Reading key paths back

The names of shared maps hold no dot, so a written child path splits at the dot that joined it.
Conversely a path that is read as a child is the written form of that child, and any other path is
a key of its own.
-/

namespace EditorPlugins.Merge.KeyPath

open Text

variable {shared : List Scalar}

private theorem text_ofText (shared : List Scalar) (path : String) :
    (ofText shared path).text = path := by
  unfold ofText
  split
  · rfl
  · next before after cut =>
    dsimp only
    split
    · rw [text, ← String.toList_inj]
      simp [eq_append_of_cutAt cut]
    · rfl

/-- A path that is read as a key of its own is that key. -/
theorem eq_of_ofText_eq_whole {path key : String} (read : ofText shared path = .whole key) :
    key = path := by
  have written := text_ofText shared path
  rwa [read, text] at written

/-- A path that is read as a child is written like it, and its map is shared. -/
theorem of_ofText_eq_child {path map key : String} (read : ofText shared path = .child map key) :
    .text map ∈ shared ∧ path = (child map key).text := by
  constructor
  · unfold ofText at read
    split at read
    · cases read
    · dsimp only at read
      split at read
      · next among =>
        cases read
        exact Scalar.isAmong_text.mp among
      · cases read
  · rw [← read, text_ofText]

/-- The written form of a child is read as the child. -/
theorem ofText_text_child {map : String} (key : String) (isShared : .text map ∈ shared)
    (noDot : '.' ∉ map.toList) : ofText shared (child map key).text = .child map key := by
  have cut : cutAt '.' (child map key).text.toList = (map.toList, some key.toList) := by
    rw [text, String.toList_append, String.toList_append, List.append_assoc]
    exact cutAt_append key.toList noDot
  simp only [ofText, cut, String.ofList_toList, Scalar.isAmong_text.mpr isShared, if_true]

private theorem ofText_of_noDot {key : String} (noDot : '.' ∉ key.toList) :
    ofText shared key = .whole key := by
  simp [ofText, cutAt_of_not_mem noDot]

private theorem not_mem_of_sharedMaps {map : String} (isShared : .text map ∈ sharedMaps) :
    '.' ∉ map.toList := by
  simp only [sharedMaps, List.mem_cons, Scalar.text.injEq, List.not_mem_nil, or_false] at isShared
  rcases isShared with rfl | rfl <;> decide

/-- Shared maps are keys of their own. -/
theorem ofText_map {map : String} (isShared : .text map ∈ sharedMaps) :
    ofText sharedMaps map = .whole map :=
  ofText_of_noDot (not_mem_of_sharedMaps isShared)

theorem ofText_child {map : String} (key : String) (isShared : .text map ∈ sharedMaps) :
    ofText sharedMaps (child map key).text = .child map key :=
  ofText_text_child key isShared (not_mem_of_sharedMaps isShared)

end EditorPlugins.Merge.KeyPath
