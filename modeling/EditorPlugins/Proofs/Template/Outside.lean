import EditorPlugins.Proofs.Template.Snapshot
import EditorPlugins.Proofs.Text.Order

/-! # Snapshots that agree outside a directory

Two snapshots may hold the same files except for those of one directory. What is asked elsewhere has
the same answer in both; the directory above shows the same entries as long as both have some file
in the one that differs.
-/

namespace EditorPlugins.Template.Snapshot

/-- Two snapshots hold the same files, apart from those in a directory. -/
def AgreeOutside (directory : TemplatePath) (first second : Snapshot) : Prop :=
  ∀ path, (∀ below, below ≠ [] → path ≠ directory ++ below) →
    Entries.get? first.files path = Entries.get? second.files path

namespace AgreeOutside

variable {first second : Snapshot} {above below : TemplatePath} {name other : String}

section Beside

variable (agree : AgreeOutside (above ++ [name]) first second) (beside : other ≠ name)

include agree beside

/-- What stands beside the directory is the same. -/
theorem get?_eq : Entries.get? first.files (above ++ other :: below) =
    Entries.get? second.files (above ++ other :: below) := by
  refine agree _ fun inner _ same => beside ?_
  rw [List.append_assoc, List.append_cancel_left_eq, List.singleton_append] at same
  exact (List.cons.inj same).1

theorem mem_keys_iff : above ++ other :: below ∈ Entries.keys first.files ↔
    above ++ other :: below ∈ Entries.keys second.files := by
  rw [← Entries.get?_isSome_iff, ← Entries.get?_isSome_iff, agree.get?_eq beside]

private theorem isFile_eq :
    first.isFile (above ++ other :: below) = second.isFile (above ++ other :: below) := by
  rw [Bool.eq_iff_iff, isFile_iff, isFile_iff, agree.mem_keys_iff beside]

private theorem isDir_eq :
    first.isDir (above ++ other :: below) = second.isDir (above ++ other :: below) := by
  rw [Bool.eq_iff_iff, isDir_iff, isDir_iff]
  refine or_congr Iff.rfl (exists_congr fun inner => and_congr_right fun _ => ?_)
  rw [List.append_assoc, List.cons_append, agree.mem_keys_iff beside]

/-- Reading a path beside the directory gives the same content or the same error. -/
theorem readBytes_eq {text : String}
    (read : TemplatePath.ofText? text = some (above ++ other :: below)) :
    first.readBytes text = second.readBytes text := by
  rw [readBytes_of_ofText? read, readBytes_of_ofText? read, agree.get?_eq beside]

theorem exists?_eq (root also : FilePath) {text : String}
    (read : TemplatePath.ofText? text = some (above ++ other :: below)) :
    (first.source root).exists? text = (second.source also).exists? text := by
  rw [exists?_of_ofText? root read, exists?_of_ofText? also read, agree.isFile_eq beside,
    agree.isDir_eq beside]

end Beside

variable (agree : AgreeOutside (above ++ [name]) first second)
  (filled : first.isDir (above ++ [name]) = true)
  (also : second.isDir (above ++ [name]) = true)

include agree filled also

private theorem names_eq : first.names above = second.names above := by
  have present {snapshot : Snapshot} (isDir : snapshot.isDir (above ++ [name]) = true) :
      name ∈ snapshot.names above := by
    rcases isDir_iff.mp isDir with root | ⟨inner, -, member⟩
    · simp at root
    · exact mem_names_iff.mpr ⟨inner, by rwa [List.append_assoc, List.singleton_append] at member⟩
  refine Text.eq_of_sorted (Text.pairwise_mergeSort_names _) (Text.pairwise_mergeSort_names _)
    (nodup_names _ _) (nodup_names _ _) fun other => ?_
  by_cases same : other = name
  · rw [same]
    exact ⟨fun _ => present also, fun _ => present filled⟩
  · rw [mem_names_iff, mem_names_iff]
    exact exists_congr fun _ => agree.mem_keys_iff same

/-- The directory above shows the same entries. -/
theorem entries_eq : first.entries above = second.entries above := by
  rw [entries, entries, agree.names_eq filled also]
  refine List.map_congr_left fun other _ => ?_
  by_cases same : other = name
  · rw [same, filled, also]
  · rw [agree.isDir_eq same]

end AgreeOutside

end EditorPlugins.Template.Snapshot
