import EditorPlugins.Proofs.Template.Snapshot
import EditorPlugins.Proofs.Text.Order
import Mathlib.Data.List.Nodup

/-! # The order in which files are supplied

A snapshot is made of files in some order, and keeps them in that order. What it is asked about it
answers from the paths and the contents alone, so snapshots of the same files are the same source.
-/

namespace EditorPlugins

namespace Entries

variable {Key Item : Type} [DecidableEq Key]

/-- Where keys are distinct, a lookup does not depend on the order of the entries. -/
theorem get?_perm {first second : Entries Key Item} (perm : first.Perm second)
    (distinct : (keys first).Nodup) (key : Key) : get? first key = get? second key := by
  have also : (keys second).Nodup := (perm.map Prod.fst).nodup_iff.mp distinct
  cases found : get? second key with
  | some item => exact get?_of_mem distinct (perm.mem_iff.mpr (mem_of_get? found))
  | none =>
    rw [get?_eq_none_iff] at found ⊢
    exact fun member => found ((perm.map Prod.fst).mem_iff.mp member)

end Entries

namespace Template.Snapshot

/-- A supplied file by the names of its path; none when the path denotes the root, or nothing. -/
def named? (file : String × Octets) : Option (TemplatePath × Octets) :=
  ((TemplatePath.ofText? file.1).filter fun names => !names.isEmpty).map (·, file.2)

/-- Files are added by the names of their paths if all of these can be read. -/
private theorem addFiles_eq_ok {files : List (String × Octets)}
    (read : ∀ file ∈ files, (TemplatePath.ofText? file.1).isSome)
    (start : Entries TemplatePath Octets) :
    addFiles start files = .ok (Entries.update start (files.filterMap named?)) := by
  induction files generalizing start with
  | nil => rfl
  | cons file files ih =>
    obtain ⟨path, content⟩ := file
    obtain ⟨first, later⟩ := List.forall_mem_cons.mp read
    obtain ⟨names, found⟩ := Option.isSome_iff_exists.mp first
    cases names with
    | nil =>
      have passed : named? (path, content) = none := by simp [named?, found]
      simp only [addFiles, readPath, found, List.filterMap_cons, passed]
      exact ih later start
    | cons name names =>
      have kept : named? (path, content) = some (name :: names, content) := by
        simp [named?, found]
      simp only [addFiles, readPath, found, List.filterMap_cons, kept]
      exact ih later _

/-- Paths that are different when they are read have different names. -/
private theorem nodup_keys_named {files : List (String × Octets)}
    (distinct : (files.map fun file => TemplatePath.ofText? file.1).Nodup) :
    (Entries.keys (files.filterMap named?)).Nodup := by
  have keys : Entries.keys (files.filterMap named?) =
      (files.map fun file => TemplatePath.ofText? file.1).filterMap
        (Option.filter fun names => !names.isEmpty) := by
    rw [Entries.keys, List.map_filterMap, List.filterMap_map]
    congr 1
    funext file
    simp [named?, Function.comp_def]
  rw [keys]
  refine distinct.filterMap fun first second names here also => ?_
  rw [(Option.filter_eq_some_iff.mp here).1, (Option.filter_eq_some_iff.mp also).1]

/-- Files whose paths can be read and are all different make a snapshot of just these files. -/
theorem ofFiles_eq_ok {files : List (String × Octets)}
    (read : ∀ file ∈ files, (TemplatePath.ofText? file.1).isSome)
    (distinct : (files.map fun file => TemplatePath.ofText? file.1).Nodup) :
    ofFiles files = .ok ⟨files.filterMap named?⟩ ∧
      (Entries.keys (files.filterMap named?)).Nodup := by
  have names := nodup_keys_named distinct
  refine ⟨?_, names⟩
  rw [ofFiles, addFiles_eq_ok read]
  change Except.ok (Snapshot.mk (Entries.ofPairs _)) = _
  rw [Entries.ofPairs_of_nodup names]

section Same

variable {first second : Snapshot} (perm : first.files.Perm second.files)

include perm

private theorem mem_keys_iff_of_perm {path : TemplatePath} :
    path ∈ Entries.keys first.files ↔ path ∈ Entries.keys second.files :=
  (perm.map Prod.fst).mem_iff

private theorem isDir_eq_of_perm (path : TemplatePath) : first.isDir path = second.isDir path := by
  rw [Bool.eq_iff_iff, isDir_iff, isDir_iff]
  simp only [mem_keys_iff_of_perm perm]

private theorem depth_eq_of_perm : first.depth = second.depth := by
  -- Depth is a maximum over the files, so it is compared by the bounds it keeps to.
  have atMost {bound : Nat} : first.depth ≤ bound ↔ second.depth ≤ bound := by
    rw [depth_le_iff, depth_le_iff]
    simp only [mem_keys_iff_of_perm perm]
  exact Nat.le_antisymm (atMost.mpr (Nat.le_refl _)) (atMost.mp (Nat.le_refl _))

/-- The names in a directory are sorted, so only which names there are matters. -/
private theorem entries_eq_of_perm (directory : TemplatePath) :
    first.entries directory = second.entries directory := by
  have names : first.names directory = second.names directory := by
    refine Text.eq_of_sorted (Text.pairwise_mergeSort_names _) (Text.pairwise_mergeSort_names _)
      (nodup_names _ _) (nodup_names _ _) fun name => ?_
    rw [mem_names_iff, mem_names_iff]
    simp only [mem_keys_iff_of_perm perm]
  rw [entries, entries, names]
  exact List.map_congr_left fun name _ => by rw [isDir_eq_of_perm perm]

/-- Snapshots of the same files are the same source. -/
theorem source_eq_of_perm (distinct : (Entries.keys first.files).Nodup) (root : FilePath) :
    first.source root = second.source root := by
  have lookup : Entries.get? first.files = Entries.get? second.files :=
    funext (Entries.get?_perm perm distinct)
  have isDir : first.isDir = second.isDir := funext (isDir_eq_of_perm perm)
  have entries : first.entries = second.entries := funext (entries_eq_of_perm perm)
  have readBytes : first.readBytes = second.readBytes := by
    funext path
    rw [Snapshot.readBytes, Snapshot.readBytes, lookup]
  have list : first.list = second.list := by
    funext path
    rw [Snapshot.list, Snapshot.list, isDir, entries]
  have isFile : first.isFile = second.isFile := by
    funext path
    rw [Snapshot.isFile, Snapshot.isFile, Entries.has, Entries.has, lookup]
  rw [source, source, readBytes, list, isFile, isDir, depth_eq_of_perm perm, perm.length_eq]

end Same

/-- Files with different paths make the same source in any order. -/
theorem sources_of_perm {files shuffled : List (String × Octets)} (perm : files.Perm shuffled)
    (read : ∀ file ∈ files, (TemplatePath.ofText? file.1).isSome)
    (distinct : (files.map fun file => TemplatePath.ofText? file.1).Nodup) :
    ∃ first second, ofFiles files = .ok first ∧ ofFiles shuffled = .ok second ∧
      ∀ root, first.source root = second.source root := by
  have readAlso : ∀ file ∈ shuffled, (TemplatePath.ofText? file.1).isSome :=
    fun file member => read file (perm.mem_iff.mpr member)
  have distinctAlso : (shuffled.map fun file => TemplatePath.ofText? file.1).Nodup :=
    (perm.map _).nodup_iff.mp distinct
  obtain ⟨made, names⟩ := ofFiles_eq_ok read distinct
  exact ⟨_, _, made, (ofFiles_eq_ok readAlso distinctAlso).1,
    source_eq_of_perm (perm.filterMap named?) names⟩

end Template.Snapshot

end EditorPlugins
