import EditorPlugins.Proofs.Entries
import EditorPlugins.Proofs.Path.TemplatePath
import EditorPlugins.Proofs.Template.Source
import EditorPlugins.Proofs.Value.Keys
import EditorPlugins.Template.Snapshot

/-! # What a snapshot answers

Every answer of a snapshot follows from the paths of its files: a directory is what some file stands
below, and the root; its names are those that follow it in the paths. The files are the ones that
the snapshot was made of, where no two of these disagree.
-/

namespace EditorPlugins.Template.Snapshot

variable {snapshot : Snapshot} {path : TemplatePath}

/-- A path leads to a directory when it is the root or some file stands below it. -/
theorem isDir_iff : snapshot.isDir path = true ↔
    path = [] ∨ ∃ below, below ≠ [] ∧ path ++ below ∈ Entries.keys snapshot.files := by
  rw [isDir, Bool.or_eq_true, List.isEmpty_iff, List.any_eq_true]
  refine or_congr Iff.rfl ⟨?_, ?_⟩
  · rintro ⟨file, member, found⟩
    simp only [Bool.and_eq_true, List.isPrefixOf_iff_prefix, decide_eq_true_eq] at found
    obtain ⟨⟨below, whole⟩, longer⟩ := found
    refine ⟨below, ?_, whole ▸ List.mem_map_of_mem member⟩
    rintro rfl
    rw [List.append_nil] at whole
    exact absurd longer (whole ▸ Nat.lt_irrefl _)
  · rintro ⟨below, proper, member⟩
    obtain ⟨file, present, whole⟩ := List.mem_map.mp member
    refine ⟨file, present, ?_⟩
    simp only [whole, Bool.and_eq_true, List.isPrefixOf_iff_prefix, decide_eq_true_eq,
      List.length_append]
    exact ⟨List.prefix_append _ _, Nat.lt_add_of_pos_right (List.length_pos_iff.mpr proper)⟩

theorem isFile_iff : snapshot.isFile path = true ↔ path ∈ Entries.keys snapshot.files :=
  Entries.get?_isSome_iff _ _

/-- A name stands in a directory when it follows the directory in the path of some file. -/
theorem mem_names_iff {directory : TemplatePath} {name : String} :
    name ∈ snapshot.names directory ↔
      ∃ below, directory ++ name :: below ∈ Entries.keys snapshot.files := by
  rw [names, List.mem_mergeSort, mem_distinct, List.mem_filterMap]
  constructor
  · rintro ⟨file, member, found⟩
    unfold nameBelow? at found
    split at found
    · next below =>
      obtain ⟨rest, whole⟩ := List.isPrefixOf_iff_prefix.mp below
      rw [← whole, List.drop_left] at found
      obtain ⟨below, rfl⟩ := List.head?_eq_some_iff.mp found
      exact ⟨below, whole ▸ List.mem_map_of_mem member⟩
    · cases found
  · rintro ⟨below, member⟩
    obtain ⟨file, present, whole⟩ := List.mem_map.mp member
    refine ⟨file, present, ?_⟩
    rw [whole, nameBelow?, if_pos (List.isPrefixOf_iff_prefix.mpr (List.prefix_append _ _)),
      List.drop_left]
    rfl

theorem nodup_names (snapshot : Snapshot) (directory : TemplatePath) :
    (snapshot.names directory).Nodup :=
  (List.mergeSort_perm _ _).nodup_iff.mpr (nodup_distinct _)

theorem depth_le_iff {bound : Nat} : snapshot.depth ≤ bound ↔
    ∀ path ∈ Entries.keys snapshot.files, path.length ≤ bound := by
  have folded (files : Entries TemplatePath Octets) (start : Nat) :
      files.foldl (fun longest file => max longest file.1.length) start ≤ bound ↔
        start ≤ bound ∧ ∀ path ∈ Entries.keys files, path.length ≤ bound := by
    induction files generalizing start with
    | nil => simp [Entries.keys]
    | cons file files ih =>
      rw [List.foldl_cons, ih, Nat.max_le, and_assoc]
      simp [Entries.keys]
  rw [depth, folded]
  simp

section Answers

variable {text : String}

theorem readBytes_of_ofText? (read : TemplatePath.ofText? text = some path) :
    snapshot.readBytes text =
      match Entries.get? snapshot.files path with
      | some content => .ok content
      | none => .error (.snapshotMissing text) := by
  rw [readBytes, readPath_eq_ok_iff.mpr read]
  rfl

theorem exists?_of_ofText? (projectRoot : FilePath) (read : TemplatePath.ofText? text = some path) :
    (snapshot.source projectRoot).exists? text =
      .ok (snapshot.isFile path || snapshot.isDir path) := by
  change (do let names ← readPath text; return snapshot.isFile names || snapshot.isDir names) = _
  rw [readPath_eq_ok_iff.mpr read]
  rfl

theorem list_of_ofText? (read : TemplatePath.ofText? text = some path) :
    snapshot.list text =
      if snapshot.isDir path then .ok (snapshot.entries path)
      else .error (.snapshotDirectoryMissing text) := by
  rw [list, readPath_eq_ok_iff.mpr read]
  rfl

/-- Where there is no directory there are no entries either. -/
theorem outcome_entries (projectRoot : FilePath) (read : TemplatePath.ofText? text = some path) :
    ((snapshot.source projectRoot).entries text).outcome = .ok (snapshot.entries path) := by
  have listed : (snapshot.source projectRoot).list text = _ := list_of_ofText? read
  rw [Source.outcome_entries, listed]
  by_cases isDir : snapshot.isDir path = true
  · rw [if_pos isDir]
  · have none : snapshot.names path = [] := by
      apply List.eq_nil_iff_forall_not_mem.mpr
      intro name member
      obtain ⟨below, found⟩ := mem_names_iff.mp member
      exact isDir (isDir_iff.mpr (.inr ⟨_, List.cons_ne_nil _ _, found⟩))
    rw [if_neg isDir, entries, none]
    rfl

/-- A snapshot whose listing of some directory is known answers from what is known. -/
theorem source_eq_of_list (projectRoot : FilePath) {entries : List Entry}
    (listed : snapshot.list text = .ok entries) :
    snapshot.source projectRoot = { snapshot.source projectRoot with
      list := fun asked => if asked = text then .ok entries else snapshot.list asked } := by
  have same : (fun asked => if asked = text then .ok entries else snapshot.list asked) =
      snapshot.list := by
    funext asked
    by_cases here : asked = text
    · rw [if_pos here, here, listed]
    · rw [if_neg here]
  rw [same]
  rfl

end Answers

/-- The paths of a snapshot are read from texts, and none of them is the root. -/
theorem exists_ofText?_of_ofFiles {files : Entries String Octets}
    (bundled : ofFiles files = .ok snapshot) :
    ∀ path ∈ Entries.keys snapshot.files, path ≠ [] ∧
      ∃ text, TemplatePath.ofText? text = some path := by
  suffices added : ∀ start all, addFiles start files = .ok all →
      (∀ path ∈ Entries.keys start, path ≠ [] ∧ ∃ text, TemplatePath.ofText? text = some path) →
        ∀ path ∈ Entries.keys all, path ≠ [] ∧
          ∃ text, TemplatePath.ofText? text = some path by
    obtain ⟨all, ran, rfl⟩ := Outcome.map_eq_ok_iff.mp bundled
    exact added [] all ran (by simp [Entries.keys])
  clear bundled
  intro start all ran named
  induction files generalizing start with
  | nil =>
    cases ran
    exact named
  | cons file files ih =>
    obtain ⟨text, content⟩ := file
    rw [addFiles] at ran
    split at ran
    · cases ran
    · exact ih start ran named
    · next names proper read =>
      refine ih _ ran fun path member => ?_
      obtain ⟨entry, present, rfl⟩ := List.mem_map.mp member
      rcases Entries.mem_set present with old | rfl
      · exact named _ (List.mem_map_of_mem old)
      · exact ⟨proper, text, readPath_eq_ok_iff.mp read⟩

/-- The paths of a snapshot are made up of names. -/
theorem isName_of_ofFiles {files : Entries String Octets} (bundled : ofFiles files = .ok snapshot) :
    ∀ path ∈ Entries.keys snapshot.files, ∀ name ∈ path, TemplatePath.IsName name := by
  intro path member
  obtain ⟨-, text, read⟩ := exists_ofText?_of_ofFiles bundled path member
  exact TemplatePath.isName_of_ofText? read

/-- A snapshot of files by paths that read back holds them by their names. -/
theorem ofFiles_texts {files : Entries TemplatePath Octets}
    (read : ∀ file ∈ files, file.1 ≠ [] ∧
      TemplatePath.ofText? (TemplatePath.text file.1) = some file.1) :
    ofFiles (files.map fun file => (TemplatePath.text file.1, file.2)) =
      .ok ⟨Entries.ofPairs files⟩ := by
  suffices added : ∀ start, addFiles start
      (files.map fun file => (TemplatePath.text file.1, file.2)) =
        .ok (Entries.update start files) by
    rw [ofFiles, added]
    rfl
  intro start
  induction files generalizing start with
  | nil => rfl
  | cons file files ih =>
    obtain ⟨⟨proper, first⟩, later⟩ := List.forall_mem_cons.mp read
    have names : readPath (TemplatePath.text file.1) = .ok file.1 := by rw [readPath, first]
    obtain ⟨path, content⟩ := file
    obtain ⟨name, rest, rfl⟩ := List.exists_cons_of_ne_nil proper
    simp only [List.map_cons, addFiles, names]
    exact ih later _

end EditorPlugins.Template.Snapshot
