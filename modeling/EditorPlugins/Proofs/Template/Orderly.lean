import EditorPlugins.Proofs.Disk.Tree
import EditorPlugins.Proofs.Path.FilePath
import EditorPlugins.Proofs.Template.Snapshot
import EditorPlugins.Template.Directory
import EditorPlugins.Template.Listing

/-! # Listings hold every name once

Both kinds of sources list the entries of a directory once each, under names that have no slashes.
So what is shown in a directory, and what is found in the tree below it, is shown once too.
-/

namespace EditorPlugins.Template

open Text Traced

namespace Source

/-- A source whose listings hold every name once, and only names that can stand between slashes. -/
structure IsOrderly (source : Source) : Prop where
  nodup : ∀ directory entries, source.list directory = .ok entries →
    (entries.map Entry.name).Nodup
  plain : ∀ directory entries, source.list directory = .ok entries →
    ∀ entry ∈ entries, entry.name ≠ "" ∧ '/' ∉ entry.name.toList

/-- The sources of templates: a directory of a disk, or a snapshot of files. -/
inductive IsTemplates : Source → Prop where
  | directory {disk : Disk} (wellFormed : disk.IsWellFormed) (project : FilePath)
      (templates : String) : IsTemplates (Directory.source disk project templates)
  | snapshot {files : Entries String Octets} {snapshot : Snapshot}
      (bundled : Snapshot.ofFiles files = .ok snapshot) (projectRoot : FilePath) :
      IsTemplates (snapshot.source projectRoot)

end Source

/-- A directory of the disk lists the names that stand in it. -/
private theorem exists_namesIn {disk : Disk} {root : FilePath} {path : String}
    {entries : List Entry} (listed : Directory.list disk root path = .ok entries) :
    ∃ location, entries.map Entry.name = disk.namesIn location := by
  simp only [Directory.list, Outcome.bind_eq_ok_iff] at listed
  obtain ⟨place, -, isDir, -, listed⟩ := listed
  cases isDir with
  | false => cases listed
  | true =>
    simp only [Bool.not_true, Bool.false_eq_true, if_false] at listed
    split at listed
    · cases listed
    · next names found =>
      have same := Outcome.map_of_mapM (g := Entry.name) (h := id) listed fun name entry asked => by
        obtain ⟨answer, -, made⟩ := Outcome.bind_eq_ok_iff.mp asked
        cases made
        rfl
      rw [same, List.map_id]
      unfold Disk.list at found
      split at found <;> cases found
      exact ⟨_, rfl⟩

private theorem isOrderly_directory {disk : Disk} (wellFormed : disk.IsWellFormed)
    (project : FilePath) (templates : String) :
    (Directory.source disk project templates).IsOrderly where
  nodup directory entries listed := by
    obtain ⟨location, names⟩ := exists_namesIn listed
    rw [names]
    exact Disk.nodup_namesIn wellFormed location
  plain directory entries listed entry member := by
    obtain ⟨location, names⟩ := exists_namesIn listed
    have present : entry.name ∈ disk.namesIn location := names ▸ List.mem_map_of_mem member
    obtain ⟨item, stands⟩ := Option.isSome_iff_exists.mp (Disk.mem_namesIn_iff.mp present)
    have legal := Disk.isLegalName_of_item? wellFormed stands entry.name (by simp)
    exact ⟨legal.nonempty, legal.noSlash⟩

private theorem isOrderly_snapshot {files : Entries String Octets} {snapshot : Snapshot}
    (bundled : Snapshot.ofFiles files = .ok snapshot) (projectRoot : FilePath) :
    (snapshot.source projectRoot).IsOrderly := by
  have shown {directory : String} {entries : List Entry}
      (listed : snapshot.list directory = .ok entries) :
      ∃ names, entries = snapshot.entries names := by
    rw [Snapshot.list, Outcome.bind_eq_ok_iff] at listed
    obtain ⟨names, -, found⟩ := listed
    split at found
    · exact ⟨names, (Outcome.pure_eq_ok_iff.mp found).symm⟩
    · cases found
  have same (names : TemplatePath) :
      (snapshot.entries names).map Entry.name = snapshot.names names := by
    rw [Snapshot.entries, List.map_map]
    exact List.map_id _
  constructor
  · intro directory entries listed
    obtain ⟨names, rfl⟩ := shown listed
    rw [same]
    exact snapshot.nodup_names names
  · intro directory entries listed entry member
    obtain ⟨names, rfl⟩ := shown listed
    have present : entry.name ∈ snapshot.names names := same names ▸ List.mem_map_of_mem member
    obtain ⟨below, found⟩ := Snapshot.mem_names_iff.mp present
    have isName := Snapshot.isName_of_ofFiles bundled _ found entry.name (by simp)
    exact ⟨isName.nonempty, isName.noSlash⟩

/-- A markdown file has the name that is left when its ending is taken away, and the ending. -/
theorem withoutMarkdown_append {name : String} (markdown : endsWith markdownEnding name = true) :
    withoutMarkdown name ++ markdownEnding = name := by
  obtain ⟨stem, whole⟩ := List.isSuffixOf_iff_suffix.mp markdown
  have length : name.length - markdownEnding.length = stem.length := by
    rw [← String.length_toList, ← whole, List.length_append, ← String.length_toList]
    omega
  apply String.toList_inj.mp
  rw [withoutMarkdown, if_pos markdown, String.toList_append, String.toList_ofList, length, ← whole,
    List.take_left]

private def firstName (path : String) : Option (List Char) := (pieces '/' path.toList).head?

private theorem firstName_below {name : String} (noSlash : '/' ∉ name.toList) (rest : String) :
    firstName (name ++ "/" ++ rest) = some name.toList := by
  have written : (name ++ "/" ++ rest).toList = name.toList ++ '/' :: rest.toList := by simp
  rw [firstName, written, pieces_append _ noSlash, List.head?_cons]

namespace Source

theorem IsTemplates.isOrderly {source : Source} (templates : source.IsTemplates) :
    source.IsOrderly := by
  cases templates with
  | directory wellFormed project name => exact isOrderly_directory wellFormed project name
  | snapshot bundled projectRoot => exact isOrderly_snapshot bundled projectRoot

namespace IsOrderly

variable {source : Source} (orderly : source.IsOrderly) {directory : String}

include orderly

private theorem nodup_entries {entries : List Entry}
    (shown : (source.entries directory).outcome = .ok entries) :
    (entries.map Entry.name).Nodup ∧
      ∀ entry ∈ entries, entry.name ≠ "" ∧ '/' ∉ entry.name.toList := by
  rw [outcome_entries] at shown
  cases listed : source.list directory with
  | ok found =>
    rw [listed] at shown
    cases shown
    exact ⟨orderly.nodup _ _ listed, orderly.plain _ _ listed⟩
  | error error =>
    rw [listed] at shown
    simp only at shown
    split at shown
    · cases shown
      simp
    · cases shown

/-- What is shown in a directory is some of what it lists. -/
private theorem nodup_shown {shown : Entry → Bool} {names : List String}
    (ran : (do return ((← source.entries directory).filter shown).map Entry.name :
      Traced (List String)).outcome = .ok names) :
    names.Nodup ∧ ∀ name ∈ names, ∃ entry : Entry, shown entry = true ∧ entry.name = name ∧
      name ≠ "" ∧ '/' ∉ name.toList := by
  rw [bind_eq_ok_iff] at ran
  obtain ⟨entries, listed, found⟩ := ran
  cases found
  obtain ⟨distinct, plain⟩ := orderly.nodup_entries listed
  refine ⟨distinct.sublist (List.filter_sublist.map _), fun name member => ?_⟩
  obtain ⟨entry, present, rfl⟩ := List.mem_map.mp member
  obtain ⟨inside, kind⟩ := List.mem_filter.mp present
  exact ⟨entry, kind, rfl, plain entry inside⟩

theorem nodup_subdirectories {names : List String}
    (ran : (source.subdirectories directory).outcome = .ok names) : names.Nodup :=
  (orderly.nodup_shown ran).1

theorem noSlash_subdirectories {names : List String}
    (ran : (source.subdirectories directory).outcome = .ok names) :
    ∀ name ∈ names, '/' ∉ name.toList := fun name member => by
  obtain ⟨-, -, -, -, noSlash⟩ := (orderly.nodup_shown ran).2 name member
  exact noSlash

theorem nodup_plainFiles {names : List String}
    (ran : (source.plainFiles directory).outcome = .ok names) : names.Nodup :=
  (orderly.nodup_shown ran).1

/-- The markdown files in a directory have different names also without their ending. -/
theorem nodup_withoutMarkdown {names : List String}
    (ran : (source.markdownFiles directory).outcome = .ok names) :
    (names.map withoutMarkdown).Nodup := by
  obtain ⟨distinct, shown⟩ := orderly.nodup_shown ran
  refine distinct.map_on fun name member other also same => ?_
  have ends {name : String} (member : name ∈ names) : endsWith markdownEnding name = true := by
    obtain ⟨entry, kind, rfl, -⟩ := shown name member
    exact (Bool.and_eq_true _ _ ▸ kind).2
  rw [← withoutMarkdown_append (ends member), same, withoutMarkdown_append (ends also)]

/-- No file is found twice below a directory: paths that begin with the same name come from the same
entry. -/
theorem nodup_treeWithin {fuel : Nat} {files : List String}
    (ran : (source.treeWithin fuel directory).outcome = .ok files) : files.Nodup := by
  induction fuel generalizing directory files with
  | zero =>
    cases ran
    exact List.nodup_nil
  | succ fuel ih =>
    obtain ⟨entries, listed, found, walked, rfl⟩ := treeWithin_succ_eq_ok_iff.mp ran
    obtain ⟨distinct, plain⟩ := orderly.nodup_entries listed
    refine Outcome.nodup_flatten_of_mapM walked
      (fun entry : Entry => some entry.name.toList) firstName ?_ fun entry member below here => ?_
    · have apart : Function.Injective fun name : String => some name.toList :=
        fun _ _ same => String.toList_inj.mp (Option.some.inj same)
      have keys := distinct.map apart
      rwa [List.map_map] at keys
    · have noSlash := (plain entry member).2
      unfold treeEntry at here
      split at here
      · cases here
        simp
      split at here
      · split at here
        · cases here
          simp
        · obtain ⟨inner, walked, made⟩ := bind_eq_ok_iff.mp here
          cases made
          refine ⟨(ih walked).map fun a b same => ?_, fun path present => ?_⟩
          · simpa using same
          · obtain ⟨file, -, rfl⟩ := List.mem_map.mp present
            exact firstName_below noSlash file
      · cases here
        refine ⟨List.nodup_singleton _, fun path present => ?_⟩
        rw [List.mem_singleton.mp present, firstName, pieces_of_not_mem noSlash, List.head?_cons]

theorem noSlash_markdownFiles {names : List String}
    (ran : (source.markdownFiles directory).outcome = .ok names) :
    ∀ name ∈ names, '/' ∉ name.toList := fun name member => by
  obtain ⟨-, -, -, -, noSlash⟩ := (orderly.nodup_shown ran).2 name member
  exact noSlash

omit orderly in
/-- A name that is shown is one that a path can have. -/
private theorem isTidy_of_shown {name : String} (plain : name ≠ "" ∧ '/' ∉ name.toList)
    (shown : isHidden name = false) : FilePath.IsTidy name := by
  refine FilePath.isTidy_of_noSlash plain.2 plain.1 ?_
  rintro rfl
  revert shown
  decide

theorem isTidy_plainFiles {names : List String}
    (ran : (source.plainFiles directory).outcome = .ok names) :
    ∀ name ∈ names, FilePath.IsTidy name := fun name member => by
  obtain ⟨entry, kind, rfl, plain⟩ := (orderly.nodup_shown ran).2 name member
  simp only [isPlainFile, Bool.and_eq_true, Bool.not_eq_true'] at kind
  exact isTidy_of_shown plain kind.2

/-- The files below a directory have tidy paths from there. -/
theorem isTidy_treeWithin {fuel : Nat} {files : List String}
    (ran : (source.treeWithin fuel directory).outcome = .ok files) :
    ∀ file ∈ files, FilePath.IsTidy file := by
  induction fuel generalizing directory files with
  | zero =>
    cases ran
    exact fun _ member => (nomatch member)
  | succ fuel ih =>
    obtain ⟨entries, listed, found, walked, rfl⟩ := treeWithin_succ_eq_ok_iff.mp ran
    obtain ⟨-, plain⟩ := orderly.nodup_entries listed
    intro file member
    obtain ⟨files, among, inside⟩ := List.mem_flatten.mp member
    obtain ⟨entry, present, here⟩ := Outcome.exists_of_mem_mapM walked among
    unfold treeEntry at here
    split at here
    · cases here
      cases inside
    · next shown =>
      rw [Bool.not_eq_true] at shown
      have tidy := isTidy_of_shown (plain entry present) shown
      split at here
      · split at here
        · cases here
          cases inside
        · obtain ⟨inner, walkedBelow, made⟩ := bind_eq_ok_iff.mp here
          cases made
          obtain ⟨below, deeper, rfl⟩ := List.mem_map.mp inside
          exact tidy.append (ih walkedBelow below deeper)
      · cases here
        rw [List.mem_singleton.mp inside]
        exact tidy

/-- No file is found twice in a tree. -/
theorem nodup_tree {files : List String} (ran : (source.tree directory).outcome = .ok files) :
    files.Nodup :=
  orderly.nodup_treeWithin ran

end IsOrderly

end Source

end EditorPlugins.Template
