import EditorPlugins.Proofs.Disk.Change

/-! # Files that have been written

After some files have been written, a location holds what was written there last, or what it held
before; only directories may be new. Every written file is found at its path.
-/

namespace EditorPlugins.Disk

/-- What is written to each location at which one of some files settles. -/
def contents (disk : Disk) (files : List (FilePath × Octets)) : Entries Location Octets :=
  Entries.ofPairs (files.map fun file => ((disk.settled file.1).names, file.2))

/-- The disk after some files have been written one after another, and nothing else. -/
structure IsWritten (before after : Disk) (files : List (FilePath × Octets)) : Prop where
  extended : Extends before after
  found : ∀ file ∈ files, ∃ content,
    after.lookup file.1 = .ok (.found (before.settled file.1).names (.file content))
  contents : ∀ location, after.contentAt? location =
    (Entries.get? (before.contents files) location).or (before.contentAt? location)

namespace IsWritten

variable {first second third : Disk} {files more : List (FilePath × Octets)}

/-- Nothing is written where only directories are new. -/
theorem nil (extended : Extends first second)
    (same : ∀ location, second.contentAt? location = first.contentAt? location) :
    IsWritten first second [] :=
  ⟨extended, fun _ member => (nomatch member), same⟩

theorem refl (disk : Disk) : IsWritten disk disk [] := nil (Extends.refl disk) fun _ => rfl

theorem trans (one : IsWritten first second files) (two : IsWritten second third more) :
    IsWritten first third (files ++ more) where
  extended := one.extended.trans two.extended
  found file member := by
    rcases List.mem_append.mp member with earlier | later
    · obtain ⟨content, found⟩ := one.found file earlier
      exact two.extended.lookup_file found
    · rw [← one.extended.settled_eq]
      exact two.found file later
  contents location := by
    -- Both changes keep the links, so a path settles alike before either of them.
    have settled : second.contents more = first.contents more := by
      simp only [Disk.contents, one.extended.settled_eq]
    rw [two.contents, one.contents, settled, ← Option.or_assoc, Disk.contents, Disk.contents,
      Disk.contents, ← Entries.get?_update, List.map_append, Entries.ofPairs, Entries.ofPairs,
      Entries.update_append]

/-- A file that is written last at its location can be read. -/
theorem readFile {path : FilePath} {content : Octets}
    (written : IsWritten first second (files ++ (path, content) :: more))
    (last : ∀ file ∈ more, (first.settled file.1).names ≠ (first.settled path).names) :
    second.readFile path = .ok content := by
  obtain ⟨other, found⟩ := written.found (path, content) (by simp)
  have held : second.contentAt? (first.settled path).names = some content := by
    rw [written.contents, Disk.contents, List.map_append, List.map_cons,
      Entries.get?_ofPairs_of_last, Option.some_or]
    intro member
    obtain ⟨entry, inside, same⟩ := List.mem_map.mp member
    obtain ⟨file, present, rfl⟩ := List.mem_map.mp inside
    exact last file present same
  have stands := contentAt?_eq_some_iff.mpr (item?_of_lookup_file found)
  rw [held, Option.some.injEq] at stands
  rw [Disk.readFile, found, stands]

/-- Where no file is written, files and links are what they were. -/
theorem item?_iff (written : IsWritten first second files) {location : Location}
    (elsewhere : ∀ file ∈ files, (first.settled file.1).names ≠ location) {item : Item}
    (notDirectory : item ≠ .directory) :
    second.item? location = some item ↔ first.item? location = some item := by
  cases item with
  | directory => exact absurd rfl notDirectory
  | link target => exact written.extended.link location target
  | file content =>
    have absent : Entries.get? (first.contents files) location = none := by
      refine Entries.get?_ofPairs_eq_none fun member => ?_
      obtain ⟨entry, inside, same⟩ := List.mem_map.mp member
      obtain ⟨file, present, rfl⟩ := List.mem_map.mp inside
      exact elsewhere file present same
    rw [← contentAt?_eq_some_iff, ← contentAt?_eq_some_iff, written.contents, absent,
      Option.none_or]

end IsWritten

section Changes

variable {disk : Disk} {path : FilePath} {location : Location}

private theorem item?_of_vacancy (vacancy : disk.vacancy path = .ok location) :
    location ≠ [] ∧ disk.item? location = none := by
  unfold Disk.vacancy at vacancy
  -- Only the last of the cases has a location.
  split at vacancy
  iterate 2 cases vacancy
  split at vacancy
  iterate 3 cases vacancy
  split at vacancy
  · cases vacancy
  split at vacancy
  · cases vacancy
  split at vacancy
  · cases vacancy
  · next vacant =>
    cases vacancy
    exact ⟨by simp, vacant⟩

private theorem isWritten_makeDir (disk : Disk) (path : FilePath) :
    IsWritten disk (disk.makeDir path).disk [] := by
  unfold makeDir
  split
  · next location vacancy =>
    obtain ⟨nonempty, vacant⟩ := item?_of_vacancy vacancy
    exact .nil (extends_put_vacant nonempty vacant (by simp))
      (contentAt?_put_directory nonempty vacant)
  · exact .refl disk

theorem isWritten_makeDirs (disk : Disk) (path : FilePath) :
    IsWritten disk (disk.makeDirs path).disk [] := by
  unfold makeDirs
  induction path.names.reverse with
  | nil => exact isWritten_makeDir disk _
  | cons name above ih =>
    rw [makeDirsFrom]
    split
    · split
      · next after made =>
        rw [made] at ih
        exact ih.trans (isWritten_makeDir after _)
      · exact ih
    · exact isWritten_makeDir disk _

private theorem isWritten_put {place : Place} (found : disk.lookup path = .ok place)
    (nonempty : place.location ≠ []) {content : Octets}
    (extended : Extends disk (disk.put place.location (.file content)))
    (leads : (disk.put place.location (.file content)).lookup path =
      .ok (.found place.location (.file content))) :
    IsWritten disk (disk.put place.location (.file content)) [(path, content)] := by
  have settled := location_of_lookup found
  refine ⟨extended, ?_, fun location => ?_⟩
  · simpa [← settled] using ⟨content, leads⟩
  · have written : disk.contents [(path, content)] = [(place.location, content)] := by
      rw [settled]
      rfl
    rw [contentAt?_put_file nonempty, written, Entries.get?]
    by_cases same : location = place.location
    · rw [if_pos same, if_pos same.symm, Option.some_or]
    · rw [if_neg same, if_neg (Ne.symm same), Entries.get?, Option.none_or]

/-- A file that cannot be written leaves the disk as it is, one that can be is all that is new. -/
theorem isWritten_writeFile (disk : Disk) (path : FilePath) (content : Octets) :
    match (disk.writeFile path content).outcome with
    | .ok () => IsWritten disk (disk.writeFile path content).disk [(path, content)]
    | .error _ => (disk.writeFile path content).disk = disk := by
  unfold writeFile
  cases found : disk.lookup path with
  | error reason => rfl
  | ok place =>
    cases place with
    | vacant location =>
      obtain ⟨nonempty, vacant⟩ := item?_of_lookup_vacant found
      have extended : Extends disk (disk.put location (.file content)) :=
        extends_put_vacant nonempty vacant (by simp)
      exact isWritten_put found nonempty extended
        (extended.lookup_vacant found (item?_put_self nonempty _))
    | found location item =>
      cases item with
      | directory => rfl
      | link target => exact absurd found lookup_ne_link
      | file old =>
        have stands := item?_of_lookup_file found
        have nonempty : location ≠ [] := by
          rintro rfl
          cases stands
        have extended := extends_put_file nonempty stands content
        obtain ⟨other, leads⟩ := extended.lookup_file found
        have there := item?_of_lookup_file leads
        rw [item?_put_self nonempty, Option.some.injEq, Item.file.injEq] at there
        rw [← there] at leads
        exact isWritten_put found nonempty extended leads

end Changes

end EditorPlugins.Disk
