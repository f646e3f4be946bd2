import EditorPlugins.Proofs.Path.Child
import EditorPlugins.Proofs.Template.Contents

/-! # What a snapshot shows and what the disk shows

A snapshot has the directories that its files stand in. Where every directory of the tree has a file
below it, these are the directories of the disk, and listing, asking and walking have the same
outcome in both. Only a path or a name that is too long for the system tells them apart: the
snapshot has no such path, the disk refuses to be asked.
-/

namespace EditorPlugins.Template

namespace Directory

/-- Every directory below the top of a tree has a file below it. -/
def IsFilled (disk : Disk) (top : Disk.Location) : Prop :=
  ∀ names, names ≠ [] → disk.item? (top ++ names) = some .directory →
    ∃ below content, below ≠ [] ∧ disk.item? (top ++ names ++ below) = some (.file content)

/-- A path text that the system refuses for its length, or for that of a name in it. -/
def IsOverlong (disk : Disk) (root : FilePath) (top : Disk.Location) (path : String) : Prop :=
  ∃ names, TemplatePath.ofText? path = some names ∧ IsRefused disk root top names

variable {disk : Disk} {root : FilePath} {top : Disk.Location} {taken : Snapshot}
  {names : TemplatePath} {path : String}

section Asked

variable (tree : IsReachableTree disk root top)

include tree

private theorem IsReachableTree.itemAt?_eq_ok (read : TemplatePath.ofText? path = some names)
    (short : ¬IsOverlong disk root top path) :
    disk.itemAt? (root.append ⟨"", names⟩) = .ok (disk.item? (top ++ names)) := by
  exact tree.itemAt?_of_not_isRefused (notDots_of_ofText? read) fun refused =>
    short ⟨names, read, refused⟩

private theorem IsReachableTree.isDir?_eq_ok_of_short
    (read : TemplatePath.ofText? path = some names)
    (short : ¬IsOverlong disk root top path) : disk.isDir? (root.append ⟨"", names⟩) =
      .ok (decide (disk.item? (top ++ names) = some .directory)) := by
  rw [Disk.isDir?, tree.itemAt?_eq_ok read short]
  cases disk.item? (top ++ names) with
  | none => rfl
  | some item => cases item <;> rfl

private theorem IsReachableTree.list_of_short (read : TemplatePath.ofText? path = some names)
    (short : ¬IsOverlong disk root top path) :
    list disk root path =
      if disk.item? (top ++ names) = some .directory then .ok (entriesAt disk (top ++ names))
      else .error (.directoryMissing path) := by
  split
  · next stands => exact tree.list_of_directory read stands
  · next other =>
    have answer := tree.isDir?_eq_ok_of_short read short
    rw [decide_eq_false other] at answer
    rw [list, place_eq_ok_iff.mpr ⟨names, read, rfl⟩]
    simp only [bind, Except.bind, ask, answer]
    rfl

private theorem IsReachableTree.exists?_of_short (read : TemplatePath.ofText? path = some names)
    (short : ¬IsOverlong disk root top path) :
    (do ask (disk.exists? (← place root path))) =
      Except.ok (disk.item? (top ++ names)).isSome := by
  rw [place_eq_ok_iff.mpr ⟨names, read, rfl⟩]
  simp only [bind, Except.bind, ask, Disk.exists?, tree.itemAt?_eq_ok read short, Except.map]

private theorem IsReachableTree.isDir?_of_short (read : TemplatePath.ofText? path = some names)
    (short : ¬IsOverlong disk root top path) :
    (do ask (disk.isDir? (← place root path))) =
      Except.ok (decide (disk.item? (top ++ names) = some .directory)) := by
  rw [place_eq_ok_iff.mpr ⟨names, read, rfl⟩]
  simp only [bind, Except.bind, ask, tree.isDir?_eq_ok_of_short read short]

/-- A path that is too long is refused whatever the disk is asked about it. -/
theorem IsReachableTree.refused_of_isOverlong (overlong : IsOverlong disk root top path) :
    ∃ error, error.category = .system ∧ list disk root path = .error error ∧
      (do ask (disk.exists? (← place root path))) = Except.error error ∧
        (do ask (disk.isDir? (← place root path))) = Except.error error := by
  obtain ⟨names, read, refused⟩ := overlong
  have answer := tree.itemAt?_of_isRefused refused (notDots_of_ofText? read)
  have placed := place_eq_ok_iff.mpr ⟨_, read, (rfl : root.append ⟨"", _⟩ = _)⟩
  refine ⟨.disk ⟨.nameTooLong, (root.append ⟨"", names⟩).text⟩, rfl, ?_, ?_, ?_⟩
  · rw [list, placed]
    simp only [bind, Except.bind, ask, Disk.isDir?, answer, Except.map]
  · rw [placed]
    simp only [bind, Except.bind, ask, Disk.exists?, answer, Except.map]
  · rw [placed]
    simp only [bind, Except.bind, ask, Disk.isDir?, answer, Except.map]

end Asked

section Snapshot

variable (tree : IsReachableTree disk root top) (filled : IsFilled disk top)
  (holds : Holds taken disk top)

include tree filled holds

/-- The directories of the snapshot are those of the disk. -/
private theorem isDir_eq_decide :
    taken.isDir names = decide (disk.item? (top ++ names) = some .directory) := by
  rw [Bool.eq_iff_iff, decide_eq_true_iff]
  refine ⟨item?_of_isDir tree holds, fun stands => holds.isDir_iff.mpr ?_⟩
  by_cases root : names = []
  · exact .inl root
  · exact .inr (filled names root stands)

private theorem entries_eq_entriesAt : taken.entries names = entriesAt disk (top ++ names) := by
  rw [entries_eq_filter tree holds, List.filter_eq_self]
  intro entry member
  obtain ⟨name, inside, rfl⟩ := List.mem_map.mp member
  rw [isDir_eq_decide tree filled holds, List.append_assoc, Bool.not_or_self]

/-- What the snapshot knows as a file or as a directory is what stands on the disk. -/
private theorem isFile_or_isDir_eq :
    (taken.isFile names || taken.isDir names) = (disk.item? (top ++ names)).isSome := by
  rw [isDir_eq_decide tree filled holds, Bool.eq_iff_iff, Bool.or_eq_true, Snapshot.isFile_iff,
    holds.mem_keys_iff, decide_eq_true_iff]
  cases stands : disk.item? (top ++ names) with
  | none => simp
  | some item =>
    cases item with
    | directory => simp
    | file content => simp
    | link target => exact absurd stands (tree.linkFree names target)

private theorem snapshotList_of_ofText? (read : TemplatePath.ofText? path = some names) :
    taken.list path =
      if disk.item? (top ++ names) = some .directory then .ok (entriesAt disk (top ++ names))
      else .error (.snapshotDirectoryMissing path) := by
  rw [Snapshot.list_of_ofText? read, isDir_eq_decide tree filled holds,
    entries_eq_entriesAt tree filled holds]
  simp only [decide_eq_true_eq]

end Snapshot

section Walk

variable {project : FilePath} {templates : String} {projectRoot : FilePath}
  (tree : IsReachableTree disk (rootOf disk project templates) top) (filled : IsFilled disk top)
  (holds : Holds taken disk top) {fuel more : Nat}

include tree

/-- Joining the name of an item to the text of its directory, if this does not end in a blank, leads
to the item. -/
private theorem ofText?_child (read : TemplatePath.ofText? path = some names)
    (unblank : ∀ c ∈ path.toList.getLast?, Text.isBlank c = false) {name : String}
    {item : Disk.Item} (stands : disk.item? (top ++ names ++ [name]) = some item) :
    TemplatePath.ofText? (joinPath path name) = some (names ++ [name]) ∧
      ∀ c ∈ (joinPath path name).toList.getLast?, Text.isBlank c = false := by
  rw [List.append_assoc] at stands
  have child := tree.ofText?_text stands
  have isPlain := TemplatePath.isPlain_of_ofText? child
  refine ⟨TemplatePath.ofText?_joinPath_of_unblank read unblank child, ?_⟩
  rw [TemplatePath.getLast?_joinPath path isPlain.isName]
  exact isPlain.unblank

/-- No name of the tree ends in a blank. -/
private theorem item?_eq_none_of_blank {above : TemplatePath} {final name : String} {c : Char}
    (last : final.toList.getLast? = some c) (blank : Text.isBlank c = true) :
    disk.item? (top ++ (above ++ [final, name])) = none := by
  cases stands : disk.item? (top ++ (above ++ [final, name])) with
  | none => rfl
  | some item =>
    have split : top ++ (above ++ [final, name]) = top ++ (above ++ [final]) ++ [name] := by simp
    rw [split] at stands
    have entered := Disk.item?_above tree.wellFormed stands (List.cons_ne_nil _ _)
    have isPlain := TemplatePath.isPlain_of_ofText? (tree.ofText?_text entered)
    rw [isPlain.unblank c last] at blank
    cases blank

/-- A path that is too long only when the name of a directory is put below it ends in a blank, for
otherwise the directory stands where the long path leads. -/
private theorem endsInBlank_of_child (read : TemplatePath.ofText? path = some names) {name : String}
    (stands : disk.item? (top ++ names ++ [name]) = some .directory)
    (overlong : IsOverlong disk (rootOf disk project templates) top (joinPath path name)) :
    ∃ c, path.toList.getLast? = some c ∧ Text.isBlank c = true := by
  by_contra unblank
  simp only [not_exists, not_and, Bool.not_eq_true] at unblank
  obtain ⟨child, -⟩ := ofText?_child tree read unblank stands
  obtain ⟨below, also, tooLong⟩ := overlong
  have none := tree.item?_of_isRefused tooLong
  rw [← Option.some.inj (child.symm.trans also), ← List.append_assoc, stands] at none
  cases none

include filled holds

/-- A directory is walked alike when the directories in it are. -/
private theorem walkWithin_eq_of_children (read : TemplatePath.ofText? path = some names)
    (stands : disk.item? (top ++ names) = some .directory)
    (same : ∀ name, disk.item? (top ++ names ++ [name]) = some .directory →
      (taken.source projectRoot).walkWithin fuel (joinPath path name) =
        (source disk project templates).walkWithin more (joinPath path name)) :
    (taken.source projectRoot).walkWithin (fuel + 1) path =
      (source disk project templates).walkWithin (more + 1) path := by
  have here := snapshotList_of_ofText? tree filled holds read
  rw [if_pos stands] at here
  have there := tree.list_of_directory read stands
  rw [Source.walkWithin_of_list here, Source.walkWithin_of_list there]
  refine congrArg _ (Outcome.mapM_congr fun entry member => ?_)
  obtain ⟨name, inside, rfl⟩ := List.mem_map.mp member
  unfold Source.walkEntry
  by_cases directory : disk.item? (top ++ names ++ [name]) = some .directory
  · simp only [directory, same name directory]
  · simp only [directory, decide_false, Bool.false_eq_true, if_false]

/-- A path that does not end in a blank is walked alike, if both walks go deep enough. -/
private theorem walkWithin_eq_of_unblank (read : TemplatePath.ofText? path = some names)
    (unblank : ∀ c ∈ path.toList.getLast?, Text.isBlank c = false)
    (stands : disk.item? (top ++ names) = some .directory)
    (deep : ∀ below item, disk.item? (top ++ names ++ below) = some item →
      below.length < fuel ∧ below.length < more) :
    (taken.source projectRoot).walkWithin fuel path =
      (source disk project templates).walkWithin more path := by
  induction fuel generalizing more names path with
  | zero =>
    have reached := deep [] .directory (by rwa [List.append_nil])
    exact absurd reached.1 (Nat.not_lt_zero _)
  | succ fuel ih =>
    cases more with
    | zero =>
      have reached := deep [] .directory (by rwa [List.append_nil])
      exact absurd reached.2 (Nat.not_lt_zero _)
    | succ more =>
      refine walkWithin_eq_of_children tree filled holds read stands fun name directory => ?_
      obtain ⟨child, unblankChild⟩ := ofText?_child tree read unblank directory
      rw [List.append_assoc] at directory
      refine ih child unblankChild directory fun below item found => ?_
      have reached := deep (name :: below) item (by simpa using found)
      exact ⟨Nat.lt_of_succ_lt_succ reached.1, Nat.lt_of_succ_lt_succ reached.2⟩

omit tree in
/-- Every item of the tree is within the depth of the snapshot. -/
private theorem length_le_depth (linkFree : disk.IsLinkFree top) {item : Disk.Item}
    (stands : disk.item? (top ++ names) = some item) : names.length ≤ taken.depth := by
  have deep {path : TemplatePath} {content : Octets}
      (file : disk.item? (top ++ path) = some (.file content)) : path.length ≤ taken.depth :=
    Snapshot.depth_le_iff.mp (Nat.le_refl _) _ (holds.mem_keys_iff.mpr ⟨content, file⟩)
  cases item with
  | file content => exact deep stands
  | link target => exact absurd stands (linkFree names target)
  | directory =>
    by_cases root : names = []
    · rw [root]
      exact Nat.zero_le _
    · obtain ⟨below, content, -, file⟩ := filled names root stands
      rw [List.append_assoc] at file
      have longer := deep file
      rw [List.length_append] at longer
      exact Nat.le_trans (Nat.le_add_right _ _) longer

/-- Where no directory stands, or the path leaves the tree, both walks end alike. -/
private theorem walkWithin_eq_of_other
    (short : ¬IsOverlong disk (rootOf disk project templates) top path)
    (other : ∀ names, TemplatePath.ofText? path = some names →
      disk.item? (top ++ names) ≠ some .directory) :
    (taken.source projectRoot).walkWithin (fuel + 1) path =
      (source disk project templates).walkWithin (more + 1) path := by
  cases read : TemplatePath.ofText? path with
  | none =>
    have here : (taken.source projectRoot).list path = .error (.pathOutsideTemplates path) := by
      change taken.list path = _
      rw [Snapshot.list, readPath, read]
      rfl
    have there : (source disk project templates).list path =
        .error (.pathOutsideTemplates path) := by
      change list disk _ path = _
      rw [list, place_of_none read]
      rfl
    rw [Source.walkWithin_of_refused here rfl, Source.walkWithin_of_refused there rfl]
  | some names =>
    have here := snapshotList_of_ofText? tree filled holds read
    have there := tree.list_of_short read short
    rw [if_neg (other names read)] at here there
    have first : (taken.source projectRoot).walkWithin (fuel + 1) path = .ok [] :=
      Source.walkWithin_of_missing here rfl
    have second : (source disk project templates).walkWithin (more + 1) path = .ok [] :=
      Source.walkWithin_of_missing there rfl
    rw [first, second]

/-- A directory is walked alike when no path is too long once a name is put below it. -/
private theorem walk_eq_of_directory (read : TemplatePath.ofText? path = some names)
    (stands : disk.item? (top ++ names) = some .directory)
    (short : ∀ name, disk.item? (top ++ names ++ [name]) = some .directory →
      ¬IsOverlong disk (rootOf disk project templates) top (joinPath path name)) :
    (taken.source projectRoot).walk path = (source disk project templates).walk path := by
  by_cases unblank : ∀ c ∈ path.toList.getLast?, Text.isBlank c = false
  · refine walkWithin_eq_of_unblank tree filled holds read unblank stands fun below item found => ?_
    have onDisk := Disk.length_le_depthBound tree.wellFormed found
    rw [List.append_assoc] at found
    have inSnapshot := length_le_depth filled holds tree.linkFree found
    rw [List.length_append] at inSnapshot
    exact ⟨Nat.lt_of_le_of_lt (Nat.le_trans (Nat.le_add_left _ _) inSnapshot)
        (Nat.lt_add_of_pos_right (Nat.succ_pos 3)),
      Nat.lt_of_le_of_lt onDisk (Nat.lt_add_of_pos_right (Nat.succ_pos 3))⟩
  · simp only [not_forall, Bool.not_eq_false] at unblank
    obtain ⟨c, last, blank⟩ := unblank
    refine walkWithin_eq_of_children tree filled holds read stands fun name directory => ?_
    refine walkWithin_eq_of_other tree filled holds (short name directory) fun child childRead => ?_
    rw [List.append_assoc] at directory
    have isPlain := TemplatePath.isPlain_of_ofText? (tree.ofText?_text directory)
    rcases TemplatePath.ofText?_joinPath_of_blank read last blank with
      outside | ⟨above, final, ends, below⟩
    · cases (outside name isPlain).symm.trans childRead
    · cases (below name isPlain).symm.trans childRead
      rw [item?_eq_none_of_blank tree ends blank]
      simp

/-- What the snapshot answers where nothing stands. -/
private theorem snapshot_of_none (read : TemplatePath.ofText? path = some names)
    (none : disk.item? (top ++ names) = none) :
    taken.list path = .error (.snapshotDirectoryMissing path) ∧
      (taken.source projectRoot).exists? path = .ok false ∧
        (taken.source projectRoot).isDir? path = .ok false := by
  refine ⟨?_, ?_, ?_⟩
  · rw [snapshotList_of_ofText? tree filled holds read, none, if_neg (by simp)]
  · rw [Snapshot.exists?_of_ofText? _ read, isFile_or_isDir_eq tree filled holds, none]
    rfl
  · change (do return taken.isDir (← readPath path)) = _
    rw [readPath_eq_ok_iff.mpr read]
    exact congrArg Except.ok (by rw [isDir_eq_decide tree filled holds, none]; rfl)

/-- Where a path is too long, the snapshot walks nothing and the disk refuses to. -/
private theorem walk_of_isOverlong
    (overlong : IsOverlong disk (rootOf disk project templates) top path) :
    (taken.source projectRoot).walkWithin fuel path = .ok [] ∧ ∃ error,
      error.category = .system ∧
        (source disk project templates).walkWithin (more + 1) path = .error error := by
  obtain ⟨error, system, refused, -⟩ := tree.refused_of_isOverlong overlong
  obtain ⟨names, read, tooLong⟩ := overlong
  have none := tree.item?_of_isRefused tooLong
  obtain ⟨missing, -⟩ := @snapshot_of_none disk top taken _ path project templates ⟨"", []⟩ tree
    filled holds read none
  refine ⟨Source.walkWithin_of_missing missing rfl, error, system, ?_⟩
  exact Source.walkWithin_of_refused refused (by simp [Source.isMissing, system])

/-- Below a path that ends in a blank the snapshot finds nothing. -/
private theorem walkWithin_child_of_blank (read : TemplatePath.ofText? path = some names)
    {name : String} (stands : disk.item? (top ++ names ++ [name]) = some .directory)
    (overlong : IsOverlong disk (rootOf disk project templates) top (joinPath path name))
    {other : String} (directory : disk.item? (top ++ names ++ [other]) = some .directory) :
    (taken.source projectRoot).walkWithin (taken.depth + 3) (joinPath path other) = .ok [] := by
  obtain ⟨c, last, blank⟩ := endsInBlank_of_child tree read stands overlong
  have plain {other : String} (directory : disk.item? (top ++ names ++ [other]) = some .directory) :
      TemplatePath.IsPlain other := by
    rw [List.append_assoc] at directory
    exact TemplatePath.isPlain_of_ofText? (tree.ofText?_text directory)
  rcases TemplatePath.ofText?_joinPath_of_blank read last blank with
    outside | ⟨above, final, ends, below⟩
  · obtain ⟨_, also, _⟩ := overlong
    cases (outside name (plain stands)).symm.trans also
  · obtain ⟨missing, -⟩ := @snapshot_of_none disk top taken _ _ project templates projectRoot tree
      filled holds (below other (plain directory)) (item?_eq_none_of_blank tree ends blank)
    exact Source.walkWithin_of_missing missing rfl

/-- Where a path is too long only when a name is put below it, the snapshot walks it all the same,
and the disk does not. -/
private theorem walk_of_child (read : TemplatePath.ofText? path = some names) {name : String}
    (stands : disk.item? (top ++ names ++ [name]) = some .directory)
    (overlong : IsOverlong disk (rootOf disk project templates) top (joinPath path name)) :
    (∃ files, (taken.source projectRoot).walk path = .ok files) ∧
      ∀ files, (source disk project templates).walk path ≠ .ok files := by
  have entered := Disk.item?_above tree.wellFormed stands (List.cons_ne_nil _ _)
  constructor
  · have listed := snapshotList_of_ofText? tree filled holds read
    rw [if_pos entered] at listed
    have walk : (taken.source projectRoot).walk path = _ := Source.walkWithin_of_list listed
    obtain ⟨results, ran⟩ := @Outcome.exists_mapM_eq_ok _ _ _
      ((taken.source projectRoot).walkEntry (taken.depth + 3) path)
      (entriesAt disk (top ++ names)) fun entry member => by
        obtain ⟨other, -, rfl⟩ := List.mem_map.mp member
        rw [Source.walkEntry]
        split
        · next directory =>
          rw [walkWithin_child_of_blank tree filled holds read stands overlong
            (of_decide_eq_true directory)]
          exact ⟨_, rfl⟩
        · exact ⟨_, rfl⟩
    exact ⟨_, walk.trans (Outcome.map_eq_ok_iff.mpr ⟨results, ran, rfl⟩)⟩
  · intro files walked
    have listed := tree.list_of_directory read entered
    obtain ⟨-, error, -, refused⟩ :=
      @walk_of_isOverlong disk top taken (joinPath path name) project templates projectRoot tree
        filled holds 0 (disk.depthBound + 2) overlong
    have walk : (source disk project templates).walk path = _ := Source.walkWithin_of_list listed
    rw [walk, Outcome.map_eq_ok_iff] at walked
    obtain ⟨results, ran, -⟩ := walked
    have member : (⟨name, true⟩ : Entry) ∈ entriesAt disk (top ++ names) :=
      List.mem_map.mpr ⟨name, Disk.mem_namesIn_iff.mpr (Option.isSome_of_eq_some stands),
        by rw [decide_eq_true stands]⟩
    obtain ⟨result, -, found⟩ := Outcome.exists_mem_of_mapM ran member
    rw [Source.walkEntry, if_pos rfl] at found
    obtain ⟨below, walkedBelow, -⟩ := Outcome.bind_eq_ok_iff.mp found
    cases refused.symm.trans walkedBelow

/-- Where a path is not too long, what is asked about a path has the same outcome. -/
private theorem verdicts_eq_of_short
    (short : ¬IsOverlong disk (rootOf disk project templates) top path) :
    verdict ((taken.source projectRoot).list path) =
        verdict ((source disk project templates).list path) ∧
      verdict ((taken.source projectRoot).exists? path) =
        verdict ((source disk project templates).exists? path) ∧
      verdict ((taken.source projectRoot).isDir? path) =
        verdict ((source disk project templates).isDir? path) := by
  change verdict (taken.list path) = verdict (list disk _ path) ∧
    _ = verdict (do ask (disk.exists? (← place _ path))) ∧
      verdict (do return taken.isDir (← readPath path)) =
        verdict (do ask (disk.isDir? (← place _ path)))
  cases read : TemplatePath.ofText? path with
  | none =>
    have outside : readPath path = .error (.pathOutsideTemplates path) := by rw [readPath, read]
    have placed : place (rootOf disk project templates) path = _ := place_of_none read
    rw [Snapshot.list, list, outside, placed]
    refine ⟨rfl, ?_, rfl⟩
    change verdict (do
      let names ← readPath path
      return taken.isFile names || taken.isDir names) = _
    rw [outside]
    rfl
  | some names =>
    rw [tree.list_of_short read short, tree.exists?_of_short read short,
      tree.isDir?_of_short read short, snapshotList_of_ofText? tree filled holds read,
      Snapshot.exists?_of_ofText? _ read, isFile_or_isDir_eq tree filled holds]
    refine ⟨?_, rfl, ?_⟩
    · split <;> rfl
    · rw [readPath_eq_ok_iff.mpr read]
      exact congrArg Except.ok (isDir_eq_decide tree filled holds)

/-- Where a path is too long, the disk refuses what the snapshot answers. -/
private theorem verdicts_ne_of_isOverlong
    (overlong : IsOverlong disk (rootOf disk project templates) top path) :
    verdict ((taken.source projectRoot).list path) ≠
        verdict ((source disk project templates).list path) ∧
      verdict ((taken.source projectRoot).exists? path) ≠
        verdict ((source disk project templates).exists? path) ∧
      verdict ((taken.source projectRoot).isDir? path) ≠
        verdict ((source disk project templates).isDir? path) := by
  obtain ⟨error, system, list, exists', isDir⟩ := tree.refused_of_isOverlong overlong
  obtain ⟨names, read, tooLong⟩ := overlong
  obtain ⟨missing, absent, noDir⟩ := @snapshot_of_none disk top taken _ path project templates
    projectRoot tree filled holds read (tree.item?_of_isRefused tooLong)
  change verdict (taken.list path) ≠ verdict (Directory.list disk _ path) ∧
    _ ≠ verdict (do ask (disk.exists? (← place _ path))) ∧
      _ ≠ verdict (do ask (disk.isDir? (← place _ path)))
  rw [missing, absent, noDir, list, exists', isDir]
  simp only [verdict_error, system]
  simp [Error.category]

/-- Both walk alike exactly where neither the path nor the path of a directory in it is too long. -/
private theorem walks_agree_iff :
    verdict ((taken.source projectRoot).walk path) =
        verdict ((source disk project templates).walk path) ↔
      ¬IsOverlong disk (rootOf disk project templates) top path ∧
        ∀ names name, TemplatePath.ofText? path = some names →
          disk.item? (top ++ names ++ [name]) = some .directory →
            ¬IsOverlong disk (rootOf disk project templates) top (joinPath path name) := by
  constructor
  · intro equal
    refine ⟨fun overlong => ?_, fun names name read stands overlong => ?_⟩
    · obtain ⟨walked, error, -, refused⟩ :=
        @walk_of_isOverlong disk top taken path project templates projectRoot tree filled holds
          (taken.depth + 4) (disk.depthBound + 3) overlong
      have fails : (source disk project templates).walk path = .error error := refused
      have walks : (taken.source projectRoot).walk path = .ok [] := walked
      rw [walks, fails] at equal
      cases equal
    · obtain ⟨⟨files, walks⟩, refused⟩ := @walk_of_child disk top taken names path project templates
        projectRoot tree filled holds read name stands overlong
      rw [walks] at equal
      cases fails : (source disk project templates).walk path with
      | ok others => exact refused others fails
      | error error =>
        rw [fails] at equal
        cases equal
  · rintro ⟨short, children⟩
    by_cases directory : ∃ names, TemplatePath.ofText? path = some names ∧
        disk.item? (top ++ names) = some .directory
    · obtain ⟨names, read, stands⟩ := directory
      rw [walk_eq_of_directory tree filled holds read stands fun name => children names name read]
    · have walk : (taken.source projectRoot).walk path =
          (source disk project templates).walk path :=
        walkWithin_eq_of_other tree filled holds short fun names read stands =>
          directory ⟨names, read, stands⟩
      rw [walk]

end Walk

/-- A tree has a snapshot exactly if everything in it is within reach. The snapshot shows what the
disk shows, except for paths that are too long for the system, as a whole or in a name; walking a
path also asks for the directories in it. -/
theorem IsTree.shown_agree_iff {project : FilePath} {templates : String}
    (tree : IsTree disk (rootOf disk project templates) top) (filled : IsFilled disk top)
    (projectRoot : FilePath) :
    ((∃ taken, (snapshot disk (rootOf disk project templates)).outcome = .ok taken) ↔
      IsReachableTree disk (rootOf disk project templates) top) ∧
    ∀ taken, (snapshot disk (rootOf disk project templates)).outcome = .ok taken → ∀ path,
      (verdict ((taken.source projectRoot).list path) =
          verdict ((source disk project templates).list path) ↔
        ¬IsOverlong disk (rootOf disk project templates) top path) ∧
      (verdict ((taken.source projectRoot).exists? path) =
          verdict ((source disk project templates).exists? path) ↔
        ¬IsOverlong disk (rootOf disk project templates) top path) ∧
      (verdict ((taken.source projectRoot).isDir? path) =
          verdict ((source disk project templates).isDir? path) ↔
        ¬IsOverlong disk (rootOf disk project templates) top path) ∧
      (verdict ((taken.source projectRoot).walk path) =
          verdict ((source disk project templates).walk path) ↔
        ¬IsOverlong disk (rootOf disk project templates) top path ∧
          ∀ names name, TemplatePath.ofText? path = some names →
            disk.item? (top ++ names ++ [name]) = some .directory →
              ¬IsOverlong disk (rootOf disk project templates) top (joinPath path name)) := by
  refine ⟨tree.exists_snapshot_iff, fun taken made path => ?_⟩
  have reachable := tree.exists_snapshot_iff.mp ⟨taken, made⟩
  have holds := reachable.holds_of_snapshot made
  have same := @verdicts_eq_of_short disk top taken path project templates projectRoot reachable
    filled holds
  have differ := @verdicts_ne_of_isOverlong disk top taken path project templates projectRoot
    reachable filled holds
  exact ⟨⟨fun equal overlong => (differ overlong).1 equal, fun short => (same short).1⟩,
    ⟨fun equal overlong => (differ overlong).2.1 equal, fun short => (same short).2.1⟩,
    ⟨fun equal overlong => (differ overlong).2.2 equal, fun short => (same short).2.2⟩,
    walks_agree_iff reachable filled holds⟩

private theorem reviewDisk_isFilled : IsFilled reviewDisk ["templates"] := by
  intro names proper stands
  rw [Disk.item?, if_neg (by simp)] at stands
  have member := Entries.mem_of_get? stands
  simp only [reviewDisk, List.mem_cons, Prod.mk.injEq, List.cons_append, List.nil_append,
    List.cons.injEq, true_and, proper, and_true, reduceCtorEq, and_false,
    List.not_mem_nil, or_false, false_or] at member
  rw [member]
  exact ⟨["review.md"], Text.Utf8.encode "Review.\n", by simp, rfl⟩

/-- The directory of the command is listed and walked alike. -/
theorem reviewDisk_shown :
    ∃ taken, (snapshot reviewDisk (rootOf reviewDisk (FilePath.ofText "/") "templates")).outcome =
        .ok taken ∧
      verdict ((taken.source ⟨"/", []⟩).list "commands") =
        verdict ((source reviewDisk (FilePath.ofText "/") "templates").list "commands") ∧
      verdict ((taken.source ⟨"/", []⟩).walk "commands") =
        verdict ((source reviewDisk (FilePath.ofText "/") "templates").walk "commands") := by
  obtain ⟨possible, agree⟩ :=
    reviewDisk_isReachableTree.toIsTree.shown_agree_iff reviewDisk_isFilled ⟨"/", []⟩
  obtain ⟨taken, made⟩ := possible.mpr reviewDisk_isReachableTree
  have agree := agree taken made
  have read : TemplatePath.ofText? "commands" = some ["commands"] := by decide
  have short : ¬IsOverlong reviewDisk (rootOf reviewDisk (FilePath.ofText "/") "templates")
      ["templates"] "commands" := by
    rintro ⟨names, also, refused⟩
    cases read.symm.trans also
    cases reviewDisk_isReachableTree.item?_of_isRefused refused
  refine ⟨taken, made, (agree _).1.mpr short, (agree _).2.2.2.mpr ⟨short, ?_⟩⟩
  intro names name also stands
  cases read.symm.trans also
  rw [Disk.item?, if_neg (by simp)] at stands
  have member := Entries.mem_of_get? stands
  simp [reviewDisk] at member

def longName : String := String.ofList (List.replicate 256 'a')

private theorem toList_longName : longName.toList = List.replicate 256 'a' := String.toList_ofList

private theorem eq_of_mem_longName {c : Char} (member : c ∈ longName.toList) : c = 'a' := by
  rw [toList_longName] at member
  exact List.eq_of_mem_replicate member

private theorem longName_read : TemplatePath.ofText? longName = some [longName] := by
  have present : 'a' ∈ longName.toList := by
    rw [toList_longName]
    exact List.mem_replicate.mpr ⟨by decide, rfl⟩
  have isName : TemplatePath.IsName longName := {
    nonempty := fun same => by simp [same] at present
    notDot := fun same => by simp [same] at present
    notDots := fun same => by simp [same] at present
    noSlash := fun member => by cases eq_of_mem_longName member
    noBackslash := fun member => by cases eq_of_mem_longName member }
  have read : TemplatePath.ofText? (TemplatePath.text [longName]) = some [longName] := by
    rw [TemplatePath.ofText?_text_iff, TemplatePath.text_singleton, Text.trim_eq_self_iff]
    refine ⟨fun name member => List.mem_singleton.mp member ▸ isName, ⟨?_, ?_⟩, ?_⟩
    · exact fun c first => by rw [eq_of_mem_longName (List.mem_of_mem_head? first)]; rfl
    · exact fun c last => by rw [eq_of_mem_longName (List.mem_of_getLast? last)]; rfl
    · rw [toList_longName]
      rfl
  rwa [TemplatePath.text_singleton] at read

/-- A snapshot says of a name that is too long that there is no such directory, the disk fails. -/
theorem reviewDisk_longName :
    ∃ taken, (snapshot reviewDisk (rootOf reviewDisk (FilePath.ofText "/") "templates")).outcome =
        .ok taken ∧
      verdict ((taken.source ⟨"/", []⟩).list longName) = .error .notFound ∧
      verdict ((source reviewDisk (FilePath.ofText "/") "templates").list longName) =
        .error .system ∧
      verdict ((taken.source ⟨"/", []⟩).exists? longName) = .ok false ∧
      verdict ((source reviewDisk (FilePath.ofText "/") "templates").exists? longName) =
        .error .system := by
  obtain ⟨taken, made, holds⟩ := reviewDisk_isReachableTree.exists_snapshot
  have read : TemplatePath.ofText? longName = some ([] ++ [longName]) := longName_read
  have tooLong : IsTooLong reviewDisk ["templates"] [] longName [] := by
    refine ⟨rfl, by decide +kernel, fun name member null => ?_⟩
    rw [List.mem_singleton.mp member] at null
    cases eq_of_mem_longName null
  obtain ⟨missing, absent, -⟩ := @snapshot_of_none reviewDisk _ taken _ longName _ _ ⟨"/", []⟩
    reviewDisk_isReachableTree reviewDisk_isFilled holds read
    (reviewDisk_isReachableTree.item?_of_isRefused (.name tooLong))
  obtain ⟨error, system, list, exists', -⟩ :=
    reviewDisk_isReachableTree.refused_of_isOverlong ⟨_, read, .name tooLong⟩
  refine ⟨taken, made, ?_, ?_, ?_, ?_⟩
  · exact congrArg verdict missing
  · exact (congrArg verdict list).trans (congrArg Except.error system)
  · exact congrArg verdict absent
  · exact (congrArg verdict exists').trans (congrArg Except.error system)

end Directory

end EditorPlugins.Template
