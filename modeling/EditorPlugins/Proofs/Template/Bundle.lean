import EditorPlugins.Proofs.Template.Directory
import EditorPlugins.Proofs.Template.Mirror
import EditorPlugins.Proofs.Text.Order

/-! # A snapshot mirrors the tree that it was taken of

A snapshot of a tree without links answers from the paths of its files alone. It gives the answers
of the disk, except that the disk knows directories in which there are no files.
-/

namespace EditorPlugins.Template.Directory

variable {disk : Disk} {root : FilePath} {top : Disk.Location} {taken : Snapshot}
  {names : TemplatePath} {path : String} {projectRoot : FilePath}

section Held

variable (holds : Holds taken disk top)

include holds

theorem Holds.mem_keys_iff : names ∈ Entries.keys taken.files ↔
    ∃ content, disk.item? (top ++ names) = some (.file content) := by
  rw [← Entries.get?_isSome_iff, Option.isSome_iff_exists]
  exact exists_congr (holds names)

/-- A directory of the snapshot has a file below it. -/
theorem Holds.isDir_iff : taken.isDir names = true ↔
    names = [] ∨ ∃ below content, below ≠ [] ∧
      disk.item? (top ++ names ++ below) = some (.file content) := by
  rw [Snapshot.isDir_iff]
  refine or_congr Iff.rfl (exists_congr fun below => ?_)
  rw [holds.mem_keys_iff, List.append_assoc]
  exact exists_and_left.symm

theorem Holds.mem_names_iff {name : String} : name ∈ taken.names names ↔
    ∃ below content, disk.item? (top ++ names ++ [name] ++ below) = some (.file content) := by
  rw [Snapshot.mem_names_iff]
  refine exists_congr fun below => ?_
  rw [holds.mem_keys_iff]
  simp only [List.append_assoc, List.singleton_append]

end Held

section Entries

variable (tree : IsReachableTree disk root top) (holds : Holds taken disk top)

include tree holds

/-- Directories of the snapshot are directories of the disk. -/
theorem item?_of_isDir (isDir : taken.isDir names = true) :
    disk.item? (top ++ names) = some .directory := by
  rcases holds.isDir_iff.mp isDir with rfl | ⟨below, content, proper, found⟩
  · rw [List.append_nil]
    exact tree.stands
  · exact Disk.item?_above tree.wellFormed found proper

/-- A name of the snapshot is one of the disk, at which a file stands or a directory with files. -/
private theorem mem_names_iff_kept {name : String} : name ∈ taken.names names ↔
    name ∈ disk.namesIn (top ++ names) ∧
      (disk.item? (top ++ names ++ [name]) ≠ some .directory ∨
        taken.isDir (names ++ [name]) = true) := by
  have isDir : taken.isDir (names ++ [name]) = true ↔ ∃ below content, below ≠ [] ∧
      disk.item? (top ++ names ++ [name] ++ below) = some (.file content) := by
    rw [holds.isDir_iff]
    simp only [List.append_eq_nil_iff, List.cons_ne_self, and_false, false_or, List.append_assoc]
  rw [holds.mem_names_iff, Disk.mem_namesIn_iff, isDir]
  constructor
  · rintro ⟨below, content, found⟩
    by_cases last : below = []
    · rw [last, List.append_nil] at found
      exact ⟨Option.isSome_of_eq_some found, .inl fun other => by cases found.symm.trans other⟩
    · have entered := Disk.item?_above tree.wellFormed found last
      exact ⟨Option.isSome_of_eq_some entered, .inr ⟨below, content, last, found⟩⟩
  · rintro ⟨present, file | ⟨below, content, -, found⟩⟩
    · obtain ⟨item, stands⟩ := Option.isSome_iff_exists.mp present
      cases item with
      | directory => exact absurd stands file
      | file content => exact ⟨[], content, by rwa [List.append_nil]⟩
      | link target =>
        rw [List.append_assoc] at stands
        exact absurd stands (tree.linkFree _ target)
    · exact ⟨below, content, found⟩

private theorem names_eq_filter : taken.names names =
    (disk.namesIn (top ++ names)).filter fun name =>
      disk.item? (top ++ names ++ [name]) ≠ some .directory || taken.isDir (names ++ [name]) := by
  have ascending := Text.pairwise_mergeSort_names
  refine Text.eq_of_sorted (ascending _) ((ascending _).sublist List.filter_sublist)
    (Snapshot.nodup_names taken names)
    ((Disk.nodup_namesIn tree.wellFormed _).sublist List.filter_sublist) fun name => ?_
  rw [List.mem_filter, mem_names_iff_kept tree holds, Bool.or_eq_true, decide_eq_true_iff]

/-- The snapshot shows the entries of the disk, apart from directories without files. -/
theorem entries_eq_filter : taken.entries names =
    (entriesAt disk (top ++ names)).filter fun entry =>
      !entry.isDir || taken.isDir (names ++ [entry.name]) := by
  rw [Snapshot.entries, names_eq_filter tree holds, entriesAt, List.filter_map]
  have kept : (fun name => decide (disk.item? (top ++ names ++ [name]) ≠ some .directory) ||
      taken.isDir (names ++ [name])) =
        (fun entry : Entry => !entry.isDir || taken.isDir (names ++ [entry.name])) ∘ fun name =>
          ⟨name, decide (disk.item? (top ++ names ++ [name]) = some .directory)⟩ := by
    funext name
    simp
  rw [kept]
  refine List.map_congr_left fun name member => ?_
  have present := (List.mem_filter.mp member).2
  simp only [Function.comp_apply, Bool.or_eq_true, Bool.not_eq_true', decide_eq_false_iff_not]
    at present
  rw [Entry.mk.injEq, Bool.eq_iff_iff, decide_eq_true_iff]
  refine ⟨rfl, fun isDir => ?_, fun stands => present.resolve_left (not_not_intro stands)⟩
  rw [List.append_assoc]
  exact item?_of_isDir tree holds isDir

end Entries

section Answers

variable (tree : IsReachableTree disk root top) (holds : Holds taken disk top)

include tree holds

/-- What the disk reads, the snapshot has. -/
theorem readBytes_of_readBytes {content : Octets} (found : readBytes disk root path = .ok content) :
    taken.readBytes path = .ok content := by
  obtain ⟨names, read, stands⟩ := tree.readBytes_eq_ok_iff.mp found
  rw [Snapshot.readBytes_of_ofText? read, (holds names content).mpr stands]

/-- What the disk misses, the snapshot misses. -/
theorem readBytes_missing {error : Error} (asked : readBytes disk root path = .error error)
    (missing : Source.isMissing error = true) :
    taken.readBytes path = .error (.snapshotMissing path) := by
  obtain ⟨names, read⟩ := exists_of_readBytes_missing asked missing
  rw [Snapshot.readBytes_of_ofText? read]
  cases found : Entries.get? taken.files names with
  | none => rfl
  | some content =>
    have there := tree.readBytes_eq_ok_iff.mpr ⟨names, read, (holds names content).mp found⟩
    rw [there] at asked
    cases asked

end Answers

section Trees

/-- A directory with an empty tree adds no files. -/
private theorem treeEntry_eq_nil {source : Source} {fuel : Nat} {directory name : String}
    {files : List String}
    (empty : ∀ below, (source.treeWithin fuel (joinPath directory name)).outcome = .ok below →
      below = [])
    (ran : (source.treeEntry fuel directory ⟨name, true⟩).outcome = .ok files) : files = [] := by
  unfold Source.treeEntry at ran
  split at ran
  · exact (Except.ok.inj ran).symm
  · rw [if_pos rfl] at ran
    split at ran
    · exact (Except.ok.inj ran).symm
    · rw [Traced.bind_eq_ok_iff] at ran
      obtain ⟨below, found, written⟩ := ran
      rw [empty below found] at written
      exact (Except.ok.inj written).symm

/-- The files at an entry follow those below it. -/
private theorem treeEntry_follows {mirror source : Source} {fuel more : Nat} {directory : String}
    {entry : Entry}
    (below : entry.isDir = true → Traced.Follows
      (mirror.treeWithin fuel (joinPath directory entry.name))
      (source.treeWithin more (joinPath directory entry.name))) :
    Traced.Follows (mirror.treeEntry fuel directory entry)
      (source.treeEntry more directory entry) := by
  unfold Source.treeEntry
  split
  · exact Traced.Follows.refl _
  · split
    · next isDir =>
      split
      · exact Traced.Follows.refl _
      · exact (below isDir).bind fun _ => Traced.Follows.refl _
    · exact Traced.Follows.refl _

/-- No file stands below some names. -/
private def IsBare (disk : Disk) (top : Disk.Location) (names : TemplatePath) : Prop :=
  ∀ below content, below ≠ [] → disk.item? (top ++ names ++ below) ≠ some (.file content)

private theorem IsBare.child (bare : IsBare disk top names) (name : String) :
    IsBare disk top (names ++ [name]) := by
  intro below content proper found
  rw [← List.append_assoc, List.append_assoc (top ++ names)] at found
  exact bare _ content (List.cons_ne_nil _ _) found

/-- What the snapshot does not know as a directory has no files below it. -/
private theorem isBare_of_isDir (holds : Holds taken disk top)
    (unknown : taken.isDir names = false) : IsBare disk top names :=
  fun below content proper found => Bool.eq_false_iff.mp unknown
    (holds.isDir_iff.mpr (.inr ⟨below, content, proper, found⟩))

variable (tree : IsReachableTree disk root top)

include tree

/-- Joining the name of an item to the path of its directory leads to the item. -/
private theorem joinPath_child {name : String} {item : Disk.Item}
    (stands : disk.item? (top ++ (names ++ [name])) = some item) :
    joinPath (TemplatePath.text names) name = TemplatePath.text (names ++ [name]) := by
  have legal := Disk.isLegalName_of_item? tree.wellFormed stands
  refine TemplatePath.joinPath_text (fun other member => ?_) (legal name (by simp)).noSlash
  have inside := legal other (by simp [member])
  exact ⟨inside.nonempty, inside.noSlash⟩

variable {source : Source} (lists : source.list = list disk root)

include lists

/-- Where no file stands below a directory, none is shown. -/
private theorem eq_nil_of_isBare {fuel : Nat} {files : List String} (bare : IsBare disk top names)
    (read : TemplatePath.ofText? (TemplatePath.text names) = some names)
    (ran : (source.treeWithin fuel (TemplatePath.text names)).outcome = .ok files) :
    files = [] := by
  induction fuel generalizing names files with
  | zero => exact (Except.ok.inj ran).symm
  | succ fuel ih =>
    obtain ⟨entries, shown, results, ran, rfl⟩ := Source.treeWithin_succ_eq_ok_iff.mp ran
    obtain ⟨other, also, rfl⟩ := tree.eq_entriesAt lists shown
    cases read.symm.trans also
    refine List.flatten_eq_nil_iff.mpr fun result member => ?_
    obtain ⟨entry, present, found⟩ := Outcome.exists_of_mem_mapM ran member
    obtain ⟨name, inside, rfl⟩ := List.mem_map.mp present
    obtain ⟨item, stands⟩ := Option.isSome_iff_exists.mp (Disk.mem_namesIn_iff.mp inside)
    rw [stands] at found
    cases item with
    | file content => exact absurd stands (bare [name] content (List.cons_ne_nil _ _))
    | link target =>
      rw [List.append_assoc] at stands
      exact absurd stands (tree.linkFree _ target)
    | directory =>
      rw [List.append_assoc] at stands
      refine treeEntry_eq_nil (fun below deeper => ?_) found
      rw [joinPath_child tree stands] at deeper
      exact ih (bare.child name) (tree.ofText?_text stands) deeper

variable (holds : Holds taken disk top)

include holds

/-- The tree of a directory, where it goes deep enough for the files below it, is the same in the
snapshot. -/
private theorem treeWithin_follows {fuel more : Nat} (deeper : fuel ≤ more)
    (read : TemplatePath.ofText? (TemplatePath.text names) = some names)
    (deep : ∀ below content, disk.item? (top ++ names ++ below) = some (.file content) →
      below.length ≤ fuel) :
    Traced.Follows ((taken.source projectRoot).treeWithin fuel (TemplatePath.text names))
      (source.treeWithin more (TemplatePath.text names)) := by
  intro files ran
  induction fuel generalizing names more files with
  | zero =>
    have bare : IsBare disk top names := fun below content proper found =>
      proper (List.length_eq_zero_iff.mp (Nat.le_zero.mp (deep below content found)))
    rw [eq_nil_of_isBare tree lists bare read ran]
    rfl
  | succ fuel ih =>
    obtain ⟨more, rfl⟩ := Nat.exists_eq_succ_of_ne_zero (Nat.ne_of_gt (Nat.lt_of_lt_of_le
      (Nat.succ_pos fuel) deeper))
    obtain ⟨entries, shown, results, ran, rfl⟩ := Source.treeWithin_succ_eq_ok_iff.mp ran
    obtain ⟨other, also, rfl⟩ := tree.eq_entriesAt lists shown
    cases read.symm.trans also
    let keep (entry : Entry) := !entry.isDir || taken.isDir (names ++ [entry.name])
    let mirror := taken.source projectRoot
    have run : ∃ others, (((entriesAt disk (top ++ names)).filter keep).mapM fun entry =>
        (mirror.treeEntry fuel (TemplatePath.text names) entry).outcome) = .ok others ∧
          others.flatMap id = results.flatMap id := by
      refine Outcome.exists_mapM_filter ran (fun entry present _ result found => ?_)
        (fun entry present dropped result found => ?_)
      · refine ⟨result, treeEntry_follows (fun isDir files ran => ?_) result found, rfl⟩
        obtain ⟨name, inside, rfl⟩ := List.mem_map.mp present
        have stands := of_decide_eq_true isDir
        rw [List.append_assoc] at stands
        rw [joinPath_child tree stands] at ran ⊢
        refine ih (Nat.le_of_succ_le_succ deeper) (tree.ofText?_text stands)
          (fun below content found => ?_) _ ran
        rw [← List.append_assoc, List.append_assoc (top ++ names)] at found
        exact Nat.le_of_succ_le_succ (deep _ content found)
      · obtain ⟨name, inside, rfl⟩ := List.mem_map.mp present
        simp only [keep, Bool.or_eq_false_iff, Bool.not_eq_false'] at dropped
        have stands := of_decide_eq_true dropped.1
        have bare := isBare_of_isDir holds dropped.2
        rw [stands] at found
        rw [List.append_assoc] at stands
        refine treeEntry_eq_nil (fun below deeper => ?_) found
        rw [joinPath_child tree stands] at deeper
        exact eq_nil_of_isBare tree lists bare (tree.ofText?_text stands) deeper
    obtain ⟨others, kept, same⟩ := run
    refine Source.treeWithin_succ_eq_ok_iff.mpr
      ⟨_, Snapshot.outcome_entries projectRoot read, others, ?_, ?_⟩
    · rw [entries_eq_filter tree holds]
      exact kept
    · simpa only [List.flatMap_id] using same

end Trees

section Mirror

variable {project : FilePath} {templates : String}
  (tree : IsReachableTree disk (rootOf disk project templates) top) (holds : Holds taken disk top)

include tree

/-- A directory has no text, and it is not missing either. -/
private theorem readText?_of_directory (read : TemplatePath.ofText? path = some names)
    (stands : disk.item? (top ++ names) = some .directory) (text? : Option String) :
    (source disk project templates).readText? path ≠ .ok text? := by
  have refused := tree.readBytes_of_directory read stands
  intro found
  cases text? with
  | none =>
    obtain ⟨error, asked, missing⟩ := Source.readText?_eq_none_iff.mp found
    cases refused.symm.trans asked
    cases missing
  | some text =>
    obtain ⟨content, asked, -⟩ :=
      Source.readText_eq_ok_iff.mp (Source.readText?_eq_some_iff.mp found)
    cases refused.symm.trans asked

private theorem isHollow_of_isBare (bare : IsBare disk top names) (nonempty : names ≠ [])
    (stands : disk.item? (top ++ names) = some .directory) :
    (source disk project templates).IsHollow (TemplatePath.text names) := by
  have read := tree.ofText?_text stands
  have isName := TemplatePath.isName_of_ofText? read
  constructor
  · intro order found
    have orderName : TemplatePath.IsName Compose.orderFile := by constructor <;> decide
    have joined : joinPath (TemplatePath.text names) Compose.orderFile =
        TemplatePath.text (names ++ [Compose.orderFile]) :=
      TemplatePath.joinPath_text (fun name member =>
        ⟨(isName name member).nonempty, (isName name member).noSlash⟩) orderName.noSlash
    have unblank : ∀ c ∈ Compose.orderFile.toList.getLast?, Text.isBlank c = false := by
      rintro c ⟨⟩
      rfl
    have below := TemplatePath.ofText?_text_child read nonempty orderName unblank
    rw [joined, Source.readText?_eq_some_iff, Source.readText_eq_ok_iff] at found
    obtain ⟨content, there, -⟩ := found
    obtain ⟨other, also, file⟩ := tree.readBytes_eq_ok_iff.mp there
    cases below.symm.trans also
    rw [← List.append_assoc] at file
    exact bare _ content (List.cons_ne_nil _ _) file
  · exact fun files ran => eq_nil_of_isBare tree rfl bare read ran

include holds

private theorem depth_le_depthBound : taken.depth ≤ disk.depthBound := by
  refine Snapshot.depth_le_iff.mpr fun names member => ?_
  obtain ⟨content, found⟩ := holds.mem_keys_iff.mp member
  exact Disk.length_le_depthBound tree.wellFormed found

/-- Whatever the disk knows, the snapshot knows too, if it is not a directory without files. -/
private theorem exists?_of_exists? {found : Bool}
    (asked : (source disk project templates).exists? path = .ok found) :
    (taken.source projectRoot).exists? path = .ok found ∨
      (found = true ∧ (taken.source projectRoot).exists? path = .ok false ∧
        ∀ text?, (source disk project templates).readText? path ≠ .ok text?) := by
  obtain ⟨names, read, rfl⟩ := tree.eq_isSome_of_exists? asked
  have noFile (other : ∀ content, disk.item? (top ++ names) ≠ some (.file content)) :
      taken.isFile names = false := by
    refine Bool.eq_false_iff.mpr fun isFile => ?_
    obtain ⟨content, stands⟩ := holds.mem_keys_iff.mp (Snapshot.isFile_iff.mp isFile)
    exact other content stands
  rw [Snapshot.exists?_of_ofText? _ read]
  cases stands : disk.item? (top ++ names) with
  | none =>
    have noDir : taken.isDir names = false := Bool.eq_false_iff.mpr fun isDir => by
      cases stands.symm.trans (item?_of_isDir tree holds isDir)
    rw [noFile (by simp [stands]), noDir]
    exact .inl rfl
  | some item =>
    cases item with
    | file content =>
      have isFile := Snapshot.isFile_iff.mpr (holds.mem_keys_iff.mpr ⟨content, stands⟩)
      rw [isFile]
      exact .inl rfl
    | directory =>
      rw [noFile (by simp [stands])]
      cases taken.isDir names with
      | true => exact .inl rfl
      | false => exact .inr ⟨rfl, rfl, readText?_of_directory tree read stands⟩
    | link target => exact absurd stands (tree.linkFree names target)

/-- The tree of a directory is the same in the snapshot: both sources go deep enough for it. -/
private theorem tree_follows (stands : disk.item? (top ++ names) = some .directory) :
    Traced.Follows ((taken.source projectRoot).tree (TemplatePath.text names))
      ((source disk project templates).tree (TemplatePath.text names)) := by
  refine treeWithin_follows tree rfl holds ?_ (tree.ofText?_text stands) ?_
  · exact Nat.add_le_add_right (depth_le_depthBound tree holds) 4
  · intro below content found
    rw [List.append_assoc] at found
    have long := Snapshot.depth_le_iff.mp (Nat.le_refl taken.depth) _
      (holds.mem_keys_iff.mpr ⟨content, found⟩)
    rw [List.length_append] at long
    exact Nat.le_trans (Nat.le_trans (Nat.le_add_left _ _) long) (Nat.le_add_right _ 4)

/-- A snapshot mirrors the tree that it was taken of. -/
theorem IsReachableTree.mirrors :
    (taken.source (disk.settled project)).Mirrors (source disk project templates) := by
  refine ⟨rfl, fun path content => readBytes_of_readBytes tree holds,
    fun path error asked missing => ⟨_, readBytes_missing tree holds asked missing, rfl⟩,
    fun path found => exists?_of_exists? tree holds, fun directory entries shown => ?_⟩
  obtain ⟨names, read, rfl⟩ := tree.eq_entriesAt rfl shown
  refine ⟨fun name => taken.isDir (names ++ [name]), ?_, fun normal name member => ?_⟩
  · rw [Snapshot.outcome_entries _ read, entries_eq_filter tree holds]
  · obtain ⟨other, also, written⟩ := Option.map_eq_some_iff.mp normal
    cases read.symm.trans also
    obtain ⟨inside, found, same⟩ := List.mem_map.mp member
    rw [Entry.mk.injEq] at same
    obtain ⟨rfl, isDir⟩ := same
    have stands := of_decide_eq_true isDir
    rw [List.append_assoc] at stands
    rw [← written, joinPath_child tree stands]
    exact ⟨tree_follows tree holds stands, fun unknown =>
      isHollow_of_isBare tree (isBare_of_isDir holds unknown) (by simp) stands⟩

end Mirror

end EditorPlugins.Template.Directory
