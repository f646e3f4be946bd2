import EditorPlugins.Proofs.Template.Depth
import EditorPlugins.Proofs.Template.Orderly

/-! # A tree is a walk without what is not shown

A walk goes through all directories below a path, a tree only through those that are shown. What a
tree leaves out can be told from the paths alone: hidden names anywhere in them, and ignored
directories above their last name. So the tree of a directory is its walk with the other paths, in
their order.
-/

namespace EditorPlugins.Template

open Text

/-- Whether the file at a path is shown: no name is hidden, and no directory above it is ignored. -/
def isShown (path : TemplatePath) : Bool :=
  path.all (fun name => !isHidden name) &&
    path.dropLast.all fun name => !ignoredDirectories.contains name

def namesBetween (text : String) : TemplatePath := (pieces '/' text.toList).map String.ofList

def shownPaths (paths : List String) : List String :=
  paths.filter fun path => isShown (namesBetween path)

section Names

variable {name : String}

private theorem namesBetween_of_noSlash (noSlash : '/' ∉ name.toList) : namesBetween name =
    [name] := by
  rw [namesBetween, pieces_of_not_mem noSlash, List.map_singleton, String.ofList_toList]

private theorem namesBetween_below (noSlash : '/' ∉ name.toList) (file : String) :
    namesBetween (name ++ "/" ++ file) = name :: namesBetween file := by
  have written : (name ++ "/" ++ file).toList = name.toList ++ '/' :: file.toList := by simp
  rw [namesBetween, written, pieces_append _ noSlash, List.map_cons, String.ofList_toList]
  rfl

private theorem isShown_singleton (name : String) : isShown [name] = !isHidden name := by
  simp [isShown]

/-- A file below a directory is shown if the directory is, and the file from there. -/
theorem isShown_cons (name : String) {below : TemplatePath} (nonempty : below ≠ []) :
    isShown (name :: below) =
      (!isHidden name && !ignoredDirectories.contains name && isShown below) := by
  rw [isShown, isShown, List.all_cons, List.dropLast_cons_of_ne_nil nonempty, List.all_cons]
  simp only [Bool.and_assoc, Bool.and_left_comm]

private theorem shownPaths_singleton (noSlash : '/' ∉ name.toList) :
    shownPaths [name] = if isHidden name then [] else [name] := by
  rw [shownPaths, List.filter_singleton, namesBetween_of_noSlash noSlash, isShown_singleton]
  cases isHidden name <;> rfl

private theorem shownPaths_below (noSlash : '/' ∉ name.toList) (files : List String) :
    shownPaths (files.map fun file => name ++ "/" ++ file) =
      if isHidden name || ignoredDirectories.contains name then []
      else (shownPaths files).map fun file => name ++ "/" ++ file := by
  have shown (file : String) : isShown (namesBetween (name ++ "/" ++ file)) =
      (!(isHidden name || ignoredDirectories.contains name) && isShown (namesBetween file)) := by
    rw [namesBetween_below noSlash, isShown_cons _ (by simp [namesBetween, pieces_ne_nil]),
      Bool.not_or]
  rw [shownPaths, List.filter_map, shownPaths]
  simp only [Function.comp_def, shown]
  cases isHidden name || ignoredDirectories.contains name <;> simp

end Names

namespace Source

variable {source : Source} {fuel : Nat} {directory : String} {files : List String}

/-- At an entry, a tree shows what a walk finds there and is shown. -/
theorem treeEntry_of_walkEntry {entry : Entry} (noSlash : '/' ∉ entry.name.toList)
    (below : ∀ files, source.walkWithin fuel (joinPath directory entry.name) = .ok files →
      (source.treeWithin fuel (joinPath directory entry.name)).outcome = .ok (shownPaths files))
    (walked : source.walkEntry fuel directory entry = .ok files) :
    (source.treeEntry fuel directory entry).outcome = .ok (shownPaths files) := by
  unfold walkEntry at walked
  unfold treeEntry
  split at walked
  · next isDir =>
    obtain ⟨inner, ran, written⟩ := Outcome.bind_eq_ok_iff.mp walked
    cases written
    rw [shownPaths_below noSlash]
    by_cases hidden : isHidden entry.name = true
    · simp [hidden]
    · by_cases ignored : entry.name ∈ ignoredDirectories
      · simp [hidden, isDir, ignored]
      · simp [hidden, isDir, ignored, below inner ran]
  · next isFile =>
    cases walked
    rw [shownPaths_singleton noSlash]
    by_cases hidden : isHidden entry.name = true
    · simp [hidden]
    · simp [hidden, isFile]

/-- A tree shows those files of the walk that are shown. -/
theorem IsOrderly.treeWithin_of_walkWithin (orderly : source.IsOrderly)
    (walked : source.walkWithin fuel directory = .ok files) :
    (source.treeWithin fuel directory).outcome = .ok (shownPaths files) := by
  induction fuel generalizing directory files with
  | zero =>
    cases walked
    rfl
  | succ fuel ih =>
    rw [treeWithin_succ_eq_ok_iff, outcome_entries]
    cases listed : source.list directory with
    | error error =>
      cases missing : isMissing error with
      | true =>
        rw [walkWithin_of_missing listed missing] at walked
        cases walked
        exact ⟨[], by simp [missing], [], rfl, rfl⟩
      | false =>
        rw [walkWithin_of_refused listed missing] at walked
        cases walked
    | ok entries =>
      rw [walkWithin_of_list listed] at walked
      obtain ⟨results, ran, rfl⟩ := Outcome.map_eq_ok_iff.mp walked
      have each : ∀ entry ∈ entries, ∀ result, source.walkEntry fuel directory entry = .ok result →
          ∃ other, (source.treeEntry fuel directory entry).outcome = .ok other ∧
            shownPaths result = id other := fun entry member result found =>
        have noSlash := (orderly.plain _ _ listed entry member).2
        ⟨_, treeEntry_of_walkEntry noSlash (fun files => ih) found, rfl⟩
      obtain ⟨others, shown, same⟩ := Outcome.exists_mapM_map ran each
      rw [List.map_id] at same
      refine ⟨entries, rfl, others, shown, ?_⟩
      rw [shownPaths, List.filter_flatten, ← same]
      rfl

end Source

namespace Snapshot

variable {files : Entries String Octets} {snapshot : Snapshot}

/-- Where a walk of a snapshot returns, the tree of the directory is the walk without the paths that
are not shown, in the same order. Neither of them is cut short: they do not change where they may go
deeper. -/
theorem tree_of_walk (bundled : ofFiles files = .ok snapshot) (projectRoot : FilePath)
    (directory : String) {paths : List String}
    (walked : (snapshot.source projectRoot).walk directory = .ok paths) :
    ((snapshot.source projectRoot).tree directory).outcome =
        .ok (paths.filter fun path => isShown (namesBetween path)) ∧
      ∀ fuel, (snapshot.source projectRoot).walkFuel ≤ fuel →
        (snapshot.source projectRoot).walkWithin fuel directory =
          (snapshot.source projectRoot).walk directory ∧
        (snapshot.source projectRoot).treeWithin fuel directory =
          (snapshot.source projectRoot).tree directory := by
  have orderly := (Source.IsTemplates.snapshot bundled projectRoot).isOrderly
  refine ⟨orderly.treeWithin_of_walkWithin walked, fun fuel deep => ?_⟩
  have ends := endsWithin_walkFuel bundled projectRoot directory
  exact ⟨ends.walkWithin_eq deep, ends.treeWithin_eq deep⟩

/-- A hidden file, a file in an ignored directory, and a file that only has the name of one. -/
def vendoredFiles : Entries String Octets :=
  [("skills/.draft.md", []), ("skills\\docs/node_modules", []), ("./skills/node_modules/a.md", [])]

def vendoredSnapshot : Snapshot where
  files :=
    [(["skills", ".draft.md"], []), (["skills", "docs", "node_modules"], []),
      (["skills", "node_modules", "a.md"], [])]

private theorem vendoredSnapshot_list {text : String} {path : TemplatePath} {names : List String}
    (read : TemplatePath.ofText? text = some path) (isDir : vendoredSnapshot.isDir path = true)
    (below : distinct (vendoredSnapshot.files.filterMap fun file => nameBelow? path file.1) = names)
    (ordered : names.Pairwise fun a b => decide (a ≤ b) = true) :
    (vendoredSnapshot.source ⟨"/", []⟩).list text =
      .ok (names.map fun name => ⟨name, vendoredSnapshot.isDir (path ++ [name])⟩) := by
  refine (list_of_ofText? read).trans ?_
  rw [if_pos isDir, entries, Snapshot.names, below, List.mergeSort_of_pairwise ordered]

private theorem vendoredSnapshot_walk : (vendoredSnapshot.source ⟨"/", []⟩).walk "skills" =
    .ok [".draft.md", "docs/node_modules", "node_modules/a.md"] := by
  have skills : (vendoredSnapshot.source ⟨"/", []⟩).list "skills" =
      .ok [⟨".draft.md", false⟩, ⟨"docs", true⟩, ⟨"node_modules", true⟩] :=
    @vendoredSnapshot_list _ ["skills"] _ (by decide) (by decide) rfl (by decide)
  have docs : (vendoredSnapshot.source ⟨"/", []⟩).list (joinPath "skills" "docs") =
      .ok [⟨"node_modules", false⟩] :=
    @vendoredSnapshot_list _ ["skills", "docs"] _ (by decide) (by decide) rfl (by decide)
  have modules : (vendoredSnapshot.source ⟨"/", []⟩).list (joinPath "skills" "node_modules") =
      .ok [⟨"a.md", false⟩] :=
    @vendoredSnapshot_list _ ["skills", "node_modules"] _ (by decide) (by decide) rfl (by decide)
  rw [Source.walk, Source.walkFuel, Source.walkWithin_of_list skills]
  simp only [List.mapM_cons, Source.walkEntry, Source.walkWithin_of_list docs,
    Source.walkWithin_of_list modules]
  rfl

theorem vendoredSnapshot_tree : ofFiles vendoredFiles = .ok vendoredSnapshot ∧
    (vendoredSnapshot.source ⟨"/", []⟩).walk "skills" =
      .ok [".draft.md", "docs/node_modules", "node_modules/a.md"] ∧
    ((vendoredSnapshot.source ⟨"/", []⟩).tree "skills").outcome = .ok ["docs/node_modules"] ∧
    (vendoredSnapshot.source ⟨"/", []⟩).walkFuel ≤ 9 ∧
    (vendoredSnapshot.source ⟨"/", []⟩).treeWithin 9 "skills" =
      (vendoredSnapshot.source ⟨"/", []⟩).tree "skills" :=
  have bundled : ofFiles vendoredFiles = .ok vendoredSnapshot := by rfl
  have enough : (vendoredSnapshot.source ⟨"/", []⟩).walkFuel ≤ 9 := by decide
  have ⟨shown, deeper⟩ := tree_of_walk bundled ⟨"/", []⟩ "skills" vendoredSnapshot_walk
  ⟨bundled, vendoredSnapshot_walk, shown.trans (congrArg Except.ok (by decide +kernel)), enough,
    (deeper 9 enough).2⟩

end Snapshot

end EditorPlugins.Template
