import EditorPlugins.Proofs.Template.Snapshot
import EditorPlugins.Proofs.Text.Order
import Mathlib.Data.List.Infix
import Mathlib.Data.List.Nodup

/-! # Walking a snapshot

A snapshot has no directories of its own, so a walk follows the names that stand in the paths of its
files. The walk is told apart from the source: `pathsWithin` descends along names alone. Its paths
are the paths of the files below a directory, and they are in the order of their names, so that none
of them comes twice. A source walks them where every directory is read back from its text.
-/

namespace EditorPlugins.Template.Snapshot

open TemplatePath (text)

/-- No file stands below another file. -/
def IsPrefixFree (snapshot : Snapshot) : Prop :=
  ∀ path ∈ Entries.keys snapshot.files, ∀ other ∈ Entries.keys snapshot.files,
    path <+: other → path = other

instance (snapshot : Snapshot) : Decidable snapshot.IsPrefixFree :=
  inferInstanceAs (Decidable (∀ path ∈ Entries.keys snapshot.files,
    ∀ other ∈ Entries.keys snapshot.files, path <+: other → path = other))

/-- Every directory has a text that reading leaves as it is. -/
def IsNormal (snapshot : Snapshot) : Prop :=
  ∀ path, snapshot.isDir path = true → TemplatePath.IsNormal (text path)

/-- The paths of the files below a directory from there, going `fuel` names deep. -/
def pathsWithin (snapshot : Snapshot) : (fuel : Nat) → TemplatePath → List TemplatePath
  | 0, _ => []
  | fuel + 1, directory => (snapshot.names directory).flatMap fun name =>
    if snapshot.isDir (directory ++ [name]) then
      (pathsWithin snapshot fuel (directory ++ [name])).map (name :: ·)
    else [[name]]

variable {snapshot : Snapshot} {directory path below : TemplatePath} {name : String} {fuel : Nat}

section Paths

/-- A path goes on from a name in the directory: it ends there, or leads on in a directory. -/
theorem mem_pathsWithin_succ_iff : path ∈ snapshot.pathsWithin (fuel + 1) directory ↔
    ∃ name ∈ snapshot.names directory, ∃ below, path = name :: below ∧
      if snapshot.isDir (directory ++ [name]) then
        below ∈ snapshot.pathsWithin fuel (directory ++ [name])
      else below = [] := by
  rw [pathsWithin, List.mem_flatMap]
  refine exists_congr fun name => and_congr_right fun _ => ?_
  split
  · rw [List.mem_map]
    exact ⟨fun ⟨below, member, same⟩ => ⟨below, same.symm, member⟩,
      fun ⟨below, same, member⟩ => ⟨below, member, same.symm⟩⟩
  · simp

private theorem ne_nil_of_mem_pathsWithin (member : path ∈ snapshot.pathsWithin fuel directory) :
    path ≠ [] := by
  cases fuel with
  | zero => cases member
  | succ fuel =>
    obtain ⟨name, -, below, rfl, -⟩ := mem_pathsWithin_succ_iff.mp member
    exact List.cons_ne_nil _ _

private theorem pairwise_names (snapshot : Snapshot) (directory : TemplatePath) :
    (snapshot.names directory).Pairwise (· < ·) := by
  have ordered := Text.pairwise_mergeSort_names
    (distinct (snapshot.files.filterMap fun file => nameBelow? directory file.1))
  exact (ordered.and (snapshot.nodup_names directory)).imp fun ⟨le, ne⟩ =>
    Std.lt_of_le_of_ne le ne

/-- Paths through different names are in the order of these, and paths through the same name in the
order of what follows. -/
theorem pairwise_pathsWithin (snapshot : Snapshot) (fuel : Nat) (directory : TemplatePath) :
    (snapshot.pathsWithin fuel directory).Pairwise (· < ·) := by
  induction fuel generalizing directory with
  | zero => exact List.Pairwise.nil
  | succ fuel ih =>
    rw [pathsWithin, List.pairwise_flatMap]
    constructor
    · intro name _
      split
      · rw [List.pairwise_map]
        exact (ih _).imp fun before => List.cons_lt_cons_iff.mpr (.inr ⟨rfl, before⟩)
      · exact List.pairwise_singleton _ _
    · have starts {name : String} {path : TemplatePath}
          (member : path ∈ if snapshot.isDir (directory ++ [name]) then
            (pathsWithin snapshot fuel (directory ++ [name])).map (name :: ·) else [[name]]) :
          ∃ below, path = name :: below := by
        split at member
        · obtain ⟨below, -, rfl⟩ := List.mem_map.mp member
          exact ⟨below, rfl⟩
        · exact ⟨[], List.mem_singleton.mp member⟩
      refine (snapshot.pairwise_names directory).imp fun before path here other there => ?_
      obtain ⟨below, rfl⟩ := starts here
      obtain ⟨rest, rfl⟩ := starts there
      exact List.cons_lt_cons_iff.mpr (.inl before)

/-- A name that a file goes on below is a directory. -/
theorem isDir_of_below (proper : below ≠ [])
    (member : directory ++ name :: below ∈ Entries.keys snapshot.files) :
    snapshot.isDir (directory ++ [name]) = true :=
  isDir_iff.mpr (.inr ⟨below, proper, by simpa using member⟩)

/-- A file is no directory. -/
theorem IsPrefixFree.isDir_eq_false (apart : snapshot.IsPrefixFree)
    (proper : path ≠ []) (member : path ∈ Entries.keys snapshot.files) :
    snapshot.isDir path = false := by
  refine Bool.eq_false_iff.mpr fun isDir => ?_
  obtain root | ⟨below, more, found⟩ := isDir_iff.mp isDir
  · exact proper root
  · have same := apart _ member _ found (List.prefix_append _ _)
    exact more (List.self_eq_append_right.mp same)

/-- Going deep enough finds the files below a directory, and nothing else. -/
theorem mem_pathsWithin_iff (apart : snapshot.IsPrefixFree)
    (deep : ∀ below, directory ++ below ∈ Entries.keys snapshot.files → below.length ≤ fuel) :
    path ∈ snapshot.pathsWithin fuel directory ↔
      path ≠ [] ∧ directory ++ path ∈ Entries.keys snapshot.files := by
  induction fuel generalizing directory path with
  | zero =>
    refine iff_of_false (fun member => nomatch member) fun ⟨proper, member⟩ => ?_
    exact proper (List.length_eq_zero_iff.mp (Nat.le_zero.mp (deep path member)))
  | succ fuel ih =>
    have deeper (name : String) (below : TemplatePath)
        (member : directory ++ [name] ++ below ∈ Entries.keys snapshot.files) :
        below.length ≤ fuel :=
      Nat.le_of_succ_le_succ (deep (name :: below) (by simpa using member))
    rw [mem_pathsWithin_succ_iff]
    constructor
    · rintro ⟨name, inside, below, rfl, found⟩
      refine ⟨List.cons_ne_nil _ _, ?_⟩
      split at found
      · simpa using ((ih (deeper name)).mp found).2
      · next noDir =>
        -- Some file goes through the name, and as nothing stands below, it ends there.
        obtain ⟨rest, member⟩ := mem_names_iff.mp inside
        by_cases ends : rest = []
        · rwa [found, ← ends]
        · exact absurd (isDir_of_below ends member) noDir
    · rintro ⟨proper, member⟩
      obtain ⟨name, below, rfl⟩ := List.exists_cons_of_ne_nil proper
      refine ⟨name, mem_names_iff.mpr ⟨below, member⟩, below, rfl, ?_⟩
      by_cases ends : below = []
      · rw [ends] at member ⊢
        rw [apart.isDir_eq_false (by simp) member]
        rfl
      · rw [isDir_of_below ends member]
        exact (ih (deeper name)).mpr ⟨ends, by simpa using member⟩

end Paths

section Walk

variable {projectRoot : FilePath} {files : Entries String Octets}

/-- The names that lead to a directory stand in the path of a file. -/
theorem isName_of_isDir (bundled : ofFiles files = .ok snapshot)
    (isDir : snapshot.isDir directory = true) :
    ∀ name ∈ directory, TemplatePath.IsName name := by
  obtain rfl | ⟨below, -, member⟩ := isDir_iff.mp isDir
  · exact fun _ member => nomatch member
  · exact fun name inside => isName_of_ofFiles bundled _ member name (List.mem_append_left _ inside)

theorem isName_of_mem_names (bundled : ofFiles files = .ok snapshot)
    (inside : name ∈ snapshot.names directory) : TemplatePath.IsName name := by
  obtain ⟨below, member⟩ := mem_names_iff.mp inside
  exact isName_of_ofFiles bundled _ member name (by simp)

/-- A source walks the paths of a snapshot whose directories are read back from their texts. -/
theorem walkWithin_text (bundled : ofFiles files = .ok snapshot) (normal : snapshot.IsNormal)
    (isDir : snapshot.isDir directory = true) (fuel : Nat) :
    (snapshot.source projectRoot).walkWithin fuel (text directory) =
      .ok ((snapshot.pathsWithin fuel directory).map text) := by
  induction fuel generalizing directory with
  | zero => rfl
  | succ fuel ih =>
    have plain : ∀ name ∈ directory, name ≠ "" ∧ '/' ∉ name.toList := fun name member =>
      have isName := isName_of_isDir bundled isDir name member
      ⟨isName.nonempty, isName.noSlash⟩
    have read := TemplatePath.ofText?_text_of_isNormal plain (normal _ isDir)
    have listed : (snapshot.source projectRoot).list (text directory) =
        .ok (snapshot.entries directory) := (list_of_ofText? read).trans (if_pos isDir)
    let found (entry : Entry) : List TemplatePath :=
      if entry.isDir then (snapshot.pathsWithin fuel (directory ++ [entry.name])).map (entry.name :: ·)
      else [[entry.name]]
    have each : ∀ entry ∈ snapshot.entries directory,
        (snapshot.source projectRoot).walkEntry fuel (text directory) entry =
          .ok ((found entry).map text) := by
      intro entry member
      obtain ⟨name, inside, rfl⟩ := List.mem_map.mp member
      have noSlash := (isName_of_mem_names bundled inside).noSlash
      cases enters : snapshot.isDir (directory ++ [name]) with
      | true =>
        have below : ∀ path ∈ snapshot.pathsWithin fuel (directory ++ [name]),
            name ++ "/" ++ text path = text (name :: path) := fun path member =>
          (TemplatePath.text_cons name (ne_nil_of_mem_pathsWithin member)).symm
        simp only [Source.walkEntry, found, if_true, TemplatePath.joinPath_text plain noSlash,
          ih enters, List.map_map]
        exact congrArg Except.ok (List.map_map.trans (List.map_congr_left below))
      | false => simp [Source.walkEntry, found, TemplatePath.text_singleton]
    rw [Source.walkWithin_of_list listed, Outcome.mapM_eq_ok_map each, pathsWithin,
      List.map_flatMap, entries]
    simp [Except.map, found, List.flatMap_def, List.map_map, Function.comp_def]

end Walk

/-- Where no file stands below another one and every directory is read back from its text, a walk of
a directory gives the files below it, each once, in the order of the names in their paths. -/
theorem walk_enumerates {files : Entries String Octets} (bundled : ofFiles files = .ok snapshot)
    (apart : snapshot.IsPrefixFree) (normal : snapshot.IsNormal) (projectRoot : FilePath)
    (isDir : snapshot.isDir directory = true) :
    ∃ paths : List TemplatePath,
      (snapshot.source projectRoot).walk (text directory) = .ok (paths.map text) ∧
      (∀ below, below ∈ paths ↔ directory ++ below ∈ Entries.keys snapshot.files) ∧
      paths.Pairwise (· < ·) ∧ (paths.map text).Nodup := by
  have deep : ∀ below, directory ++ below ∈ Entries.keys snapshot.files →
      below.length ≤ snapshot.depth + 4 := fun below member => by
    have long := depth_le_iff.mp (Nat.le_refl snapshot.depth) _ member
    rw [List.length_append] at long
    omega
  have ordered := snapshot.pairwise_pathsWithin (snapshot.depth + 4) directory
  have found (below : TemplatePath) :
      below ∈ snapshot.pathsWithin (snapshot.depth + 4) directory ↔
        below ≠ [] ∧ directory ++ below ∈ Entries.keys snapshot.files :=
    mem_pathsWithin_iff apart deep
  refine ⟨_, walkWithin_text bundled normal isDir _, fun below => ?_, ordered, ?_⟩
  · refine (found below).trans (and_iff_right_of_imp fun member root => ?_)
    rw [root, List.append_nil] at member
    have proper := (exists_ofText?_of_ofFiles bundled _ member).1
    exact Bool.false_ne_true ((apart.isDir_eq_false proper member).symm.trans isDir)
  · have plain {below : TemplatePath} (member : below ∈ snapshot.pathsWithin _ directory) :
        ∀ name ∈ below, name ≠ "" ∧ '/' ∉ name.toList := fun name inside =>
      have isName := isName_of_ofFiles bundled _ ((found below).mp member).2 name
        (List.mem_append_right _ inside)
      ⟨isName.nonempty, isName.noSlash⟩
    refine List.Nodup.map_on (fun below member other also same =>
      TemplatePath.text_inj (plain member) (plain also) same) (ordered.imp fun before => ?_)
    rintro rfl
    exact List.lt_irrefl _ before

/-- The directories are the beginnings of the paths of files. -/
theorem isNormal_of_inits (normal : ∀ file ∈ Entries.keys snapshot.files, ∀ above ∈ file.inits,
    TemplatePath.IsNormal (text above)) : snapshot.IsNormal := by
  intro path isDir
  obtain rfl | ⟨below, -, member⟩ := isDir_iff.mp isDir
  · rfl
  · exact normal _ member path ((List.mem_inits _ _).mpr (List.prefix_append _ _))

/-- Files whose paths are written in several ways, where a directory stands beside a file whose name
goes on from its own. -/
def skillFiles : Entries String Octets :=
  [("./skills\\memo/refs/deep.md", []), ("skills/memo-short.md", []), ("skills/memo/b.md", []),
    ("skills/memo/a /../a.md", [])]

def skillSnapshot : Snapshot where
  files :=
    [(["skills", "memo", "refs", "deep.md"], []), (["skills", "memo-short.md"], []),
      (["skills", "memo", "b.md"], []), (["skills", "memo", "a.md"], [])]

theorem skillSnapshot_walk : ofFiles skillFiles = .ok skillSnapshot ∧
    skillSnapshot.IsPrefixFree ∧ skillSnapshot.IsNormal ∧
    skillSnapshot.isDir ["skills"] = true ∧
    ∃ paths : List TemplatePath,
      (skillSnapshot.source ⟨"/", []⟩).walk "skills" = .ok (paths.map text) ∧
      (∀ below, below ∈ paths ↔ ["skills"] ++ below ∈ Entries.keys skillSnapshot.files) ∧
      paths.Pairwise (· < ·) ∧ (paths.map text).Nodup :=
  have bundled : ofFiles skillFiles = .ok skillSnapshot := by rfl
  have apart : skillSnapshot.IsPrefixFree := by decide
  have normal : skillSnapshot.IsNormal := isNormal_of_inits (by decide +kernel)
  have isDir : skillSnapshot.isDir ["skills"] = true := by decide
  ⟨bundled, apart, normal, isDir, walk_enumerates bundled apart normal ⟨"/", []⟩ isDir⟩

end EditorPlugins.Template.Snapshot
