import EditorPlugins.Proofs.Path.Child
import EditorPlugins.Proofs.Template.Walk

/-! # No walk of a snapshot is cut short

Walks and trees are bounded in how deep they go. The bound of a snapshot is never reached: reading a
path may miss a few of the names that a walk has put below each other, but all others stand in the
path of some file. So a walk that may go deeper finds the same files.
-/

namespace EditorPlugins.Template

namespace Source

/-- A walk from a path ends before it comes to directories that are nested `depth` deep. -/
def EndsWithin (source : Source) : (depth : Nat) → String → Prop
  | 0, _ => False
  | depth + 1, path => ∀ entries, source.list path = .ok entries → ∀ entry ∈ entries,
    entry.isDir = true → EndsWithin source depth (joinPath path entry.name)

namespace EndsWithin

variable {source : Source} {depth fuel : Nat} {path : String}

/-- A walk that may go deeper finds nothing more. -/
theorem walkWithin_eq (ends : source.EndsWithin depth path) (deep : depth ≤ fuel) :
    source.walkWithin fuel path = source.walkWithin depth path := by
  induction depth generalizing fuel path with
  | zero => exact ends.elim
  | succ depth ih =>
    cases fuel with
    | zero => exact absurd deep (Nat.not_succ_le_zero _)
    | succ fuel =>
      cases listed : source.list path with
      | error error => rw [walkWithin, walkWithin, listed]
      | ok entries =>
        rw [walkWithin_of_list listed, walkWithin_of_list listed]
        refine congrArg _ (Outcome.mapM_congr fun entry member => ?_)
        unfold walkEntry
        split
        · next isDir =>
          rw [ih (ends entries listed entry member isDir) (Nat.le_of_succ_le_succ deep)]
        · rfl

/-- A tree that may go deeper shows nothing more. -/
theorem treeWithin_eq (ends : source.EndsWithin depth path) (deep : depth ≤ fuel) :
    source.treeWithin fuel path = source.treeWithin depth path := by
  induction depth generalizing fuel path with
  | zero => exact ends.elim
  | succ depth ih =>
    cases fuel with
    | zero => exact absurd deep (Nat.not_succ_le_zero _)
    | succ fuel =>
      rw [treeWithin_succ, treeWithin_succ, entries]
      cases listed : source.list path with
      | error error =>
        by_cases missing : isMissing error = true
        · simp [missing]
        · simp only [missing]
          rfl
      | ok entries =>
        simp only [pure_bind]
        refine congrArg (· >>= _) (Outcome.mapM_congr fun entry member => ?_)
        unfold treeEntry
        split
        · rfl
        · split
          · next isDir =>
            rw [ih (ends entries listed entry member isDir) (Nat.le_of_succ_le_succ deep)]
          · rfl

end EndsWithin

end Source

namespace Snapshot

variable {snapshot : Snapshot} {files : Entries String Octets}

/-- Some path goes on below every directory that is listed. -/
theorem exists_of_listed {projectRoot : FilePath} {path : String} {entries : List Entry}
    (listed : (snapshot.source projectRoot).list path = .ok entries) {entry : Entry}
    (member : entry ∈ entries) (isDir : entry.isDir = true) :
    ∃ names, TemplatePath.ofText? path = some names ∧ entry.name ∈ snapshot.names names ∧
      names.length + 2 ≤ snapshot.depth := by
  obtain ⟨names, read, found⟩ := Outcome.bind_eq_ok_iff.mp listed
  split at found
  · cases found
    obtain ⟨name, inside, rfl⟩ := List.mem_map.mp member
    refine ⟨names, readPath_eq_ok_iff.mp read, inside, ?_⟩
    obtain root | ⟨below, proper, there⟩ := isDir_iff.mp isDir
    · simp at root
    · have long := depth_le_iff.mp (Nat.le_refl snapshot.depth) _ there
      have more := List.length_pos_iff.mpr proper
      simp only [List.length_append, List.length_cons, List.length_nil] at long
      omega
  · cases found

/-- A walk that has put some names below each other ends in time. -/
theorem endsWithin_joined (bundled : ofFiles files = .ok snapshot) (projectRoot : FilePath)
    (path : String) {names : TemplatePath} {depth : Nat}
    (isName : ∀ name ∈ names, TemplatePath.IsName name)
    (deep : snapshot.depth + 2 ≤ names.length + depth) :
    (snapshot.source projectRoot).EndsWithin (depth + 1) (names.foldl joinPath path) := by
  induction depth generalizing names with
  | zero =>
    intro entries listed entry member isDir
    obtain ⟨found, read, -, bound⟩ := exists_of_listed listed member isDir
    have short := TemplatePath.length_le_of_joined isName read
    omega
  | succ depth ih =>
    intro entries listed entry member isDir
    obtain ⟨found, -, inside, -⟩ := exists_of_listed listed member isDir
    have joined : joinPath (names.foldl joinPath path) entry.name =
        (names ++ [entry.name]).foldl joinPath path := by
      rw [List.foldl_append]
      rfl
    rw [joined]
    refine ih (List.forall_mem_append.mpr ⟨isName, ?_⟩) ?_
    · exact List.forall_mem_singleton.mpr (isName_of_mem_names bundled inside)
    · rw [List.length_append, List.length_singleton]
      omega

/-- Walks and trees of a snapshot go as deep as there are directories to enter. -/
theorem endsWithin_walkFuel (bundled : ofFiles files = .ok snapshot) (projectRoot : FilePath)
    (path : String) :
    (snapshot.source projectRoot).EndsWithin (snapshot.source projectRoot).walkFuel path := by
  refine @endsWithin_joined _ _ bundled projectRoot path [] (snapshot.depth + 3) ?_ ?_
  · exact fun _ member => nomatch member
  · rw [List.length_nil]
    omega

end Snapshot

end EditorPlugins.Template
