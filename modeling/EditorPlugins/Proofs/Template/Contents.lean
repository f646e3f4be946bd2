import EditorPlugins.Proofs.Template.Bundle
import EditorPlugins.Proofs.Template.Leads

/-! # What a snapshot reads and what the disk reads

A snapshot knows files, and says of everything else that it is missing. The disk says so of a path
that ends at a name which is not there. Of a directory, of a path below a file and of a path that
the system refuses for its length or for a name in it, the disk says something else, so that a text
that is optional in the snapshot is an error on the disk.
-/

namespace EditorPlugins.Template.Directory

/-- Names that lead to a file of the tree, or to a name that is not there on a path that is short
enough for the system. -/
inductive IsFileOrAbsent (disk : Disk) (root : FilePath) (top : Disk.Location) :
    TemplatePath → Prop where
  | file {names : TemplatePath} {content : Octets}
      (stands : disk.item? (top ++ names) = some (.file content)) :
      IsFileOrAbsent disk root top names
  | absent {above : TemplatePath} {name : String} {rest : List String}
      (gone : IsAbsent disk top above name rest) (near : IsWithin root (above ++ name :: rest)) :
      IsFileOrAbsent disk root top (above ++ name :: rest)

variable {disk : Disk} {root : FilePath} {top : Disk.Location} {taken : Snapshot}
  {names : TemplatePath} {path : String}

section Answers

variable (tree : IsReachableTree disk root top)

theorem readBytes_of_ofText? (read : TemplatePath.ofText? path = some names) :
    readBytes disk root path =
      match disk.readFile (root.append ⟨"", names⟩) with
      | .ok content => .ok content
      | .error failure =>
        match failure.reason with
        | .notFound => .error (.templateMissing path)
        | .nullInName => .error (.disk failure)
        | _ => .error (.templateUnreadable path failure) := by
  rw [readBytes, place_eq_ok_iff.mpr ⟨names, read, rfl⟩]
  rfl

include tree

/-- What leads neither to a file nor to a name that is not there cannot be read, and it is not said
to be missing. -/
theorem IsReachableTree.readBytes_of_not (read : TemplatePath.ofText? path = some names)
    (other : ¬IsFileOrAbsent disk root top names) :
    ∃ error, readBytes disk root path = .error error ∧ Source.isMissing error = false := by
  rw [readBytes_of_ofText? read, Disk.readFile]
  have leads := tree.leads_lookup (notDots_of_ofText? read)
  generalize disk.lookup (root.append ⟨"", names⟩) = answer at leads ⊢
  cases leads with
  | @stands _ item stands =>
    cases item with
    | directory => exact ⟨_, rfl, rfl⟩
    | file content => exact absurd (.file stands) other
    | link target => exact absurd stands (tree.linkFree names target)
  | absent gone near => exact absurd (.absent gone near) other
  | blocked => exact ⟨_, rfl, rfl⟩
  | refused => exact ⟨_, rfl, rfl⟩
  | null => exact ⟨_, rfl, rfl⟩

end Answers

section Reads

variable (tree : IsReachableTree disk root top) (holds : Holds taken disk top)

include tree holds

/-- Where a path leads to a file or to a name that is not there, a snapshot reads what the disk
reads. -/
private theorem verdict_readBytes_eq
    (leads : ∀ names, TemplatePath.ofText? path = some names → IsFileOrAbsent disk root top names) :
    verdict (taken.readBytes path) = verdict (readBytes disk root path) := by
  cases read : TemplatePath.ofText? path with
  | none =>
    rw [Snapshot.readBytes, readBytes, place_of_none read, readPath, read]
    rfl
  | some names =>
    generalize named : names = whole at *
    cases leads whole read with
    | @file _ content stands =>
      have found := tree.readBytes_eq_ok_iff.mpr ⟨_, read, stands⟩
      rw [found, readBytes_of_readBytes tree holds found]
    | absent gone near =>
      have missing := tree.readBytes_of_isAbsent gone near read
      rw [missing, readBytes_missing tree holds missing rfl]
      rfl

/-- Where a path leads elsewhere, the snapshot misses what the disk refuses. -/
private theorem exists_refused (read : TemplatePath.ofText? path = some names)
    (other : ¬IsFileOrAbsent disk root top names) :
    taken.readBytes path = .error (.snapshotMissing path) ∧
      ∃ error, readBytes disk root path = .error error ∧ Source.isMissing error = false := by
  refine ⟨?_, tree.readBytes_of_not read other⟩
  rw [Snapshot.readBytes_of_ofText? read]
  cases found : Entries.get? taken.files names with
  | none => rfl
  | some content => exact absurd (.file ((holds names content).mp found)) other

end Reads

/-- A tree has a snapshot exactly if everything in it is within reach. The snapshot reads what the
disk reads, bytes as well as text, exactly at the paths that lead to a file or to a name that is not
there. -/
theorem IsTree.contents_agree_iff {project : FilePath} {templates : String}
    (tree : IsTree disk (rootOf disk project templates) top) (projectRoot : FilePath) :
    ((∃ taken, (snapshot disk (rootOf disk project templates)).outcome = .ok taken) ↔
      IsReachableTree disk (rootOf disk project templates) top) ∧
    ∀ taken, (snapshot disk (rootOf disk project templates)).outcome = .ok taken → ∀ path,
      (verdict ((taken.source projectRoot).readBytes path) =
          verdict ((source disk project templates).readBytes path) ↔
        ∀ names, TemplatePath.ofText? path = some names →
          IsFileOrAbsent disk (rootOf disk project templates) top names) ∧
      (verdict ((taken.source projectRoot).readText? path) =
          verdict ((source disk project templates).readText? path) ↔
        ∀ names, TemplatePath.ofText? path = some names →
          IsFileOrAbsent disk (rootOf disk project templates) top names) := by
  refine ⟨tree.exists_snapshot_iff, fun taken made path => ?_⟩
  have reachable := tree.exists_snapshot_iff.mp ⟨taken, made⟩
  have holds := reachable.holds_of_snapshot made
  have agree := @verdict_readBytes_eq disk _ top taken path reachable holds
  refine ⟨⟨fun same names read => ?_, agree⟩,
    ⟨fun same names read => ?_, fun leads => Source.verdict_readText?_congr (agree leads)⟩⟩
  · by_contra other
    obtain ⟨missing, error, refused, present⟩ := exists_refused reachable holds read other
    change verdict (taken.readBytes path) = verdict (readBytes disk _ path) at same
    rw [missing, refused, verdict_error, verdict_error, Except.error.injEq] at same
    rw [Source.isMissing, ← same] at present
    cases present
  · by_contra other
    obtain ⟨missing, error, refused, present⟩ := exists_refused reachable holds read other
    -- Only what is missing counts as no text, so the refusal of the disk stays an error.
    have absent : (taken.source projectRoot).readText? path = .ok none :=
      Source.readText?_eq_none_iff.mpr ⟨_, missing, rfl⟩
    have fails : (source disk project templates).readText? path = .error error :=
      Source.readText?_of_refused refused present
    rw [absent, fails] at same
    cases same

def reviewDisk : Disk where
  here := []
  items :=
    [(["templates"], .directory), (["templates", "commands"], .directory),
      (["templates", "commands", "review.md"], .file (Text.Utf8.encode "Review.\n"))]

private theorem reviewDisk_root :
    rootOf reviewDisk (FilePath.ofText "/") "templates" = ⟨"/", ["templates"]⟩ := by cbv

private theorem reviewDisk_isWellFormed : reviewDisk.IsWellFormed where
  distinct := by decide
  legal := by decide +kernel
  above := by decide
  start := rfl

private theorem mem_reviewNames {names : TemplatePath}
    (present : (reviewDisk.item? (["templates"] ++ names)).isSome) :
    names ∈ ([[], ["commands"], ["commands", "review.md"]] : List TemplatePath) := by
  have member : ["templates"] ++ names ∈ Entries.keys reviewDisk.items := by
    rwa [← Entries.get?_isSome_iff]
  simpa [reviewDisk, Entries.keys] using member

theorem reviewDisk_isReachableTree :
    IsReachableTree reviewDisk (rootOf reviewDisk (FilePath.ofText "/") "templates")
      ["templates"] where
  wellFormed := reviewDisk_isWellFormed
  leads := by
    have short : ¬255 < "templates".utf8ByteSize := by decide +kernel
    rw [reviewDisk_root, Disk.lookup_eq_ok_iff]
    refine ⟨by decide +kernel, ?_⟩
    simp [Disk.walk, reviewDisk, Disk.item?, Entries.get?, Disk.nameLimit, Disk.base, short]
  linkFree := Disk.isLinkFree_of_items (by simp [reviewDisk]) _
  normal := by
    intro names present
    have each : ∀ names ∈ [[], ["commands"], ["commands", "review.md"]],
        TemplatePath.IsNormal (TemplatePath.text names) := by decide
    exact each names (mem_reviewNames present)
  within := by
    rw [reviewDisk_root]
    intro names present
    have each : ∀ names ∈ [[], ["commands"], ["commands", "review.md"]],
        IsWithin ⟨"/", ["templates"]⟩ names := by decide +kernel
    exact each names (mem_reviewNames present)

/-- The command is read alike from the disk and from a snapshot. -/
theorem reviewDisk_contents :
    ∃ taken, (snapshot reviewDisk (rootOf reviewDisk (FilePath.ofText "/") "templates")).outcome =
        .ok taken ∧
      verdict ((taken.source ⟨"/", []⟩).readText? "commands/review.md") =
        verdict ((source reviewDisk (FilePath.ofText "/") "templates").readText?
          "commands/review.md") := by
  obtain ⟨possible, agree⟩ := reviewDisk_isReachableTree.toIsTree.contents_agree_iff ⟨"/", []⟩
  obtain ⟨taken, made⟩ := possible.mpr reviewDisk_isReachableTree
  have read : TemplatePath.ofText? "commands/review.md" = some ["commands", "review.md"] := by
    decide
  refine ⟨taken, made, (agree taken made _).2.mpr fun names also => ?_⟩
  cases read.symm.trans also
  exact .file rfl

/-- Below the command there is no text in a snapshot, and it is an error to ask for one on the
disk. -/
theorem reviewDisk_belowFile :
    ∃ taken, (snapshot reviewDisk (rootOf reviewDisk (FilePath.ofText "/") "templates")).outcome =
        .ok taken ∧
      verdict ((taken.source ⟨"/", []⟩).readText? "commands/review.md/x") = .ok none ∧
      verdict ((source reviewDisk (FilePath.ofText "/") "templates").readText?
        "commands/review.md/x") = .error .source := by
  obtain ⟨taken, made, holds⟩ := reviewDisk_isReachableTree.exists_snapshot
  have read : TemplatePath.ofText? "commands/review.md/x" =
      some ["commands", "review.md", "x"] := by decide
  have missing : taken.readBytes "commands/review.md/x" =
      .error (.snapshotMissing "commands/review.md/x") := by
    rw [Snapshot.readBytes_of_ofText? read]
    cases found : Entries.get? taken.files ["commands", "review.md", "x"] with
    | none => rfl
    | some content => cases (holds _ _).mp found
  have absent : (taken.source ⟨"/", []⟩).readText? "commands/review.md/x" = .ok none :=
    Source.readText?_eq_none_iff.mpr ⟨_, missing, rfl⟩
  have blocked : reviewDisk.lookup ⟨"/", ["templates", "commands", "review.md", "x"]⟩ =
      .error .notDirectory := by
    have short : ¬255 < "templates".utf8ByteSize ∧ ¬255 < "commands".utf8ByteSize ∧
        ¬255 < "review.md".utf8ByteSize := by decide +kernel
    have taken : Disk.refusal? ⟨"/", ["templates", "commands", "review.md", "x"]⟩ = none := by
      decide +kernel
    simp [Disk.lookup, taken, Disk.walk, reviewDisk, Disk.item?, Entries.get?, Disk.nameLimit,
      Disk.base, short]
  have fails : readBytes reviewDisk (rootOf reviewDisk (FilePath.ofText "/") "templates")
      "commands/review.md/x" = .error (.templateUnreadable "commands/review.md/x"
        ⟨.notDirectory, (FilePath.mk "/" ["templates", "commands", "review.md", "x"]).text⟩) := by
    have appended : (FilePath.mk "/" ["templates"]).append ⟨"", ["commands", "review.md", "x"]⟩ =
        ⟨"/", ["templates", "commands", "review.md", "x"]⟩ := rfl
    rw [readBytes_of_ofText? read, reviewDisk_root, appended, Disk.readFile, blocked]
  have refused : (source reviewDisk (FilePath.ofText "/") "templates").readText?
      "commands/review.md/x" = _ := Source.readText?_of_refused fails rfl
  exact ⟨taken, made, by rw [absent, verdict_ok], by rw [refused]; rfl⟩

end EditorPlugins.Template.Directory
