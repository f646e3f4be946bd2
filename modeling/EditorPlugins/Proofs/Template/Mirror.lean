import EditorPlugins.Compose.Composition
import EditorPlugins.Proofs.Follows
import EditorPlugins.Proofs.Path.TemplatePath
import EditorPlugins.Proofs.Template.Source
import EditorPlugins.Template.Artifact

/-! # Sources that mirror others

One source mirrors another when it gives every answer that the other one gives, except that it need
not know directories without files. Such a directory is not composable and has an empty tree, so
what is listed, read and composed from the mirror is what the mirrored source gives.
-/

namespace EditorPlugins.Template.Source

open Compose Traced

/-- A directory in which nothing is found: it has no order, and no file is shown below it. -/
structure IsHollow (source : Source) (directory : String) : Prop where
  noOrder : ∀ order, source.readText? (joinPath directory orderFile) ≠ .ok (some order)
  bare : ∀ files, (source.tree directory).outcome = .ok files → files = []

/-- A source that answers like another one, apart from directories without files. -/
structure Mirrors (mirror source : Source) : Prop where
  projectRoot : mirror.projectRoot = source.projectRoot
  readBytes : ∀ path content, source.readBytes path = .ok content →
    mirror.readBytes path = .ok content
  missing : ∀ path error, source.readBytes path = .error error → isMissing error = true →
    ∃ other, mirror.readBytes path = .error other ∧ isMissing other = true
  exists? : ∀ path found, source.exists? path = .ok found →
    mirror.exists? path = .ok found ∨ (found = true ∧ mirror.exists? path = .ok false ∧
      ∀ text?, source.readText? path ≠ .ok text?)
  entries : ∀ directory entries, (source.entries directory).outcome = .ok entries →
    ∃ keep : String → Bool,
      (mirror.entries directory).outcome =
        .ok (entries.filter fun entry => !entry.isDir || keep entry.name) ∧
      (TemplatePath.IsNormal directory → ∀ name, ⟨name, true⟩ ∈ entries →
        Follows (mirror.tree (joinPath directory name)) (source.tree (joinPath directory name)) ∧
          (keep name = false → source.IsHollow (joinPath directory name)))

namespace Mirrors

variable {mirror source : Source} (mirrors : mirror.Mirrors source)

include mirrors

theorem readText {path text : String} (found : source.readText path = .ok text) :
    mirror.readText path = .ok text := by
  obtain ⟨content, read, decoded⟩ := readText_eq_ok_iff.mp found
  exact readText_eq_ok_iff.mpr ⟨content, mirrors.readBytes path content read, decoded⟩

theorem readText? {path : String} {text? : Option String}
    (found : source.readText? path = .ok text?) : mirror.readText? path = .ok text? := by
  cases text? with
  | some text =>
    exact readText?_eq_some_iff.mpr (mirrors.readText (readText?_eq_some_iff.mp found))
  | none =>
    obtain ⟨error, asked, missing⟩ := readText?_eq_none_iff.mp found
    exact readText?_eq_none_iff.mpr (mirrors.missing path error asked missing)

/-- A mirror shows the same files. -/
private theorem filter_entries {directory : String} (shown : Entry → Bool)
    (isFile : ∀ entry, shown entry = true → entry.isDir = false) :
    Follows (do return ((← mirror.entries directory).filter shown).map Entry.name)
      (do return ((← source.entries directory).filter shown).map Entry.name) := by
  intro names ran
  rw [bind_eq_ok_iff] at ran ⊢
  obtain ⟨entries, listed, found⟩ := ran
  obtain ⟨keep, kept, -⟩ := mirrors.entries directory entries listed
  refine ⟨_, kept, ?_⟩
  rw [← found, List.filter_filter]
  have same : (fun entry : Entry => shown entry && (!entry.isDir || keep entry.name)) = shown := by
    funext entry
    cases plain : shown entry with
    | false => rfl
    | true => simp [isFile entry plain]
  rw [same]

theorem markdownFiles (directory : String) :
    Follows (mirror.markdownFiles directory) (source.markdownFiles directory) := by
  refine mirrors.filter_entries _ fun entry shown => ?_
  simp only [isPlainFile, Bool.and_eq_true, Bool.not_eq_true'] at shown
  exact shown.1.1

theorem plainFiles (directory : String) :
    Follows (mirror.plainFiles directory) (source.plainFiles directory) := by
  refine mirrors.filter_entries _ fun entry shown => ?_
  simp only [isPlainFile, Bool.and_eq_true, Bool.not_eq_true'] at shown
  exact shown.1

/-- A mirror shows the same directories, apart from those in which nothing is found. -/
theorem subdirectories {directory : String} (normal : TemplatePath.IsNormal directory)
    {names : List String} (ran : (source.subdirectories directory).outcome = .ok names) :
    ∃ keep : String → Bool, (mirror.subdirectories directory).outcome = .ok (names.filter keep) ∧
      ∀ name ∈ names,
        Follows (mirror.tree (joinPath directory name)) (source.tree (joinPath directory name)) ∧
          (keep name = false → source.IsHollow (joinPath directory name)) := by
  rw [Source.subdirectories, bind_eq_ok_iff] at ran
  obtain ⟨entries, listed, found⟩ := ran
  cases found
  obtain ⟨keep, kept, below⟩ := mirrors.entries directory entries listed
  refine ⟨keep, ?_, fun name member => ?_⟩
  · rw [Source.subdirectories, outcome_bind, kept]
    change Except.ok _ = Except.ok _
    rw [List.filter_filter, List.filter_map, List.filter_filter]
    congr 3
    funext entry
    cases isDir : entry.isDir <;> simp [isPlainDirectory, isDir, Bool.and_comm]
  · obtain ⟨⟨name, isDir⟩, shown, rfl⟩ := List.mem_map.mp member
    obtain ⟨present, plain⟩ := List.mem_filter.mp shown
    simp only [isPlainDirectory, Bool.and_eq_true] at plain
    rw [plain.1.1] at present
    exact below normal name present

theorem artifact (category fileName : String) (found : Artifact)
    (read : source.artifact category fileName = .ok found) :
    mirror.artifact category fileName = .ok found := by
  rw [Source.artifact, Outcome.bind_eq_ok_iff] at read ⊢
  obtain ⟨text, here, parsed⟩ := read
  exact ⟨text, mirrors.readText here, parsed⟩

theorem artifacts (category : String) :
    Follows (mirror.artifacts category) (source.artifacts category) :=
  (mirrors.markdownFiles category).bind fun fileNames =>
    (Follows.mapM (fun name => Follows.lift (mirrors.artifact category name)) fileNames).bind
      fun _ => Follows.refl _

theorem readComposable (directory : String) :
    Follows (readComposable mirror directory) (readComposable source directory) := by
  refine Follows.bind (Follows.lift fun _ => mirrors.readText?) fun order => ?_
  cases order with
  | none => exact Follows.refl _
  | some order =>
    exact Follows.bind (Follows.lift fun _ => mirrors.readText?) fun _ => Follows.refl _

theorem sectionAt (path target : String) (bindings : Variables) (entry : String) :
    Follows (sectionAt mirror path target bindings entry)
      (sectionAt source path target bindings entry) :=
  Follows.bind (Follows.lift fun _ => mirrors.readText?) fun _ => Follows.refl _

theorem composeArtifact (artifact : Composable) (target : String) (extra : Variables) :
    Follows (composeArtifact mirror artifact target extra)
      (composeArtifact source artifact target extra) :=
  (Follows.mapM (mirrors.sectionAt _ _ _) _).bind fun _ => Follows.refl _

theorem composeDirectory (directory target : String) (extra : Variables) :
    Follows (composeDirectory mirror directory target extra)
      (composeDirectory source directory target extra) := by
  refine (mirrors.readComposable directory).bind fun artifact => ?_
  cases artifact with
  | none => exact Follows.refl _
  | some artifact => exact mirrors.composeArtifact artifact target extra

end Mirrors

end EditorPlugins.Template.Source
