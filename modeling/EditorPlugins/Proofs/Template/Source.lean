import EditorPlugins.Proofs.Outcome
import EditorPlugins.Proofs.Traced
import EditorPlugins.Template.Listing

/-! # Text, entries and walks of a source

Text is read where a file is, and it is absent where the file is missing; every other error is an
error of the text too. Entries are what a directory lists, and there are none where it is missing. A
walk goes through what a directory lists, entry by entry.
Callers tell errors apart by their category only, which is what the verdict of an outcome keeps.
-/

namespace EditorPlugins.Template

/-- An outcome with nothing but the category of its error. -/
def verdict {α : Type} (outcome : Except Error α) : Except Error.Category α :=
  outcome.mapError Error.category

@[simp] theorem verdict_ok {α : Type} (value : α) : verdict (.ok value) = .ok value := rfl

@[simp] theorem verdict_error {α : Type} (error : Error) :
    verdict (.error error : Except Error α) = .error error.category := rfl

theorem readPath_eq_ok_iff {path : String} {names : TemplatePath} :
    readPath path = .ok names ↔ TemplatePath.ofText? path = some names := by
  unfold readPath
  split <;> simp_all

namespace Source

variable {source : Source} {path text : String}

theorem readText_eq_ok_iff : source.readText path = .ok text ↔
    ∃ content, source.readBytes path = .ok content ∧ Text.Utf8.decode content = .ok text := by
  rw [readText, Outcome.bind_eq_ok_iff]
  refine exists_congr fun content => and_congr_right fun _ => ?_
  cases Text.Utf8.decode content with
  | ok decoded => simp
  | error failure => simp

theorem readText?_eq_some_iff :
    source.readText? path = .ok (some text) ↔ source.readText path = .ok text := by
  unfold readText?
  cases source.readText path with
  | ok found => simp
  | error error =>
    simp only [reduceCtorEq, iff_false]
    split <;> simp

theorem readText?_eq_none_iff : source.readText? path = .ok none ↔
    ∃ error, source.readBytes path = .error error ∧ isMissing error = true := by
  unfold readText? readText
  cases source.readBytes path with
  | error error =>
    simp only [bind, Except.bind]
    by_cases missing : isMissing error = true <;> simp [missing]
  | ok content =>
    simp only [bind, Except.bind]
    cases Text.Utf8.decode content with
    | ok text => simp [pure, Except.pure]
    | error failure => simp [isMissing, Error.category, throw, throwThe, MonadExceptOf.throw]

theorem readText?_of_refused {error : Error} (refused : source.readBytes path = .error error)
    (present : isMissing error = false) : source.readText? path = .error error := by
  simp [readText?, readText, refused, bind, Except.bind, present]

/-- What is read as text follows from the content, or from the category of the error. -/
theorem verdict_readText?_congr {other : Source}
    (same : verdict (source.readBytes path) = verdict (other.readBytes path)) :
    verdict (source.readText? path) = verdict (other.readText? path) := by
  unfold readText? readText
  cases here : source.readBytes path with
  | ok content =>
    cases there : other.readBytes path with
    | ok also =>
      rw [here, there, verdict_ok, verdict_ok, Except.ok.injEq] at same
      rw [same]
    | error error => simp [here, there] at same
  | error error =>
    cases there : other.readBytes path with
    | ok also => simp [here, there] at same
    | error also =>
      rw [here, there, verdict_error, verdict_error, Except.error.injEq] at same
      have missing : isMissing error = isMissing also := by rw [isMissing, isMissing, same]
      simp only [bind, Except.bind, missing]
      cases isMissing also with
      | true => rfl
      | false => exact congrArg Except.error same

/-- What a source shows in a directory, if it shows anything. -/
theorem outcome_entries (source : Source) (directory : String) :
    (source.entries directory).outcome =
      match source.list directory with
      | .ok entries => .ok entries
      | .error error => if isMissing error then .ok [] else .error error := by
  unfold entries
  cases source.list directory with
  | ok entries => rfl
  | error error =>
    simp only
    split <;> rfl

section Walk

variable {fuel : Nat}

/-- The files at an entry of a directory, each with its path from the directory. -/
def walkEntry (source : Source) (fuel : Nat) (path : String) (entry : Entry) :
    Except Error (List String) :=
  if entry.isDir then do
    let below ← source.walkWithin fuel (joinPath path entry.name)
    return below.map fun file => entry.name ++ "/" ++ file
  else return [entry.name]

theorem walkWithin_of_list {entries : List Entry}
    (listed : source.list path = .ok entries) :
    source.walkWithin (fuel + 1) path =
      (entries.mapM (source.walkEntry fuel path)).map List.flatten := by
  rw [walkWithin, listed]
  rfl

theorem walkWithin_of_missing {error : Error} (asked : source.list path = .error error)
    (missing : isMissing error = true) : source.walkWithin fuel path = .ok [] := by
  cases fuel with
  | zero => rfl
  | succ fuel =>
    rw [walkWithin, asked]
    simp only [missing, if_true]

theorem walkWithin_of_refused {error : Error} (asked : source.list path = .error error)
    (present : isMissing error = false) : source.walkWithin (fuel + 1) path = .error error := by
  rw [walkWithin, asked]
  simp only [present, Bool.false_eq_true, if_false]

end Walk

section Tree

variable {fuel : Nat} {directory : String}

/-- The shown files at an entry of a directory, each with its path from the directory. -/
def treeEntry (source : Source) (fuel : Nat) (directory : String) (entry : Entry) :
    Traced (List String) :=
  if isHidden entry.name then pure []
  else if entry.isDir then
    if ignoredDirectories.contains entry.name then pure []
    else do
      let below ← source.treeWithin fuel (joinPath directory entry.name)
      return below.map fun file => entry.name ++ "/" ++ file
  else pure [entry.name]

theorem treeWithin_succ (source : Source) (fuel : Nat) (directory : String) :
    source.treeWithin (fuel + 1) directory = (do
      let files ← (← source.entries directory).mapM (source.treeEntry fuel directory)
      return files.flatten) := rfl

theorem treeWithin_succ_eq_ok_iff {files : List String} :
    (source.treeWithin (fuel + 1) directory).outcome = .ok files ↔
      ∃ entries, (source.entries directory).outcome = .ok entries ∧
        ∃ results, (entries.mapM fun entry => (source.treeEntry fuel directory entry).outcome) =
          .ok results ∧ results.flatten = files := by
  simp only [treeWithin_succ, Traced.bind_eq_ok_iff, Traced.outcome_mapM, Traced.outcome_pure,
    Except.ok.injEq]

end Tree

end Source

end EditorPlugins.Template
