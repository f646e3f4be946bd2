import EditorPlugins.Plugin.Install
import EditorPlugins.Proofs.Disk.Written
import EditorPlugins.Proofs.Path.FilePath

/-! # What an installation changes

An installation writes files in order until one of them cannot be written. So the files that stand
in front of that one are on the disk afterwards, or all of them are, and no other file is touched.
Where no links stand below the root of the output, different files are written to different places,
and of several files with one path the last one stays.
-/

namespace EditorPlugins.Plugin

open Disk

def outputPath (output : FilePath) (entry : String × GeneratedFile) : FilePath :=
  (output.child entry.1).child entry.2.path

def outputFiles (output : FilePath) (entries : List (String × GeneratedFile)) :
    List (FilePath × Octets) :=
  entries.map fun entry => (outputPath output entry, Text.Utf8.encode entry.2.content)

/-- The error of a file that the disk does not take. -/
inductive IsWriteError (path : FilePath) : Error → Prop where
  | refused (failure : Failure) (reached : failure.reason ≠ .nullInName) :
      IsWriteError path (.writeFailed path.text failure)
  | nullInName (failure : Failure) (same : failure.reason = .nullInName) :
      IsWriteError path (.disk failure)

private theorem isWriteError (path : FilePath) (failure : Failure) : IsWriteError path
    (if failure.reason = .nullInName then .disk failure else .writeFailed path.text failure) := by
  split
  · next same => exact .nullInName failure same
  · next reached => exact .refused failure reached

theorem IsWriteError.text_eq {path : FilePath} {text : String} {failure : Failure}
    (failed : IsWriteError path (.writeFailed text failure)) : path.text = text := by
  generalize wrote : Error.writeFailed text failure = error at failed
  cases failed with
  | refused other reached =>
    cases wrote
    rfl
  | nullInName other same => cases wrote

section Runs

/-- Writing files of targets comes to an end, or it stops at a file that cannot be written. -/
inductive Wrote {Result : Type} (before after : Disk) (output : FilePath)
    (entries : List (String × GeneratedFile)) : Except Error Result → Prop where
  | finished {result : Result} (written : IsWritten before after (outputFiles output entries)) :
      Wrote before after output entries (.ok result)
  | stopped {error : Error} (done : List (String × GeneratedFile)) (entry : String × GeneratedFile)
      (rest : List (String × GeneratedFile)) (split : entries = done ++ entry :: rest)
      (written : IsWritten before after (outputFiles output done))
      (failed : IsWriteError (outputPath output entry) error) :
      Wrote before after output entries (.error error)

namespace Wrote

variable {Result Other : Type} {first second third : Disk} {output : FilePath}
  {entries more : List (String × GeneratedFile)} {outcome : Except Error Result} {error : Error}

theorem map (wrote : Wrote first second output entries outcome) (f : Result → Other) :
    Wrote first second output entries (outcome.map f) := by
  cases wrote with
  | finished written => exact .finished written
  | stopped done entry rest split written failed =>
    exact .stopped done entry rest split written failed

/-- Files are written behind others that all have been. -/
theorem append (wrote : Wrote second third output more outcome)
    (written : IsWritten first second (outputFiles output entries)) :
    Wrote first third output (entries ++ more) outcome := by
  have joined (done : List (String × GeneratedFile)) : outputFiles output (entries ++ done) =
      outputFiles output entries ++ outputFiles output done := List.map_append
  cases wrote with
  | finished later => exact .finished (joined more ▸ written.trans later)
  | stopped done entry rest split later failed =>
    exact .stopped (entries ++ done) entry rest (by rw [split, List.append_assoc])
      (joined done ▸ written.trans later) failed

/-- No file is written behind one that cannot be. -/
theorem append_of_error (wrote : Wrote first second output entries (.error error : Except _ Result))
    (more : List (String × GeneratedFile)) :
    Wrote first second output (entries ++ more) (.error error : Except _ Other) := by
  cases wrote with
  | stopped done entry rest split written failed =>
    exact .stopped done entry (rest ++ more) (by simp [split]) written failed

end Wrote

variable (disk : Disk) (output : FilePath)

/-- The directories on the way to a file may be made even if the file cannot be written. -/
theorem wrote_writeFile (target : String) (file : GeneratedFile) :
    Wrote disk (writeFile disk (output.child target) file).1 output [(target, file)]
      (writeFile disk (output.child target) file).2 := by
  let path : FilePath := (output.child target).child file.path
  have dirs := isWritten_makeDirs disk path.parent
  have step (between : Disk) := isWritten_writeFile between path (Text.Utf8.encode file.content)
  simp only [writeFile]
  generalize disk.makeDirs path.parent = made at dirs ⊢
  obtain ⟨between, failure | ⟨⟩⟩ := made
  · exact .stopped [] (target, file) [] rfl dirs (isWriteError path failure)
  · specialize step between
    dsimp only at dirs ⊢
    generalize between.writeFile path _ = put at step ⊢
    obtain ⟨after, failure | ⟨⟩⟩ := put
    · obtain rfl : after = between := step
      exact .stopped [] (target, file) [] rfl dirs (isWriteError path failure)
    · exact .finished (dirs.trans step)

private theorem wrote_writeFiles (target : String) (files : List GeneratedFile) :
    Wrote disk (writeFiles disk (output.child target) files).1 output (files.map (target, ·))
      (writeFiles disk (output.child target) files).2 := by
  induction files generalizing disk with
  | nil => exact .finished (.refl disk)
  | cons file files ih =>
    have one := wrote_writeFile disk output target file
    rw [writeFiles, List.map_cons]
    generalize writeFile disk (output.child target) file = made at one ⊢
    obtain ⟨between, error | path⟩ := made
    · exact one.append_of_error _
    · cases one with
      | finished written => exact ((ih between).append written).map _

private theorem wrote_install (target : String) (files : List GeneratedFile) :
    Wrote disk (install disk (output.child target) files).disk output (files.map (target, ·))
      (install disk (output.child target) files).traced.outcome := by
  have wrote := wrote_writeFiles disk output target files
  unfold install
  generalize writeFiles disk (output.child target) files = made at wrote ⊢
  obtain ⟨after, error | paths⟩ := made
  · exact wrote
  · exact wrote

theorem wrote_installAll (compilation : Compilation) :
    Wrote disk (installAll disk output compilation).disk output compilation.allFiles
      (installAll disk output compilation).traced.outcome := by
  induction compilation generalizing disk with
  | nil => exact .finished (.refl disk)
  | cons entry compilation ih =>
    obtain ⟨target, files⟩ := entry
    have first := wrote_install disk output target files
    rw [Compilation.allFiles, List.flatMap_cons, ← Compilation.allFiles, installAll]
    cases ran : (install disk (output.child target) files).traced.outcome with
    | error error =>
      rw [ran] at first
      exact first.append_of_error _
    | ok paths =>
      rw [ran] at first
      cases first with
      | finished written => exact ((ih _).append written).map _

end Runs

section Places

/-- Where a file of a target is found below the root of the output. -/
def outputLocation (disk : Disk) (output : FilePath) (entry : String × GeneratedFile) :
    Disk.Location :=
  (disk.settled output).names ++ entry.1 :: (FilePath.ofText entry.2.path).names

/-- The disk after some files of targets have been installed: every file is found with the content
that was written to its path last, and besides nothing is new but directories. -/
structure IsInstalled (before after : Disk) (output : FilePath)
    (entries : List (String × GeneratedFile)) : Prop where
  files : ∀ earlier target file later, entries = earlier ++ (target, file) :: later →
    (∀ entry ∈ later, entry.1 = target → entry.2.path ≠ file.path) →
    after.readFile (outputPath output (target, file)) = .ok (Text.Utf8.encode file.content)
  others : ∀ location, (∀ entry ∈ entries, outputLocation before output entry ≠ location) →
    ∀ item, item ≠ .directory →
      (after.item? location = some item ↔ before.item? location = some item)
  directories : ∀ location, before.item? location = some .directory →
    after.item? location = some .directory

variable {before after : Disk} {output : FilePath} {entry other : String × GeneratedFile}
  {entries : List (String × GeneratedFile)}

private theorem ofText_target {name : String} (known : name ∈ Target.all.map Target.name) :
    FilePath.ofText name = ⟨"", [name]⟩ ∧ name ≠ ".." := by
  simp only [Target.all, List.map_cons, List.map_nil, List.mem_cons, List.not_mem_nil, or_false]
    at known
  rcases known with rfl | rfl
  · decide
  · decide

private theorem outputPath_eq (known : entry.1 ∈ Target.all.map Target.name) :
    outputPath output entry =
      ⟨output.root, output.names ++ entry.1 :: (FilePath.ofText entry.2.path).names⟩ := by
  have relative := FilePath.root_ofText_of_safe entry.2.safe
  rw [outputPath, FilePath.child, FilePath.child, (ofText_target known).1, FilePath.append,
    if_pos relative, FilePath.append, if_pos rfl, List.append_assoc, List.singleton_append]

/-- Without links below the root of the output, files are found where their paths say. -/
theorem settled_outputPath
    (linkFree : ∀ name, before.IsLinkFree ((before.settled output).names ++ [name]))
    (known : entry.1 ∈ Target.all.map Target.name) :
    (before.settled (outputPath output entry)).names = outputLocation before output entry := by
  obtain ⟨left, goes⟩ :=
    @exists_settle_append before linkLimit (before.base output) output.names
  have notDots : ".." ∉ entry.1 :: (FilePath.ofText entry.2.path).names := by
    rw [List.mem_cons, not_or]
    exact ⟨(ofText_target known).2.symm, FilePath.notDots_of_safe entry.2.safe⟩
  rw [outputPath_eq known, settled]
  exact (goes _).trans (settle_of_isLinkFree linkFree notDots)

/-- Files of different targets, or with different paths, are found at different places. -/
theorem eq_of_outputLocation (tidy : FilePath.IsTidy entry.2.path)
    (also : FilePath.IsTidy other.2.path)
    (same : outputLocation before output entry = outputLocation before output other) :
    entry.1 = other.1 ∧ entry.2.path = other.2.path := by
  obtain ⟨target, names⟩ := List.cons.inj (List.append_cancel_left same)
  exact ⟨target, tidy.eq_of_names_eq also names⟩

theorem isInstalled
    (linkFree : ∀ name, before.IsLinkFree ((before.settled output).names ++ [name]))
    (known : ∀ entry ∈ entries, entry.1 ∈ Target.all.map Target.name)
    (tidy : ∀ entry ∈ entries, FilePath.IsTidy entry.2.path)
    (written : IsWritten before after (outputFiles output entries)) :
    IsInstalled before after output entries where
  files earlier target file later split last := by
    subst split
    rw [outputFiles, List.map_append, List.map_cons] at written
    refine written.readFile fun write member same => ?_
    obtain ⟨entry, inside, rfl⟩ := List.mem_map.mp member
    have present : entry ∈ earlier ++ (target, file) :: later := by simp [inside]
    have here : (target, file) ∈ earlier ++ (target, file) :: later := by simp
    rw [settled_outputPath linkFree (known _ present), settled_outputPath linkFree (known _ here)]
      at same
    -- A later file that is found at the same place has the same path, and there is none.
    obtain ⟨sameTarget, samePath⟩ := eq_of_outputLocation (tidy _ present) (tidy _ here) same
    exact last entry inside sameTarget samePath
  others location elsewhere item notDirectory := by
    refine written.item?_iff (fun write member => ?_) notDirectory
    obtain ⟨entry, inside, rfl⟩ := List.mem_map.mp member
    rw [settled_outputPath linkFree (known entry inside)]
    exact elsewhere entry inside
  directories := written.extended.directory

end Places

end EditorPlugins.Plugin
