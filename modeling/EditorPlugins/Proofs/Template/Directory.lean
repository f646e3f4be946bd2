import EditorPlugins.Proofs.Disk.Tree
import EditorPlugins.Proofs.Template.Snapshot
import EditorPlugins.Proofs.Template.Source
import EditorPlugins.Template.Directory

/-! # A template tree on the disk

A tree without links whose paths are normal answers by what stands at the names of a path: files
are read, directories are listed, and where something else stands or nothing at all the answer is
that it is missing, or a failure. A snapshot of the tree holds its files and no others. It can be
taken exactly if nothing stands so deep that the system cannot be asked about it.
-/

namespace EditorPlugins.Template

namespace Directory

/-- The path of some names from a root is short enough for the system. -/
def IsWithin (root : FilePath) (names : TemplatePath) : Prop :=
  (root.append ⟨"", names⟩).text.utf8ByteSize ≤ Disk.pathLimit

instance (root : FilePath) (names : TemplatePath) : Decidable (IsWithin root names) :=
  inferInstanceAs (Decidable (_ ≤ _))

/-- A tree without links in a directory of the disk, all of whose paths are normal. -/
structure IsTree (disk : Disk) (root : FilePath) (top : Disk.Location) : Prop where
  wellFormed : disk.IsWellFormed
  leads : disk.lookup root = .ok (.found top .directory)
  linkFree : disk.IsLinkFree top
  normal : ∀ names, (disk.item? (top ++ names)).isSome →
    TemplatePath.IsNormal (TemplatePath.text names)

/-- A tree all of whose paths are short enough for the system to be asked about them. -/
structure IsReachableTree (disk : Disk) (root : FilePath) (top : Disk.Location) : Prop
    extends IsTree disk root top where
  within : ∀ names, (disk.item? (top ++ names)).isSome → IsWithin root names

/-- A path that goes from a directory of the tree to a name at which nothing stands. -/
structure IsAbsent (disk : Disk) (top : Disk.Location) (above : TemplatePath) (name : String)
    (rest : List String) : Prop where
  entered : disk.item? (top ++ above) = some .directory
  absent : disk.item? (top ++ above ++ [name]) = none
  short : name.utf8ByteSize ≤ Disk.nameLimit
  noNull : ∀ below ∈ name :: rest, '\x00' ∉ below.toList

/-- The entries of the directory at a location, in the order of their names. -/
def entriesAt (disk : Disk) (location : Disk.Location) : List Entry :=
  (disk.namesIn location).map fun name =>
    ⟨name, disk.item? (location ++ [name]) = some .directory⟩

variable {disk : Disk} {root : FilePath} {top : Disk.Location} {names : TemplatePath}

section Items

variable (tree : IsTree disk root top)

include tree

theorem IsTree.stands : disk.item? top = some .directory := by
  refine Disk.item?_of_walk tree.wellFormed ?_ (Disk.lookup_eq_ok_iff.mp tree.leads).2
  unfold Disk.base
  split
  · exact tree.wellFormed.start
  · rfl

theorem IsTree.stands_append_nil : disk.item? (top ++ []) = some .directory := by
  rw [List.append_nil]
  exact tree.stands

private theorem IsTree.isDir?_root : disk.isDir? root = .ok true := by
  rw [Disk.isDir?, Disk.itemAt?, tree.leads]
  rfl

private theorem IsTree.isWithin_nil : IsWithin root [] := by
  rw [IsWithin, root.append_nil]
  exact (Disk.refusal?_eq_none_iff.mp (Disk.lookup_eq_ok_iff.mp tree.leads).1).2

/-- The path of an item reads back. -/
theorem IsTree.ofText?_text {item : Disk.Item} (stands : disk.item? (top ++ names) = some item) :
    TemplatePath.ofText? (TemplatePath.text names) = some names := by
  have legal := Disk.isLegalName_of_item? tree.wellFormed stands
  refine TemplatePath.ofText?_text_of_isNormal (fun name member => ?_)
    (tree.normal names (Option.isSome_of_eq_some stands))
  have inside := legal name (List.mem_append_right _ member)
  exact ⟨inside.nonempty, inside.noSlash⟩

/-- A lookup in the tree goes down from its top, unless its path is refused. -/
theorem IsTree.exists_walk : ∃ left, ∀ names : TemplatePath,
    disk.lookup (root.append ⟨"", names⟩) =
      match Disk.refusal? (root.append ⟨"", names⟩) with
      | some reason => .error reason
      | none => disk.walk left top names := by
  obtain ⟨left, goes⟩ := Disk.walk_append (Disk.lookup_eq_ok_iff.mp tree.leads).2
  refine ⟨left, fun names => ?_⟩
  rw [← goes]
  rfl

/-- No name on the way to the tree holds a null character. -/
theorem IsTree.noNull_append (noNull : ∀ name ∈ names, '\x00' ∉ name.toList) :
    ∀ name ∈ (root.append ⟨"", names⟩).names, '\x00' ∉ name.toList := by
  have clear := (Disk.refusal?_eq_none_iff.mp (Disk.lookup_eq_ok_iff.mp tree.leads).1).1
  exact List.forall_mem_append.mpr ⟨clear, noNull⟩

theorem IsTree.refusal?_of_within (noNull : ∀ name ∈ names, '\x00' ∉ name.toList)
    (near : IsWithin root names) : Disk.refusal? (root.append ⟨"", names⟩) = none :=
  Disk.refusal?_eq_none_iff.mpr ⟨tree.noNull_append noNull, near⟩

theorem IsTree.noNull_of_item? {item : Disk.Item} (stands : disk.item? (top ++ names) = some item) :
    ∀ name ∈ names, '\x00' ∉ name.toList := fun name member =>
  (Disk.isLegalName_of_item? tree.wellFormed stands name (List.mem_append_right _ member)).noNull

/-- A path that is short enough leads to what stands there. -/
theorem IsTree.lookup_of_item? (near : IsWithin root names) {item : Disk.Item}
    (stands : disk.item? (top ++ names) = some item) :
    disk.lookup (root.append ⟨"", names⟩) = .ok (.found (top ++ names) item) := by
  obtain ⟨left, goes⟩ := tree.exists_walk
  rw [goes, tree.refusal?_of_within (tree.noNull_of_item? stands) near]
  exact Disk.walk_of_item? tree.wellFormed tree.linkFree tree.stands stands

/-- Where the disk can be asked about an item of the tree, its path is short enough. -/
theorem IsTree.isWithin_of_isDir? {item : Disk.Item} {answer : Bool}
    (stands : disk.item? (top ++ names) = some item)
    (asked : disk.isDir? (root.append ⟨"", names⟩) = .ok answer) : IsWithin root names := by
  by_contra far
  have refused := Disk.refusal?_of_long (tree.noNull_append (tree.noNull_of_item? stands))
    (Nat.not_le.mp far)
  obtain ⟨left, goes⟩ := tree.exists_walk
  rw [Disk.isDir?, Disk.itemAt?, goes, refused] at asked
  cases asked

end Items

section Reachable

variable (tree : IsReachableTree disk root top)

include tree

/-- A path of the tree leads to the items that stand there, and to no others. -/
theorem IsReachableTree.lookup_eq_found_iff (notDots : ".." ∉ names) {location : Disk.Location}
    {item : Disk.Item} :
    disk.lookup (root.append ⟨"", names⟩) = .ok (.found location item) ↔
      location = top ++ names ∧ disk.item? (top ++ names) = some item := by
  obtain ⟨left, goes⟩ := tree.exists_walk
  rw [goes]
  split
  · next refused =>
    simp only [reduceCtorEq, false_iff, not_and]
    intro _ stands
    have near := tree.within names (Option.isSome_of_eq_some stands)
    rw [tree.refusal?_of_within (tree.noNull_of_item? stands) near] at refused
    cases refused
  · exact Disk.walk_eq_found_iff tree.wellFormed tree.linkFree tree.stands notDots

private theorem IsReachableTree.itemAt?_of_item? (notDots : ".." ∉ names) {item : Disk.Item}
    (stands : disk.item? (top ++ names) = some item) :
    disk.itemAt? (root.append ⟨"", names⟩) = .ok (some item) := by
  rw [Disk.itemAt?, (tree.lookup_eq_found_iff notDots).mpr ⟨rfl, stands⟩]

/-- Where the disk says what stands at a path, it says so. -/
theorem IsReachableTree.eq_of_itemAt? (notDots : ".." ∉ names) {found : Option Disk.Item}
    (asked : disk.itemAt? (root.append ⟨"", names⟩) = .ok found) :
    found = disk.item? (top ++ names) := by
  cases stands : disk.item? (top ++ names) with
  | some item =>
    rw [tree.itemAt?_of_item? notDots stands] at asked
    exact (Except.ok.inj asked).symm
  | none =>
    unfold Disk.itemAt? at asked
    split at asked
    · next location item leads =>
      have reached := ((tree.lookup_eq_found_iff notDots).mp leads).2
      rw [stands] at reached
      cases reached
    · cases asked
      rfl
    · split at asked <;> cases asked
      rfl

private theorem IsReachableTree.isDir?_eq_ok (notDots : ".." ∉ names) {answer : Bool}
    (asked : disk.isDir? (root.append ⟨"", names⟩) = .ok answer) :
    answer = decide (disk.item? (top ++ names) = some .directory) := by
  obtain ⟨found, shown, rfl⟩ := Outcome.map_eq_ok_iff.mp asked
  rw [← tree.eq_of_itemAt? notDots shown]
  cases found with
  | none => rfl
  | some item => cases item <;> rfl

private theorem IsReachableTree.isDir?_of_item? (notDots : ".." ∉ names) {item : Disk.Item}
    (stands : disk.item? (top ++ names) = some item) :
    disk.isDir? (root.append ⟨"", names⟩) =
      .ok (decide (disk.item? (top ++ names) = some .directory)) := by
  rw [Disk.isDir?, tree.itemAt?_of_item? notDots stands, stands]
  cases item <;> rfl

private theorem IsReachableTree.readFile_eq_ok_iff (notDots : ".." ∉ names) {content : Octets} :
    disk.readFile (root.append ⟨"", names⟩) = .ok content ↔
      disk.item? (top ++ names) = some (.file content) := by
  unfold Disk.readFile
  split
  · next location found leads =>
    have reached := ((tree.lookup_eq_found_iff notDots).mp leads).2
    simp [reached]
  · next location item other leads =>
    have reached := ((tree.lookup_eq_found_iff notDots).mp leads).2
    simp only [reached, Option.some.injEq, reduceCtorEq, false_iff]
    exact fun file => other content file
  · next location leads =>
    simp only [reduceCtorEq, false_iff]
    intro stands
    have found := (tree.lookup_eq_found_iff notDots).mpr ⟨rfl, stands⟩
    rw [leads] at found
    cases found
  · next reason leads =>
    simp only [reduceCtorEq, false_iff]
    intro stands
    have found := (tree.lookup_eq_found_iff notDots).mpr ⟨rfl, stands⟩
    rw [leads] at found
    cases found

private theorem IsReachableTree.list_of_item? (notDots : ".." ∉ names)
    (stands : disk.item? (top ++ names) = some .directory) :
    disk.list (root.append ⟨"", names⟩) = .ok (disk.namesIn (top ++ names)) := by
  rw [Disk.list, (tree.lookup_eq_found_iff notDots).mpr ⟨rfl, stands⟩]

/-- A lookup goes on from every directory of the tree. -/
theorem IsReachableTree.exists_walk_below (notDots : ".." ∉ names)
    (entered : disk.item? (top ++ names) = some .directory) : ∃ left, ∀ below : List String,
      (∀ name ∈ below, '\x00' ∉ name.toList) → IsWithin root (names ++ below) →
        disk.lookup (root.append ⟨"", names ++ below⟩) = disk.walk left (top ++ names) below := by
  obtain ⟨left, goes⟩ := tree.exists_walk
  have noNull := tree.noNull_of_item? entered
  have leads := (tree.lookup_eq_found_iff notDots).mpr ⟨rfl, entered⟩
  rw [goes, tree.refusal?_of_within noNull
    (tree.within names (Option.isSome_of_eq_some entered))] at leads
  obtain ⟨left, goesOn⟩ := Disk.walk_append leads
  refine ⟨left, fun below clear near => ?_⟩
  rw [goes, tree.refusal?_of_within (List.forall_mem_append.mpr ⟨noNull, clear⟩) near]
  exact goesOn below

section Absent

variable {name : String} {rest : List String} (gone : IsAbsent disk top names name rest)
  (near : IsWithin root (names ++ name :: rest)) (notDots : ".." ∉ names ++ name :: rest)

include gone near notDots

private theorem IsReachableTree.lookup_of_isAbsent :
    disk.lookup (root.append ⟨"", names ++ name :: rest⟩) =
      if rest.isEmpty then .ok (.vacant (top ++ names ++ [name])) else .error .notFound := by
  simp only [List.mem_append, List.mem_cons, not_or] at notDots
  obtain ⟨left, goes⟩ := tree.exists_walk_below notDots.1 gone.entered
  rw [goes _ gone.noNull near, Disk.walk_of_absent (Ne.symm notDots.2.1) gone.short gone.absent]

private theorem IsReachableTree.readFile_of_isAbsent :
    disk.readFile (root.append ⟨"", names ++ name :: rest⟩) =
    .error ⟨.notFound, (root.append ⟨"", names ++ name :: rest⟩).text⟩ := by
  rw [Disk.readFile, tree.lookup_of_isAbsent gone near notDots]
  cases rest <;> rfl

end Absent

end Reachable

private theorem append_child (root : FilePath) (names : TemplatePath) (name : String) :
    (root.append ⟨"", names⟩).append ⟨"", [name]⟩ = root.append ⟨"", names ++ [name]⟩ := by
  rw [FilePath.append_append]
  rfl

section Answers

variable (tree : IsReachableTree disk root top) {path : String}

theorem notDots_of_ofText? (read : TemplatePath.ofText? path = some names) : ".." ∉ names :=
  fun member => (TemplatePath.isName_of_ofText? read _ member).notDots rfl

theorem place_eq_ok_iff {file : FilePath} : place root path = .ok file ↔
    ∃ names, TemplatePath.ofText? path = some names ∧ root.append ⟨"", names⟩ = file := by
  rw [place, Outcome.bind_eq_ok_iff]
  simp [readPath_eq_ok_iff]

theorem place_of_none (outside : TemplatePath.ofText? path = none) :
    place root path = .error (.pathOutsideTemplates path) := by
  rw [place, readPath, outside]
  rfl

private theorem ask_eq_ok_iff {α : Type} {answer : Except Disk.Failure α} {value : α} :
    ask answer = .ok value ↔ answer = .ok value := by
  cases answer <;> simp [ask]

/-- A file that is missing has a path all the same. -/
theorem exists_of_readBytes_missing {error : Error}
    (asked : readBytes disk root path = .error error)
    (missing : Source.isMissing error = true) :
    ∃ names, TemplatePath.ofText? path = some names := by
  cases read : TemplatePath.ofText? path with
  | some names => exact ⟨names, rfl⟩
  | none =>
    rw [readBytes, place_of_none read] at asked
    cases asked
    cases missing

include tree

/-- The content of a file is what stands at its names. -/
theorem IsReachableTree.readBytes_eq_ok_iff {content : Octets} :
    readBytes disk root path = .ok content ↔
      ∃ names, TemplatePath.ofText? path = some names ∧
        disk.item? (top ++ names) = some (.file content) := by
  simp only [readBytes, Outcome.bind_eq_ok_iff, place_eq_ok_iff]
  constructor
  · rintro ⟨_, ⟨names, read, rfl⟩, found⟩
    refine ⟨names, read, (tree.readFile_eq_ok_iff (notDots_of_ofText? read)).mp ?_⟩
    split at found
    · next content answer =>
      cases found
      exact answer
    · split at found <;> cases found
  · rintro ⟨names, read, stands⟩
    refine ⟨_, ⟨names, read, rfl⟩, ?_⟩
    rw [(tree.readFile_eq_ok_iff (notDots_of_ofText? read)).mpr stands]
    rfl

/-- A directory cannot be read, which is not to say that it is missing. -/
theorem IsReachableTree.readBytes_of_directory (read : TemplatePath.ofText? path = some names)
    (stands : disk.item? (top ++ names) = some .directory) :
    readBytes disk root path = .error (.templateUnreadable path
      ⟨.isDirectory, (root.append ⟨"", names⟩).text⟩) := by
  have leads := (tree.lookup_eq_found_iff (notDots_of_ofText? read)).mpr ⟨rfl, stands⟩
  rw [readBytes, place_eq_ok_iff.mpr ⟨names, read, rfl⟩]
  simp only [bind, Except.bind, Disk.readFile, leads]
  rfl

/-- What a directory lists is what stands in it, each name with whether it is a directory. -/
theorem IsReachableTree.list_of_directory (read : TemplatePath.ofText? path = some names)
    (stands : disk.item? (top ++ names) = some .directory) :
    list disk root path = .ok (entriesAt disk (top ++ names)) := by
  have notDots := notDots_of_ofText? read
  have listed : ((disk.namesIn (top ++ names)).mapM fun name =>
      (do return ⟨name, ← ask (disk.isDir? ((root.append ⟨"", names⟩).append ⟨"", [name]⟩))⟩ :
        Except Error Entry)) = .ok (entriesAt disk (top ++ names)) := by
    refine Outcome.mapM_eq_ok_map fun name member => ?_
    obtain ⟨item, found⟩ := Option.isSome_iff_exists.mp (Disk.mem_namesIn_iff.mp member)
    have legal := Disk.isLegalName_of_item? tree.wellFormed found name (by simp)
    have notDotsBelow : ".." ∉ names ++ [name] := by
      simpa using ⟨notDots, Ne.symm legal.notDots⟩
    rw [append_child]
    rw [List.append_assoc] at found ⊢
    have answer := tree.isDir?_of_item? notDotsBelow found
    exact congrArg (fun asked => ask asked >>= fun isDir => pure (⟨name, isDir⟩ : Entry)) answer
  rw [list, place_eq_ok_iff.mpr ⟨names, read, rfl⟩]
  change (ask _ >>= _) = _
  rw [tree.isDir?_of_item? notDots stands, stands]
  simp only [ask, tree.list_of_item? notDots stands]
  exact listed

/-- Where no directory stands there is no list. -/
theorem IsReachableTree.list_of_not_directory (read : TemplatePath.ofText? path = some names)
    (absent : disk.item? (top ++ names) ≠ some .directory) (entries : List Entry) :
    list disk root path ≠ .ok entries := by
  intro listed
  simp only [list, Outcome.bind_eq_ok_iff, place_eq_ok_iff, ask_eq_ok_iff] at listed
  obtain ⟨_, ⟨other, also, rfl⟩, answer, asked, rest⟩ := listed
  rw [read] at also
  cases also
  have none := tree.isDir?_eq_ok (notDots_of_ofText? read) asked
  rw [none] at rest
  simp [absent] at rest

/-- What stands in a directory is shown; nothing is where no directory stands. -/
theorem IsReachableTree.eq_entriesAt {source : Source} (lists : source.list = list disk root)
    {entries : List Entry} (shown : (source.entries path).outcome = .ok entries) :
    ∃ names, TemplatePath.ofText? path = some names ∧ entries = entriesAt disk (top ++ names) := by
  rw [Source.outcome_entries, lists] at shown
  cases read : TemplatePath.ofText? path with
  | none =>
    rw [list, place_of_none read] at shown
    cases shown
  | some names =>
    refine ⟨names, rfl, ?_⟩
    by_cases stands : disk.item? (top ++ names) = some .directory
    · rw [tree.list_of_directory read stands] at shown
      exact (Except.ok.inj shown).symm
    · rw [entriesAt, Disk.namesIn_eq_nil tree.wellFormed stands, List.map_nil]
      split at shown
      · next listed => exact absurd listed (tree.list_of_not_directory read stands _)
      · split at shown <;> cases shown
        rfl

/-- What is said to exist is what stands. -/
theorem IsReachableTree.eq_isSome_of_exists? {found : Bool}
    (asked : (do ask (disk.exists? (← place root path))) = Except.ok found) :
    ∃ names, TemplatePath.ofText? path = some names ∧
      found = (disk.item? (top ++ names)).isSome := by
  simp only [Outcome.bind_eq_ok_iff, place_eq_ok_iff, ask_eq_ok_iff] at asked
  obtain ⟨_, ⟨names, read, rfl⟩, exists'⟩ := asked
  obtain ⟨item, answer, rfl⟩ := Outcome.map_eq_ok_iff.mp exists'
  rw [tree.eq_of_itemAt? (notDots_of_ofText? read) answer]
  exact ⟨names, read, rfl⟩

section Absent

variable {name : String} {rest : List String} (gone : IsAbsent disk top names name rest)
  (near : IsWithin root (names ++ name :: rest))
  (read : TemplatePath.ofText? path = some (names ++ name :: rest))

include gone near read

theorem IsReachableTree.readBytes_of_isAbsent :
    readBytes disk root path = .error (.templateMissing path) := by
  rw [readBytes, place_eq_ok_iff.mpr ⟨_, read, rfl⟩]
  simp only [bind, Except.bind, tree.readFile_of_isAbsent gone near (notDots_of_ofText? read)]
  rfl

end Absent

end Answers

section Collection

/-- The files at a name of a directory: those below it, or the one that stands there. -/
def filesAt (name : String) (below : Entries TemplatePath Octets) :
    Option Disk.Item → Entries TemplatePath Octets
  | some .directory => below.map fun file => (name :: file.1, file.2)
  | some (.file content) => [([name], content)]
  | _ => []

/-- The files below a location, each with its names from there, going `fuel` directories deep. -/
def filesBelow (disk : Disk) : (fuel : Nat) → Disk.Location → Entries TemplatePath Octets
  | 0, _ => []
  | fuel + 1, location =>
    (disk.namesIn location).flatMap fun name =>
      filesAt name (filesBelow disk fuel (location ++ [name])) (disk.item? (location ++ [name]))

def byText (files : Entries TemplatePath Octets) : Entries String Octets :=
  files.map fun file => (TemplatePath.text file.1, file.2)

private theorem mem_filesBelow_iff (wellFormed : disk.IsWellFormed) {fuel : Nat}
    {location : Disk.Location}
    {below : TemplatePath} {content : Octets} :
    (below, content) ∈ filesBelow disk fuel location ↔
      below ≠ [] ∧ below.length ≤ fuel ∧ disk.item? (location ++ below) = some (.file content) := by
  induction fuel generalizing location below with
  | zero => cases below <;> simp [filesBelow]
  | succ fuel ih =>
    rw [filesBelow, List.mem_flatMap]
    constructor
    · rintro ⟨name, -, member⟩
      unfold filesAt at member
      split at member
      · obtain ⟨⟨deeper, content⟩, inside, same⟩ := List.mem_map.mp member
        cases same
        obtain ⟨-, short, stands⟩ := ih.mp inside
        refine ⟨List.cons_ne_nil _ _, Nat.succ_le_succ short, ?_⟩
        rwa [List.append_cons]
      · next found =>
        cases List.mem_singleton.mp member
        exact ⟨List.cons_ne_nil _ _, Nat.succ_le_succ (Nat.zero_le _), found⟩
      · cases member
    · rintro ⟨proper, short, stands⟩
      obtain ⟨name, deeper, rfl⟩ := List.exists_cons_of_ne_nil proper
      rw [List.append_cons] at stands
      by_cases last : deeper = []
      · subst last
        rw [List.append_nil] at stands
        refine ⟨name, Disk.mem_namesIn_iff.mpr (Option.isSome_of_eq_some stands), ?_⟩
        simp [filesAt, stands]
      · have entered := Disk.item?_above wellFormed stands last
        refine ⟨name, Disk.mem_namesIn_iff.mpr (Option.isSome_of_eq_some entered), ?_⟩
        simp only [filesAt, entered, List.mem_map]
        exact ⟨(deeper, content), ih.mpr ⟨last, Nat.le_of_succ_le_succ short, stands⟩, rfl⟩

private theorem byText_map_cons {files : Entries TemplatePath Octets} (name : String)
    (proper : ∀ file ∈ files, file.1 ≠ []) :
    byText (files.map fun file => (name :: file.1, file.2)) =
      (byText files).map fun file => (name ++ "/" ++ file.1, file.2) := by
  rw [byText, byText, List.map_map, List.map_map]
  refine List.map_congr_left fun file member => ?_
  simp [TemplatePath.text_cons name (proper file member)]

/-- Collecting a directory finds the files below it. -/
theorem IsReachableTree.collect_eq_ok (tree : IsReachableTree disk root top) (fuel : Nat)
    (notDots : ".." ∉ names) (stands : disk.item? (top ++ names) = some .directory) :
    collect disk fuel (root.append ⟨"", names⟩) =
      .ok (byText (filesBelow disk fuel (top ++ names))) := by
  induction fuel generalizing names with
  | zero => rfl
  | succ fuel ih =>
    let found (name : String) := byText (filesAt name
      (filesBelow disk fuel (top ++ names ++ [name])) (disk.item? (top ++ names ++ [name])))
    rw [collect, tree.list_of_item? notDots stands]
    refine Outcome.bind_eq_ok_iff.mpr ⟨_, rfl, Outcome.bind_eq_ok_iff.mpr
      ⟨_, @Outcome.mapM_eq_ok_map _ _ _ _ found _ fun name member => ?_, ?_⟩⟩
    · obtain ⟨item, inside⟩ := Option.isSome_iff_exists.mp (Disk.mem_namesIn_iff.mp member)
      have legal := Disk.isLegalName_of_item? tree.wellFormed inside name (by simp)
      have below : ".." ∉ names ++ [name] := by simpa using ⟨notDots, Ne.symm legal.notDots⟩
      simp only [found, append_child, inside]
      rw [List.append_assoc] at inside ⊢
      refine Outcome.bind_eq_ok_iff.mpr ⟨_, tree.isDir?_of_item? below inside, ?_⟩
      rw [inside]
      cases item with
      | directory =>
        rw [decide_eq_true rfl, if_pos rfl]
        refine Outcome.bind_eq_ok_iff.mpr ⟨_, ih below inside, ?_⟩
        have proper : ∀ file ∈ filesBelow disk fuel (top ++ (names ++ [name])), file.1 ≠ [] :=
          fun file member => ((mem_filesBelow_iff tree.wellFormed).mp member).1
        rw [filesAt, byText_map_cons name proper]
        rfl
      | file content =>
        rw [decide_eq_false (by simp), if_neg Bool.false_ne_true]
        refine Outcome.bind_eq_ok_iff.mpr ⟨true, ?_, ?_⟩
        · rw [Disk.isFile?, tree.itemAt?_of_item? below inside]
          rfl
        · rw [if_pos rfl, (tree.readFile_eq_ok_iff below).mpr inside, filesAt, byText,
            List.map_singleton, TemplatePath.text_singleton]
          rfl
      | link target => exact absurd inside (tree.linkFree _ target)
    · rw [filesBelow, byText, List.map_flatMap, List.flatMap_def]
      rfl

/-- A snapshot holds the files of a tree and no others. -/
def Holds (snapshot : Snapshot) (disk : Disk) (top : Disk.Location) : Prop :=
  ∀ names content, Entries.get? snapshot.files names = some content ↔
    disk.item? (top ++ names) = some (.file content)

/-- The files that are found below the tree are those that stand there. -/
theorem IsReachableTree.get?_filesBelow (tree : IsReachableTree disk root top) {content : Octets} :
    Entries.get? (Entries.ofPairs (filesBelow disk disk.depthBound top)) names = some content ↔
      disk.item? (top ++ names) = some (.file content) := by
  let below (names : TemplatePath) := disk.contentAt? (top ++ names)
  have agree : ∀ file ∈ filesBelow disk disk.depthBound top, below file.1 = some file.2 :=
    fun file member =>
      Disk.contentAt?_eq_some_iff.mpr ((mem_filesBelow_iff tree.wellFormed).mp member).2.2
  rw [Entries.get?_ofPairs agree, ← Disk.contentAt?_eq_some_iff]
  split
  · rfl
  · next absent =>
    simp only [reduceCtorEq, false_iff]
    intro found
    rw [Disk.contentAt?_eq_some_iff] at found
    have proper : names ≠ [] := by
      rintro rfl
      rw [List.append_nil, tree.stands] at found
      cases found
    have short := Disk.length_le_depthBound tree.wellFormed found
    exact absent (List.mem_map_of_mem
      ((mem_filesBelow_iff tree.wellFormed).mpr ⟨proper, short, found⟩))

/-- Collecting the whole tree finds the files below it. -/
theorem IsReachableTree.collect_root (tree : IsReachableTree disk root top) :
    (do if ← disk.isDir? root then collect disk disk.depthBound root else return []) =
      Except.ok (byText (filesBelow disk disk.depthBound top)) := by
  have collected := tree.collect_eq_ok disk.depthBound List.not_mem_nil tree.stands_append_nil
  rw [root.append_nil, List.append_nil] at collected
  rw [tree.isDir?_root]
  exact collected

/-- A tree can be taken into a snapshot, which holds its files. -/
theorem IsReachableTree.exists_snapshot (tree : IsReachableTree disk root top) :
    ∃ taken, (snapshot disk root).outcome = .ok taken ∧ Holds taken disk top := by
  have read : ∀ file ∈ filesBelow disk disk.depthBound top, file.1 ≠ [] ∧
      TemplatePath.ofText? (TemplatePath.text file.1) = some file.1 := fun file member => by
    obtain ⟨proper, -, found⟩ := (mem_filesBelow_iff tree.wellFormed).mp member
    exact ⟨proper, tree.ofText?_text found⟩
  refine ⟨⟨Entries.ofPairs (filesBelow disk disk.depthBound top)⟩, ?_,
    fun names content => tree.get?_filesBelow⟩
  simp only [snapshot, tree.collect_root, ask, Traced.outcome_bind, Traced.outcome_note]
  exact Snapshot.ofFiles_texts read

/-- Collecting a directory asks about each name in it, and collects those that are directories. -/
private theorem IsTree.child_of_collect (tree : IsTree disk root top) {fuel : Nat}
    {files : List (String × Octets)} (near : IsWithin root names)
    (entered : disk.item? (top ++ names) = some .directory)
    (collected : collect disk (fuel + 1) (root.append ⟨"", names⟩) = .ok files)
    {name : String} {item : Disk.Item}
    (stands : disk.item? (top ++ (names ++ [name])) = some item) :
    IsWithin root (names ++ [name]) ∧ (item = .directory →
      ∃ below, collect disk fuel (root.append ⟨"", names ++ [name]⟩) = .ok below) := by
  have listed : disk.list (root.append ⟨"", names⟩) = .ok (disk.namesIn (top ++ names)) := by
    rw [Disk.list, tree.lookup_of_item? near entered]
  have inside : (disk.item? (top ++ names ++ [name])).isSome := by
    rw [List.append_assoc]
    exact Option.isSome_of_eq_some stands
  simp only [collect, listed, Outcome.bind_eq_ok_iff] at collected
  obtain ⟨_, ⟨_, rfl⟩, _, ran, -⟩ := collected
  obtain ⟨_, -, asked⟩ := Outcome.exists_mem_of_mapM ran (Disk.mem_namesIn_iff.mpr inside)
  obtain ⟨answer, isDir, deeper⟩ := Outcome.bind_eq_ok_iff.mp asked
  rw [append_child] at isDir deeper
  have nearChild := tree.isWithin_of_isDir? stands isDir
  refine ⟨nearChild, ?_⟩
  rintro rfl
  rw [Disk.isDir?, Disk.itemAt?, tree.lookup_of_item? nearChild stands] at isDir
  cases isDir
  rw [if_pos rfl] at deeper
  obtain ⟨below, collectedChild, -⟩ := Outcome.bind_eq_ok_iff.mp deeper
  exact ⟨below, collectedChild⟩

/-- Where a directory of the tree has been collected, everything below it is within reach. -/
private theorem IsTree.isWithin_of_collect (tree : IsTree disk root top) {fuel : Nat}
    {files : List (String × Octets)} (near : IsWithin root names)
    (entered : disk.item? (top ++ names) = some .directory)
    (collected : collect disk fuel (root.append ⟨"", names⟩) = .ok files)
    {below : TemplatePath} {item : Disk.Item}
    (stands : disk.item? (top ++ names ++ below) = some item) (short : below.length ≤ fuel) :
    IsWithin root (names ++ below) := by
  induction below generalizing names fuel files with
  | nil => rwa [List.append_nil]
  | cons name rest ih =>
    cases fuel with
    | zero => exact absurd short (Nat.not_succ_le_zero _)
    | succ fuel =>
      rw [List.append_cons, List.append_assoc top names [name]] at stands
      rw [List.append_cons]
      by_cases last : rest = []
      · rw [last, List.append_nil] at stands ⊢
        exact (tree.child_of_collect near entered collected stands).1
      · have directory := Disk.item?_above tree.wellFormed stands last
        obtain ⟨nearChild, goesOn⟩ := tree.child_of_collect near entered collected directory
        obtain ⟨_, collectedChild⟩ := goesOn rfl
        exact ih nearChild directory collectedChild stands (Nat.le_of_succ_le_succ short)

/-- A tree can be taken into a snapshot exactly if everything in it is within reach. -/
theorem IsTree.exists_snapshot_iff (tree : IsTree disk root top) :
    (∃ taken, (snapshot disk root).outcome = .ok taken) ↔ IsReachableTree disk root top := by
  refine ⟨fun ⟨taken, made⟩ => { tree with within := fun names present => ?_ },
    fun reachable => ?_⟩
  · simp only [snapshot, Traced.outcome_bind, tree.isDir?_root] at made
    obtain ⟨files, collected, -⟩ := Outcome.bind_eq_ok_iff.mp made
    have collected : collect disk disk.depthBound (root.append ⟨"", []⟩) = .ok files := by
      rw [root.append_nil]
      exact ask_eq_ok_iff.mp collected
    obtain ⟨item, stands⟩ := Option.isSome_iff_exists.mp present
    have stands : disk.item? (top ++ [] ++ names) = some item := by rwa [List.append_nil]
    exact tree.isWithin_of_collect tree.isWithin_nil tree.stands_append_nil collected stands
      (Disk.length_le_depthBound tree.wellFormed stands)
  · obtain ⟨taken, made, -⟩ := reachable.exists_snapshot
    exact ⟨taken, made⟩

/-- A snapshot that could be taken holds the files of the tree. -/
theorem IsReachableTree.holds_of_snapshot (tree : IsReachableTree disk root top)
    {taken : Snapshot} (made : (snapshot disk root).outcome = .ok taken) :
    Holds taken disk top := by
  obtain ⟨other, also, holds⟩ := tree.exists_snapshot
  cases made.symm.trans also
  exact holds

end Collection

end Directory

end EditorPlugins.Template
