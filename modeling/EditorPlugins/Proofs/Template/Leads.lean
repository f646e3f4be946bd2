import EditorPlugins.Proofs.Template.Directory

/-! # Where the paths of a tree lead

A path that is looked up below the top of a tree leads to an item, or it ends early: at a name that
is not there, at a file that it tries to go below, or at a name that is too long for the system. A
null character in a name stops it before it starts, and so does a path that is too long as a whole.
All that the disk answers about a path follows from where it leads.
-/

namespace EditorPlugins.Template.Directory

/-- A path that goes on below a file of the tree. -/
structure IsBlocked (disk : Disk) (top : Disk.Location) (above : TemplatePath) (name : String)
    (rest : List String) : Prop where
  file : ∃ content, disk.item? (top ++ above ++ [name]) = some (.file content)
  goesOn : rest ≠ []

/-- A path that goes from a directory of the tree to a name that is too long for the system. -/
structure IsTooLong (disk : Disk) (top : Disk.Location) (above : TemplatePath) (name : String)
    (rest : List String) : Prop where
  entered : disk.item? (top ++ above) = some .directory
  long : Disk.nameLimit < name.utf8ByteSize
  noNull : ∀ below ∈ name :: rest, '\x00' ∉ below.toList

/-- Names that the system refuses for their length: those of a path that is too long as a whole, or
those that come to a name too long from a directory of the tree. -/
inductive IsRefused (disk : Disk) (root : FilePath) (top : Disk.Location) :
    TemplatePath → Prop where
  | path {names : TemplatePath} (noNull : ∀ name ∈ names, '\x00' ∉ name.toList)
      (far : ¬IsWithin root names) : IsRefused disk root top names
  | name {above : TemplatePath} {name : String} {rest : List String}
      (tooLong : IsTooLong disk top above name rest) :
      IsRefused disk root top (above ++ name :: rest)

/-- Where names lead from the top of a tree. -/
inductive Leads (disk : Disk) (root : FilePath) (top : Disk.Location) :
    TemplatePath → Except Disk.Reason Disk.Place → Prop where
  | stands {names : TemplatePath} {item : Disk.Item}
      (stands : disk.item? (top ++ names) = some item) :
      Leads disk root top names (.ok (.found (top ++ names) item))
  | absent {above : TemplatePath} {name : String} {rest : List String}
      (gone : IsAbsent disk top above name rest) (near : IsWithin root (above ++ name :: rest)) :
      Leads disk root top (above ++ name :: rest)
        (if rest.isEmpty then .ok (.vacant (top ++ above ++ [name])) else .error .notFound)
  | blocked {above : TemplatePath} {name : String} {rest : List String}
      (blocked : IsBlocked disk top above name rest) :
      Leads disk root top (above ++ name :: rest) (.error .notDirectory)
  | refused {names : TemplatePath} (refused : IsRefused disk root top names) :
      Leads disk root top names (.error .nameTooLong)
  | null {names : TemplatePath} {name : String} (member : name ∈ names)
      (null : '\x00' ∈ name.toList) : Leads disk root top names (.error .nullInName)

variable {disk : Disk} {root : FilePath} {top : Disk.Location} {names : TemplatePath}

/-- A lookup that has come down to a directory of the tree leads somewhere from there. -/
private theorem leads_walk (linkFree : disk.IsLinkFree top) {links : Nat} {above : TemplatePath}
    (entered : disk.item? (top ++ above) = some .directory)
    (noNull : ∀ name ∈ names, '\x00' ∉ name.toList) (near : IsWithin root (above ++ names))
    (notDots : ".." ∉ names) :
    Leads disk root top (above ++ names) (disk.walk links (top ++ above) names) := by
  -- The induction is on the names that are left; all that was passed so far is a directory.
  induction names generalizing above with
  | nil =>
    rw [Disk.walk, List.append_nil]
    exact .stands entered
  | cons name rest ih =>
    simp only [List.mem_cons, not_or] at notDots
    obtain ⟨notDots, notDotsBelow⟩ := notDots
    by_cases long : Disk.nameLimit < name.utf8ByteSize
    · rw [Disk.walk_of_long (Ne.symm notDots) long]
      exact .refused (.name ⟨entered, long, noNull⟩)
    · have short := Nat.not_lt.mp long
      cases found : disk.item? (top ++ above ++ [name]) with
      | none =>
        rw [Disk.walk_of_absent (Ne.symm notDots) short found]
        exact .absent ⟨entered, found, short, noNull⟩ near
      | some item =>
        cases item with
        | directory =>
          rw [Disk.walk_enters (Ne.symm notDots) short found, List.append_cons above,
            List.append_assoc top]
          rw [List.append_assoc] at found
          rw [List.append_cons above] at near
          exact ih found (fun other member => noNull other (List.mem_cons_of_mem _ member)) near
            notDotsBelow
        | file content =>
          rw [Disk.walk_of_file (Ne.symm notDots) short found]
          cases rest with
          | nil =>
            rw [List.append_assoc] at found ⊢
            exact .stands found
          | cons next rest => exact .blocked ⟨⟨content, found⟩, List.cons_ne_nil _ _⟩
        | link target =>
          rw [List.append_assoc] at found
          exact absurd found (linkFree _ target)

section Tree

variable (tree : IsReachableTree disk root top)

include tree

/-- Every path of the tree leads somewhere. -/
theorem IsReachableTree.leads_lookup (notDots : ".." ∉ names) :
    Leads disk root top names (disk.lookup (root.append ⟨"", names⟩)) := by
  obtain ⟨left, goes⟩ := tree.exists_walk
  by_cases noNull : ∀ name ∈ names, '\x00' ∉ name.toList
  · by_cases near : IsWithin root names
    · rw [goes, tree.refusal?_of_within noNull near]
      have walked := @leads_walk disk root top names tree.linkFree left [] tree.stands_append_nil
        noNull near notDots
      rwa [List.append_nil] at walked
    · have long := Nat.not_le.mp near
      rw [goes, Disk.refusal?_of_long (tree.noNull_append noNull) long]
      exact .refused (.path noNull near)
  · push Not at noNull
    obtain ⟨name, member, inside⟩ := noNull
    rw [goes, Disk.refusal?_of_null (List.mem_append_right _ member) inside]
    exact .null member inside

/-- What stands at a path is answered for every path that the system does not refuse. -/
theorem IsReachableTree.itemAt?_of_not_isRefused (notDots : ".." ∉ names)
    (taken : ¬IsRefused disk root top names) :
    disk.itemAt? (root.append ⟨"", names⟩) = .ok (disk.item? (top ++ names)) := by
  have answered : ∃ found, disk.itemAt? (root.append ⟨"", names⟩) = .ok found := by
    have leads := tree.leads_lookup notDots
    rw [Disk.itemAt?]
    generalize disk.lookup (root.append ⟨"", names⟩) = answer at leads ⊢
    cases leads with
    | stands => exact ⟨_, rfl⟩
    | @absent _ _ rest => cases rest <;> exact ⟨_, rfl⟩
    | blocked => exact ⟨_, rfl⟩
    | refused refused => exact absurd refused taken
    | null => exact ⟨_, rfl⟩
  obtain ⟨found, answer⟩ := answered
  rw [answer, tree.eq_of_itemAt? notDots answer]

private theorem IsReachableTree.lookup_of_isRefused (refused : IsRefused disk root top names)
    (notDots : ".." ∉ names) : disk.lookup (root.append ⟨"", names⟩) = .error .nameTooLong := by
  cases refused with
  | path noNull far =>
    rw [Disk.lookup, Disk.refusal?_of_long (tree.noNull_append noNull) (Nat.not_le.mp far)]
  | @name above name rest tooLong =>
    by_cases near : IsWithin root (above ++ name :: rest)
    · simp only [List.mem_append, List.mem_cons, not_or] at notDots
      obtain ⟨left, goes⟩ := tree.exists_walk_below notDots.1 tooLong.entered
      rw [goes _ tooLong.noNull near, Disk.walk_of_long (Ne.symm notDots.2.1) tooLong.long]
    · have noNull := List.forall_mem_append.mpr
        ⟨tree.noNull_of_item? tooLong.entered, tooLong.noNull⟩
      rw [Disk.lookup, Disk.refusal?_of_long (tree.noNull_append noNull) (Nat.not_le.mp near)]

theorem IsReachableTree.itemAt?_of_isRefused (refused : IsRefused disk root top names)
    (notDots : ".." ∉ names) :
    disk.itemAt? (root.append ⟨"", names⟩) =
      .error ⟨.nameTooLong, (root.append ⟨"", names⟩).text⟩ := by
  rw [Disk.itemAt?, tree.lookup_of_isRefused refused notDots]
  rfl

/-- No item stands where the system refuses to look. -/
theorem IsReachableTree.item?_of_isRefused (refused : IsRefused disk root top names) :
    disk.item? (top ++ names) = none := by
  cases stands : disk.item? (top ++ names) with
  | none => rfl
  | some item =>
    cases refused with
    | path _ far => exact absurd (tree.within names (Option.isSome_of_eq_some stands)) far
    | @name _ name _ tooLong =>
      have legal := Disk.isLegalName_of_item? tree.wellFormed stands name (by simp)
      exact absurd legal.short (Nat.not_le.mpr tooLong.long)

end Tree

end EditorPlugins.Template.Directory
