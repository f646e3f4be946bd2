import EditorPlugins.Disk.Change
import EditorPlugins.Proofs.Disk.Tree
import EditorPlugins.Proofs.Outcome

/-! # What a change leaves as it was

Creating directories adds directories where nothing stood, and writing a file puts it where nothing
stood or another file did. So directories stay, links stay as they are, and what is found before a
change is found after it. A path leads to one location all the time: the one that it settles at,
which depends on the links alone.
-/

namespace EditorPlugins.Disk

/-- A disk on which the directories and the links of another one are as they were, and its files are
files still. -/
structure Extends (before after : Disk) : Prop where
  here : after.here = before.here
  directory : ∀ location, before.item? location = some .directory →
    after.item? location = some .directory
  link : ∀ location target, after.item? location = some (.link target) ↔
    before.item? location = some (.link target)
  file : ∀ location content, before.item? location = some (.file content) →
    ∃ other, after.item? location = some (.file other)

namespace Extends

theorem refl (disk : Disk) : Extends disk disk :=
  ⟨rfl, fun _ stands => stands, fun _ _ => Iff.rfl, fun _ content stands => ⟨content, stands⟩⟩

theorem trans {first second third : Disk} (one : Extends first second)
    (two : Extends second third) : Extends first third where
  here := two.here.trans one.here
  directory location stands := two.directory location (one.directory location stands)
  link location target := (two.link location target).trans (one.link location target)
  file location content stands := by
    obtain ⟨other, found⟩ := one.file location content stands
    exact two.file location other found

end Extends

section Put

variable {disk : Disk} {location : Location} {item : Item}

private theorem item?_put (nonempty : location ≠ []) (item : Item) (other : Location) :
    (disk.put location item).item? other =
      if other = location then some item else disk.item? other := by
  by_cases same : other = location
  · rw [same, if_pos rfl, item?, if_neg (by simpa using nonempty), put, Entries.get?_set_self]
  · rw [if_neg same, item?, item?, put, Entries.get?_set_of_ne _ _ same]

theorem item?_put_self (nonempty : location ≠ []) (item : Item) :
    (disk.put location item).item? location = some item := by
  rw [item?_put nonempty, if_pos rfl]

theorem contentAt?_put_file (nonempty : location ≠ []) (content : Octets) (other : Location) :
    (disk.put location (.file content)).contentAt? other =
      if other = location then some content else disk.contentAt? other := by
  unfold contentAt?
  rw [item?_put nonempty]
  by_cases same : other = location
  · simp only [if_pos same]
  · simp only [if_neg same]

theorem contentAt?_put_directory (nonempty : location ≠ []) (vacant : disk.item? location = none)
    (other : Location) :
    (disk.put location .directory).contentAt? other = disk.contentAt? other := by
  unfold contentAt?
  rw [item?_put nonempty]
  by_cases same : other = location
  · rw [if_pos same, same, vacant]
  · rw [if_neg same]

/-- Whatever is put where nothing stands extends the disk, if it is no link. -/
theorem extends_put_vacant (nonempty : location ≠ []) (vacant : disk.item? location = none)
    (notLink : ∀ target, item ≠ .link target) : Extends disk (disk.put location item) := by
  have kept {other : Location} {old : Item} (stands : disk.item? other = some old) :
      (disk.put location item).item? other = some old := by
    rw [item?_put nonempty, if_neg, stands]
    rintro rfl
    cases vacant.symm.trans stands
  refine ⟨rfl, fun _ => kept, fun other target => ⟨fun found => ?_, kept⟩,
    fun _ content stands => ⟨content, kept stands⟩⟩
  rw [item?_put nonempty] at found
  split at found
  · exact absurd (Option.some.inj found) (notLink target)
  · exact found

/-- A file may take the place of another one. -/
theorem extends_put_file (nonempty : location ≠ []) {old : Octets}
    (stands : disk.item? location = some (.file old)) (content : Octets) :
    Extends disk (disk.put location (.file content)) := by
  have kept {other : Location} (different : disk.item? other ≠ some (.file old)) :
      (disk.put location (.file content)).item? other = disk.item? other := by
    rw [item?_put nonempty, if_neg]
    rintro rfl
    exact different stands
  refine ⟨rfl, fun other found => (kept (by simp [found])).trans found,
    fun other target => ⟨fun found => ?_, fun found => (kept (by simp [found])).trans found⟩,
    fun other found there => ?_⟩
  · rw [item?_put nonempty] at found
    split at found
    · cases found
    · exact found
  · rw [item?_put nonempty]
    split
    · exact ⟨content, rfl⟩
    · exact ⟨found, there⟩

end Put

def Place.location : Place → Location
  | found location _ => location
  | vacant location => location

section Walk

variable {disk after : Disk} {links : Nat} {dir location : Location} {names : List String}

/-- A lookup ends at a file only where the file stands, and never at a link. -/
theorem item?_of_walk_file {content : Octets}
    (walked : disk.walk links dir names = .ok (.found location (.file content))) :
    disk.item? location = some (.file content) := by
  -- A lookup goes on in three cases, and of the others only one ends at a file.
  fun_induction Disk.walk disk links dir names with
  | case2 links dir rest ih => exact ih walked
  | case6 links dir name rest notDots short next found ih => exact ih walked
  | case7 links dir name rest notDots short next content found last =>
    simp only [Except.ok.injEq, Place.found.injEq, Item.file.injEq] at walked
    rw [← walked.1, ← walked.2]
    exact found
  | case10 dir name rest notDots short next target found links path ih => exact ih walked
  | _ => simp at walked

private theorem walk_ne_link {target : String} :
    disk.walk links dir names ≠ .ok (.found location (.link target)) := by
  intro walked
  fun_induction Disk.walk disk links dir names with
  | case2 links dir rest ih => exact ih walked
  | case6 links dir name rest notDots short next found ih => exact ih walked
  | case10 dir name rest notDots short next target found links path ih => exact ih walked
  | _ => simp at walked

/-- A lookup ends at a vacant location only where nothing stands. -/
theorem item?_of_walk_vacant (walked : disk.walk links dir names = .ok (.vacant location)) :
    location ≠ [] ∧ disk.item? location = none := by
  fun_induction Disk.walk disk links dir names with
  | case2 links dir rest ih => exact ih walked
  | case4 links dir name rest notDots short next found last =>
    simp only [Except.ok.injEq, Place.vacant.injEq] at walked
    rw [← walked]
    exact ⟨by simp [next], found⟩
  | case6 links dir name rest notDots short next found ih => exact ih walked
  | case10 dir name rest notDots short next target found links path ih => exact ih walked
  | _ => simp at walked

@[simp]
theorem settle_nil : disk.settle links dir [] = dir := settle.eq_1 disk links dir

private theorem settle_dots (rest : List String) :
    disk.settle links dir (".." :: rest) = disk.settle links dir.dropLast rest := by
  rw [settle.eq_def]
  simp

private theorem settle_follows {name target : String} (notDots : name ≠ "..")
    (stands : disk.item? (dir ++ [name]) = some (.link target)) (rest : List String) :
    disk.settle (links + 1) dir (name :: rest) =
      disk.settle links (if (FilePath.ofText target).root = "" then dir else [])
        ((FilePath.ofText target).names ++ rest) := by
  rw [settle.eq_def]
  simp only [if_neg notDots, stands]

private theorem settle_enters {name : String} (notDots : name ≠ "..")
    (other : ∀ target more, disk.item? (dir ++ [name]) = some (.link target) → links ≠ more + 1)
    (rest : List String) :
    disk.settle links dir (name :: rest) = disk.settle links (dir ++ [name]) rest := by
  rw [settle.eq_3 _ _ _ _ _ other, if_neg notDots]

private theorem settle_of_item? {name : String} (notDots : name ≠ "..") {found : Option Item}
    (stands : disk.item? (dir ++ [name]) = found) (notLink : ∀ target, found ≠ some (.link target))
    (rest : List String) :
    disk.settle links dir (name :: rest) = disk.settle links (dir ++ [name]) rest :=
  settle_enters notDots (fun target _ link => absurd (stands.symm.trans link) (notLink target)) rest

/-- A lookup that ends somewhere ends where its path settles. -/
theorem location_of_walk {place : Place} (walked : disk.walk links dir names = .ok place) :
    place.location = disk.settle links dir names := by
  fun_induction Disk.walk disk links dir names with
  | case1 links dir =>
    cases walked
    rw [settle_nil, Place.location]
  | case2 links dir rest ih =>
    rw [settle_dots]
    exact ih walked
  | case4 links dir name rest notDots short next found last =>
    cases walked
    rw [settle_of_item? notDots found (by simp), List.isEmpty_iff.mp last, settle_nil,
      Place.location]
  | case6 links dir name rest notDots short next found ih =>
    rw [settle_of_item? notDots found (by simp)]
    exact ih walked
  | case7 links dir name rest notDots short next content found last =>
    cases walked
    rw [settle_of_item? notDots found (by simp), List.isEmpty_iff.mp last, settle_nil,
      Place.location]
  | case10 dir name rest notDots short next target found links path ih =>
    rw [settle_follows notDots found, ← dite_eq_ite]
    exact ih walked
  | _ => simp at walked

/-- Where a path settles depends on the links alone. -/
theorem settle_congr (links : Nat) (dir : Location) (names : List String)
    (same : ∀ location target, after.item? location = some (.link target) ↔
      disk.item? location = some (.link target)) :
    after.settle links dir names = disk.settle links dir names := by
  fun_induction Disk.settle disk links dir names with
  | case1 => rw [settle_nil]
  | case2 links dir rest ih => rw [settle_dots, ih]
  | case3 dir name rest notDots target links found path ih =>
    rw [settle_follows notDots ((same _ _).mpr found), ← dite_eq_ite]
    exact ih
  | case4 dir name rest notDots links other ih =>
    rw [settle_enters notDots fun target more stands => ?_]
    · exact ih
    · exact other target more ((same _ _).mp stands)

/-- A path that goes on settles from where its first part settles. -/
theorem exists_settle_append (links : Nat) (dir : Location) (names : List String) : ∃ left,
    ∀ below, disk.settle links dir (names ++ below) =
      disk.settle left (disk.settle links dir names) below := by
  fun_induction Disk.settle disk links dir names with
  | case1 links dir => exact ⟨links, fun _ => rfl⟩
  | case2 links dir rest ih =>
    obtain ⟨left, goes⟩ := ih
    exact ⟨left, fun below => by rw [List.cons_append, settle_dots, goes]⟩
  | case3 dir name rest notDots target links found path ih =>
    rw [dite_eq_ite] at ih
    obtain ⟨left, goes⟩ := ih
    refine ⟨left, fun below => ?_⟩
    rw [List.cons_append, settle_follows notDots found, ← List.append_assoc, ← goes]
  | case4 dir name rest notDots links other ih =>
    obtain ⟨left, goes⟩ := ih
    exact ⟨left, fun below => by rw [List.cons_append, settle_enters notDots other, goes]⟩

/-- Names settle as they are written below a directory in which there are no links. -/
theorem settle_of_isLinkFree (linkFree : ∀ name, disk.IsLinkFree (dir ++ [name]))
    (notDots : ".." ∉ names) : disk.settle links dir names = dir ++ names := by
  induction names generalizing dir with
  | nil => rw [settle_nil, List.append_nil]
  | cons name rest ih =>
    simp only [List.mem_cons, not_or] at notDots
    have notLink (target : String) : disk.item? (dir ++ [name]) ≠ some (.link target) := by
      simpa using linkFree name [] target
    rw [settle_of_item? (Ne.symm notDots.1) rfl notLink,
      ih (fun other => (linkFree name).child other) notDots.2, ← List.append_cons]

section Extended

variable (extended : Extends disk after)

include extended

/-- A file that is found before a change is found after it. -/
theorem Extends.walk_file {content : Octets}
    (walked : disk.walk links dir names = .ok (.found location (.file content))) :
    ∃ other, after.walk links dir names = .ok (.found location (.file other)) := by
  fun_induction Disk.walk disk links dir names with
  | case2 links dir rest ih =>
    obtain ⟨other, goes⟩ := ih walked
    exact ⟨other, by rw [walk, if_pos rfl, goes]⟩
  | case6 links dir name rest notDots short next found ih =>
    obtain ⟨other, goes⟩ := ih walked
    exact ⟨other, by
      rw [walk_enters notDots (Nat.not_lt.mp short) (extended.directory _ found), goes]⟩
  | case7 links dir name rest notDots short next content found last =>
    obtain ⟨other, stands⟩ := extended.file _ _ found
    simp only [Except.ok.injEq, Place.found.injEq] at walked
    exact ⟨other, by
      rw [walk_of_file notDots (Nat.not_lt.mp short) stands, if_pos last, ← walked.1]⟩
  | case10 dir name rest notDots short next target found links path ih =>
    rw [dite_eq_ite] at ih
    obtain ⟨other, goes⟩ := ih walked
    exact ⟨other, by
      rw [walk_follows notDots (Nat.not_lt.mp short) ((extended.link _ _).mpr found), goes]⟩
  | _ => simp at walked

/-- Where nothing was found before a change, the file is found that has come to stand there. -/
theorem Extends.walk_vacant (walked : disk.walk links dir names = .ok (.vacant location))
    {content : Octets} (stands : after.item? location = some (.file content)) :
    after.walk links dir names = .ok (.found location (.file content)) := by
  fun_induction Disk.walk disk links dir names with
  | case2 links dir rest ih => rw [walk, if_pos rfl, ih walked]
  | case4 links dir name rest notDots short next found last =>
    simp only [Except.ok.injEq, Place.vacant.injEq] at walked
    rw [← walked] at stands ⊢
    rw [walk_of_file notDots (Nat.not_lt.mp short) stands, if_pos last]
  | case6 links dir name rest notDots short next found ih =>
    rw [walk_enters notDots (Nat.not_lt.mp short) (extended.directory _ found), ih walked]
  | case10 dir name rest notDots short next target found links path ih =>
    rw [dite_eq_ite] at ih
    rw [walk_follows notDots (Nat.not_lt.mp short) ((extended.link _ _).mpr found), ih walked]
  | _ => simp at walked

end Extended

end Walk

section Lookup

variable {disk after : Disk} {path : FilePath}

/-- A path settles at the same location after a change. -/
theorem Extends.settled_eq (extended : Extends disk after) (path : FilePath) :
    after.settled path = disk.settled path := by
  rw [settled, settled, base, base, extended.here, settle_congr _ _ _ extended.link]

/-- A lookup that ends somewhere ends where its path settles. -/
theorem location_of_lookup {place : Place} (found : disk.lookup path = .ok place) :
    place.location = (disk.settled path).names :=
  location_of_walk (lookup_eq_ok_iff.mp found).2

theorem item?_of_lookup_file {location : Location} {content : Octets}
    (found : disk.lookup path = .ok (.found location (.file content))) :
    disk.item? location = some (.file content) :=
  item?_of_walk_file (lookup_eq_ok_iff.mp found).2

theorem item?_of_lookup_vacant {location : Location}
    (vacant : disk.lookup path = .ok (.vacant location)) :
    location ≠ [] ∧ disk.item? location = none :=
  item?_of_walk_vacant (lookup_eq_ok_iff.mp vacant).2

theorem lookup_ne_link {location : Location} {target : String} :
    disk.lookup path ≠ .ok (.found location (.link target)) :=
  fun found => walk_ne_link (lookup_eq_ok_iff.mp found).2

/-- A change takes the paths that were taken before it, and looks them up from the same place. -/
private theorem Extends.lookup_eq_ok_iff (extended : Extends disk after) {place : Place} :
    after.lookup path = .ok place ↔
      refusal? path = none ∧ after.walk linkLimit (disk.base path) path.names = .ok place := by
  rw [Disk.lookup_eq_ok_iff, base, base, extended.here]

theorem Extends.lookup_file (extended : Extends disk after) {location : Location}
    {content : Octets} (found : disk.lookup path = .ok (.found location (.file content))) :
    ∃ other, after.lookup path = .ok (.found location (.file other)) := by
  obtain ⟨taken, walked⟩ := Disk.lookup_eq_ok_iff.mp found
  obtain ⟨other, goes⟩ := extended.walk_file walked
  exact ⟨other, extended.lookup_eq_ok_iff.mpr ⟨taken, goes⟩⟩

theorem Extends.lookup_vacant (extended : Extends disk after) {location : Location}
    {content : Octets} (vacant : disk.lookup path = .ok (.vacant location))
    (stands : after.item? location = some (.file content)) :
    after.lookup path = .ok (.found location (.file content)) := by
  obtain ⟨taken, walked⟩ := Disk.lookup_eq_ok_iff.mp vacant
  exact extended.lookup_eq_ok_iff.mpr ⟨taken, extended.walk_vacant walked stands⟩

end Lookup

end EditorPlugins.Disk
