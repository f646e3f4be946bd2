import EditorPlugins.Disk.Basic
import EditorPlugins.Proofs.Entries
import Mathlib.Data.List.Induction
import Mathlib.Data.List.Nodup
import Mathlib.Data.List.Perm.Subperm

/-! # Lookups in a tree without links

On a disk as the system keeps it, every item has a name that the system accepts and stands in a
directory. So everything above an item is a directory, and locations are no longer than the disk
has items. Below a directory without links a lookup neither turns aside nor gives up early: it
finds an item exactly where one stands.
-/

namespace EditorPlugins.Disk

/-- A name that the system accepts. -/
structure IsLegalName (name : String) : Prop where
  nonempty : name ≠ ""
  notDots : name ≠ ".."
  noSlash : '/' ∉ name.toList
  noNull : '\x00' ∉ name.toList
  short : name.utf8ByteSize ≤ nameLimit

instance (name : String) : Decidable (IsLegalName name) :=
  decidable_of_iff (name ≠ "" ∧ name ≠ ".." ∧ '/' ∉ name.toList ∧ '\x00' ∉ name.toList ∧
      name.utf8ByteSize ≤ nameLimit)
    ⟨fun ⟨nonempty, notDots, noSlash, noNull, short⟩ =>
        ⟨nonempty, notDots, noSlash, noNull, short⟩,
      fun legal => ⟨legal.nonempty, legal.notDots, legal.noSlash, legal.noNull, legal.short⟩⟩

/-- A disk as the system keeps it. -/
structure IsWellFormed (disk : Disk) : Prop where
  distinct : (Entries.keys disk.items).Nodup
  legal : ∀ location ∈ Entries.keys disk.items, ∀ name ∈ location, IsLegalName name
  above : ∀ location ∈ Entries.keys disk.items, disk.item? location.dropLast = some .directory
  start : disk.item? disk.here = some .directory

def contentAt? (disk : Disk) (location : Location) : Option Octets :=
  match disk.item? location with
  | some (.file content) => some content
  | _ => none

theorem contentAt?_eq_some_iff {disk : Disk} {location : Location} {content : Octets} :
    disk.contentAt? location = some content ↔ disk.item? location = some (.file content) := by
  unfold contentAt?
  split
  · next other found => simp [found]
  · next other =>
    simp only [reduceCtorEq, false_iff]
    exact other content

/-- No link stands at or below a location. -/
def IsLinkFree (disk : Disk) (location : Location) : Prop :=
  ∀ below target, disk.item? (location ++ below) ≠ some (.link target)

theorem IsLinkFree.child {disk : Disk} {location : Location} (linkFree : disk.IsLinkFree location)
    (name : String) : disk.IsLinkFree (location ++ [name]) := by
  intro below
  rw [List.append_assoc]
  exact linkFree _

/-- A disk none of whose items is a link. -/
theorem isLinkFree_of_items {disk : Disk}
    (noLink : ∀ entry ∈ disk.items, ∀ target, entry.2 ≠ .link target) (location : Location) :
    disk.IsLinkFree location := by
  intro below target stands
  unfold item? at stands
  split at stands
  · cases stands
  · exact noLink _ (Entries.mem_of_get? stands) target rfl

section Items

variable {disk : Disk} {location : Location}

private theorem mem_keys_of_item? {name : String} {item : Item}
    (stands : disk.item? (location ++ [name]) = some item) :
    location ++ [name] ∈ Entries.keys disk.items := by
  rw [item?, if_neg (by simp)] at stands
  exact (Entries.get?_isSome_iff _ _).mp (Option.isSome_of_eq_some stands)

/-- Everything above an item is a directory. -/
theorem item?_above (wellFormed : disk.IsWellFormed) {below : List String} {item : Item}
    (stands : disk.item? (location ++ below) = some item) (proper : below ≠ []) :
    disk.item? location = some .directory := by
  induction below using List.reverseRecOn generalizing item with
  | nil => exact absurd rfl proper
  | append_singleton below name ih =>
    rw [← List.append_assoc] at stands
    have parent := wellFormed.above _ (mem_keys_of_item? stands)
    rw [List.dropLast_concat] at parent
    by_cases last : below = []
    · rwa [last, List.append_nil] at parent
    · exact ih parent last

theorem isLegalName_of_item? (wellFormed : disk.IsWellFormed) {item : Item}
    (stands : disk.item? location = some item) : ∀ name ∈ location, IsLegalName name := by
  rcases List.eq_nil_or_concat location with rfl | ⟨above, last, rfl⟩
  · simp
  · rw [List.concat_eq_append] at stands ⊢
    exact wellFormed.legal _ (mem_keys_of_item? stands)

/-- A location is no longer than the disk has items: the locations on the way to it are some of
them. -/
theorem length_le_of_item? (wellFormed : disk.IsWellFormed) {item : Item}
    (stands : disk.item? location = some item) : location.length ≤ disk.items.length := by
  let way := (List.range location.length).map fun count => location.take (count + 1)
  have distinct : way.Nodup := by
    refine List.Nodup.map_on (fun first inside second also same => ?_) List.nodup_range
    rw [List.mem_range] at inside also
    have lengths := congrArg List.length same
    rw [List.length_take, List.length_take] at lengths
    omega
  have standing : way ⊆ Entries.keys disk.items := by
    intro prior member
    obtain ⟨count, inside, rfl⟩ := List.mem_map.mp member
    rw [List.mem_range] at inside
    have whole := List.take_append_drop (count + 1) location
    have reached : ∃ item, disk.item? (location.take (count + 1)) = some item := by
      by_cases last : location.drop (count + 1) = []
      · rw [last, List.append_nil] at whole
        exact ⟨item, by rw [whole, stands]⟩
      · exact ⟨_, item?_above wellFormed (whole.symm ▸ stands) last⟩
    obtain ⟨item, reached⟩ := reached
    rw [List.take_succ_eq_append_getElem inside] at reached ⊢
    exact mem_keys_of_item? reached
  have counted := (distinct.subperm standing).length_le
  simpa [way, Entries.keys] using counted

/-- What stands below a location is within the reach of a walk through the disk. -/
theorem length_le_depthBound (wellFormed : disk.IsWellFormed) {item : Item} {below : List String}
    (stands : disk.item? (location ++ below) = some item) : below.length ≤ disk.depthBound := by
  have reached := length_le_of_item? wellFormed stands
  rw [List.length_append] at reached
  rw [depthBound, linkLimit]
  omega

end Items

section Walk

variable {disk : Disk} {links : Nat} {dir location : Location} {names : List String}

theorem walk_enters {name : String} (notDots : name ≠ "..") (short : name.utf8ByteSize ≤ nameLimit)
    (stands : disk.item? (dir ++ [name]) = some .directory) (rest : List String) :
    disk.walk links dir (name :: rest) = disk.walk links (dir ++ [name]) rest := by
  rw [walk, if_neg notDots, if_neg (Nat.not_lt.mpr short)]
  simp only [stands]

theorem walk_follows {name target : String} (notDots : name ≠ "..")
    (short : name.utf8ByteSize ≤ nameLimit)
    (stands : disk.item? (dir ++ [name]) = some (.link target)) (rest : List String) :
    disk.walk (links + 1) dir (name :: rest) =
      disk.walk links (if (FilePath.ofText target).root = "" then dir else [])
        ((FilePath.ofText target).names ++ rest) := by
  rw [walk, if_neg notDots, if_neg (Nat.not_lt.mpr short)]
  simp only [stands]

theorem walk_of_absent {name : String} (notDots : name ≠ "..")
    (short : name.utf8ByteSize ≤ nameLimit) (absent : disk.item? (dir ++ [name]) = none)
    (rest : List String) :
    disk.walk links dir (name :: rest) =
      if rest.isEmpty then .ok (.vacant (dir ++ [name])) else .error .notFound := by
  rw [walk, if_neg notDots, if_neg (Nat.not_lt.mpr short)]
  simp only [absent]

theorem walk_of_long {name : String} (notDots : name ≠ "..")
    (long : nameLimit < name.utf8ByteSize) (rest : List String) :
    disk.walk links dir (name :: rest) = .error .nameTooLong := by
  rw [walk, if_neg notDots, if_pos long]

theorem walk_of_file {name : String} (notDots : name ≠ "..") (short : name.utf8ByteSize ≤ nameLimit)
    {content : Octets} (stands : disk.item? (dir ++ [name]) = some (.file content))
    (rest : List String) :
    disk.walk links dir (name :: rest) =
      if rest.isEmpty then .ok (.found (dir ++ [name]) (.file content))
      else .error .notDirectory := by
  rw [walk, if_neg notDots, if_neg (Nat.not_lt.mpr short)]
  simp only [stands]

/-- A lookup that starts at a directory ends at what stands there. -/
theorem item?_of_walk (wellFormed : disk.IsWellFormed) (stands : disk.item? dir = some .directory)
    {item : Item} (walked : disk.walk links dir names = .ok (.found location item)) :
    disk.item? location = some item := by
  fun_induction Disk.walk disk links dir names with
  | case1 links dir =>
    cases walked
    exact stands
  | case2 links dir rest ih =>
    refine ih ?_ walked
    rcases List.eq_nil_or_concat dir with rfl | ⟨above, last, rfl⟩
    · exact stands
    · rw [List.concat_eq_append] at stands ⊢
      exact wellFormed.above _ (mem_keys_of_item? stands)
  | case6 links dir name rest notDots short next found ih => exact ih found walked
  | case7 links dir name rest notDots short next content found last =>
    simp only [Except.ok.injEq, Place.found.injEq] at walked
    rw [← walked.1, ← walked.2]
    exact found
  | case10 dir name rest notDots short next target found links path ih =>
    refine ih ?_ walked
    split
    · exact stands
    · rfl
  | _ => simp at walked

/-- A lookup that ends at a directory goes on from there. -/
theorem walk_append (walked : disk.walk links dir names = .ok (.found location .directory)) :
    ∃ left, ∀ below, disk.walk links dir (names ++ below) = disk.walk left location below := by
  fun_induction Disk.walk disk links dir names with
  | case1 links dir =>
    cases walked
    exact ⟨links, fun below => rfl⟩
  | case2 links dir rest ih =>
    obtain ⟨left, goes⟩ := ih walked
    refine ⟨left, fun below => ?_⟩
    rw [List.cons_append, walk, if_pos rfl, goes]
  | case6 links dir name rest notDots short next stands ih =>
    obtain ⟨left, goes⟩ := ih walked
    refine ⟨left, fun below => ?_⟩
    rw [List.cons_append, walk_enters notDots (Nat.not_lt.mp short) stands, goes]
  | case10 dir name rest notDots short next target stands links path ih =>
    rw [dite_eq_ite] at ih
    obtain ⟨left, goes⟩ := ih walked
    refine ⟨left, fun below => ?_⟩
    rw [List.cons_append, walk_follows notDots (Nat.not_lt.mp short) stands, ← List.append_assoc,
      goes]
  | _ => simp at walked

/-- Below a directory without links a lookup ends at what stands at the location. -/
private theorem eq_of_walk (linkFree : disk.IsLinkFree dir) (notDots : ".." ∉ names)
    (stands : disk.item? dir = some .directory) {item : Item}
    (walked : disk.walk links dir names = .ok (.found location item)) :
    location = dir ++ names ∧ disk.item? (dir ++ names) = some item := by
  induction names generalizing dir with
  | nil =>
    rw [walk] at walked
    cases walked
    exact ⟨(List.append_nil _).symm, (List.append_nil _).symm ▸ stands⟩
  | cons name rest ih =>
    simp only [List.mem_cons, not_or] at notDots
    rw [walk, if_neg (Ne.symm notDots.1)] at walked
    split at walked
    · cases walked
    · rw [List.append_cons]
      cases found : disk.item? (dir ++ [name]) with
      | none =>
        simp only [found] at walked
        split at walked <;> simp at walked
      | some entry =>
        cases entry with
        | directory =>
          simp only [found] at walked
          exact ih (linkFree.child name) notDots.2 found walked
        | file content =>
          simp only [found] at walked
          split at walked
          · next last =>
            rw [List.isEmpty_iff.mp last, List.append_nil, found]
            cases walked
            exact ⟨rfl, rfl⟩
          · cases walked
        | link target => exact absurd found (linkFree [name] target)

/-- Below a directory without links a lookup reaches whatever stands there. -/
theorem walk_of_item? (wellFormed : disk.IsWellFormed) (linkFree : disk.IsLinkFree dir)
    (stands : disk.item? dir = some .directory) {item : Item}
    (reached : disk.item? (dir ++ names) = some item) :
    disk.walk links dir names = .ok (.found (dir ++ names) item) := by
  induction names generalizing dir with
  | nil =>
    rw [List.append_nil, stands] at reached
    rw [walk, List.append_nil, Option.some.inj reached]
  | cons name rest ih =>
    have legal := isLegalName_of_item? wellFormed reached name (by simp)
    have notLong : ¬nameLimit < name.utf8ByteSize := Nat.not_lt.mpr legal.short
    rw [List.append_cons] at reached ⊢
    by_cases last : rest = []
    · rw [last, List.append_nil] at reached ⊢
      rw [walk, if_neg legal.notDots, if_neg notLong]
      cases item with
      | directory => simp only [reached, walk]
      | file content => simp only [reached, List.isEmpty_nil, if_true]
      | link target => exact absurd reached (linkFree [name] target)
    · have entered := item?_above wellFormed reached last
      rw [walk_enters legal.notDots legal.short entered]
      exact ih (linkFree.child name) entered reached

/-- Below a directory without links a lookup finds the items that stand there, and no others. -/
theorem walk_eq_found_iff (wellFormed : disk.IsWellFormed) (linkFree : disk.IsLinkFree dir)
    (stands : disk.item? dir = some .directory) (notDots : ".." ∉ names) {item : Item} :
    disk.walk links dir names = .ok (.found location item) ↔
      location = dir ++ names ∧ disk.item? (dir ++ names) = some item := by
  constructor
  · exact eq_of_walk linkFree notDots stands
  · rintro ⟨rfl, reached⟩
    exact walk_of_item? wellFormed linkFree stands reached

/-- Going down from a directory of a disk on which there are no links. -/
def descend (disk : Disk) (dir : Location) : List String → Except Reason Place
  | [] => .ok (.found dir .directory)
  | name :: rest =>
    if name = ".." then disk.descend dir.dropLast rest
    else if nameLimit < name.utf8ByteSize then .error .nameTooLong
    else
      match disk.item? (dir ++ [name]) with
      | none => if rest.isEmpty then .ok (.vacant (dir ++ [name])) else .error .notFound
      | some .directory => disk.descend (dir ++ [name]) rest
      | some (.file content) =>
        if rest.isEmpty then .ok (.found (dir ++ [name]) (.file content)) else .error .notDirectory
      | some (.link _) => .error .tooManyLinks

private theorem walk_eq_descend (linkFree : disk.IsLinkFree []) (links : Nat) (dir : Location)
    (names : List String) : disk.walk links dir names = disk.descend dir names := by
  induction names generalizing dir with
  | nil => rw [walk, descend]
  | cons name rest ih =>
    rw [walk, descend]
    by_cases dots : name = ".."
    · rw [if_pos dots, if_pos dots, ih]
    · rw [if_neg dots, if_neg dots]
      cases found : disk.item? (dir ++ [name]) with
      | none => simp only [found]
      | some item =>
        cases item with
        | directory => simp only [found, ih]
        | file content => simp only [found]
        | link target => exact absurd found (linkFree _ target)

/-- The lookups of a disk without links, in a form that can be computed. -/
theorem lookup_eq_descend (linkFree : disk.IsLinkFree []) : disk.lookup = fun path =>
    match refusal? path with
    | some reason => .error reason
    | none => disk.descend (disk.base path) path.names := by
  funext path
  rw [lookup]
  cases refusal? path with
  | some reason => rfl
  | none => exact walk_eq_descend linkFree _ _ _

end Walk

section Refusals

variable {disk : Disk} {path : FilePath}

/-- A path is taken if its text is short enough and none of its names holds a null character. -/
theorem refusal?_eq_none_iff : refusal? path = none ↔
    (∀ name ∈ path.names, '\x00' ∉ name.toList) ∧ path.text.utf8ByteSize ≤ pathLimit := by
  unfold refusal?
  split
  · next null =>
    obtain ⟨name, member, inside⟩ := List.any_eq_true.mp null
    simp only [reduceCtorEq, false_iff, not_and]
    exact fun clear => absurd (by simpa using inside) (clear name member)
  · next clear =>
    have noNull : ∀ name ∈ path.names, '\x00' ∉ name.toList := by simpa using clear
    split
    · next long => simpa using fun _ => long
    · next short => exact iff_of_true rfl ⟨noNull, Nat.not_lt.mp short⟩

theorem refusal?_of_null {name : String} (member : name ∈ path.names)
    (null : '\x00' ∈ name.toList) : refusal? path = some .nullInName := by
  have found : (path.names.any fun name => name.toList.contains '\x00') = true :=
    List.any_eq_true.mpr ⟨name, member, by simpa using null⟩
  rw [refusal?, if_pos found]

theorem refusal?_of_long (noNull : ∀ name ∈ path.names, '\x00' ∉ name.toList)
    (long : pathLimit < path.text.utf8ByteSize) : refusal? path = some .nameTooLong := by
  have clear : ¬(path.names.any fun name => name.toList.contains '\x00') = true := by
    simpa using noNull
  rw [refusal?, if_neg clear, if_pos long]

/-- A lookup that ends somewhere has taken its path. -/
theorem lookup_eq_ok_iff {place : Place} : disk.lookup path = .ok place ↔
    refusal? path = none ∧ disk.walk linkLimit (disk.base path) path.names = .ok place := by
  unfold lookup
  split
  · next reason refused => simp [refused]
  · next taken => simp [taken]

end Refusals

section Names

variable {disk : Disk} {location : Location} {name : String}

private theorem nameIn?_eq_some_iff {other : Location} :
    nameIn? location other = some name ↔ other = location ++ [name] := by
  rcases List.eq_nil_or_concat other with rfl | ⟨above, last, rfl⟩
  · simp [nameIn?]
  · simp [nameIn?]

theorem mem_namesIn_iff :
    name ∈ disk.namesIn location ↔ (disk.item? (location ++ [name])).isSome := by
  rw [namesIn, List.mem_mergeSort, List.mem_filterMap]
  rw [item?, if_neg (by simp), Entries.get?_isSome_iff, Entries.keys, List.mem_map]
  constructor
  · rintro ⟨entry, member, found⟩
    exact ⟨entry, member, nameIn?_eq_some_iff.mp found⟩
  · rintro ⟨entry, member, found⟩
    exact ⟨entry, member, nameIn?_eq_some_iff.mpr found⟩

/-- Only a directory has names in it. -/
theorem namesIn_eq_nil (wellFormed : disk.IsWellFormed)
    (other : disk.item? location ≠ some .directory) : disk.namesIn location = [] := by
  apply List.eq_nil_iff_forall_not_mem.mpr
  intro name member
  obtain ⟨item, stands⟩ := Option.isSome_iff_exists.mp (mem_namesIn_iff.mp member)
  exact other (item?_above wellFormed stands (by simp))

theorem nodup_namesIn (wellFormed : disk.IsWellFormed) (location : Location) :
    (disk.namesIn location).Nodup := by
  rw [namesIn, (List.mergeSort_perm _ _).nodup_iff]
  have mapped : (disk.items.filterMap fun entry => nameIn? location entry.1) =
      (Entries.keys disk.items).filterMap (nameIn? location) := by
    rw [Entries.keys, List.filterMap_map]
    rfl
  rw [mapped]
  refine wellFormed.distinct.filterMap fun first second name here also => ?_
  rw [nameIn?_eq_some_iff.mp here, nameIn?_eq_some_iff.mp also]

end Names

end EditorPlugins.Disk
