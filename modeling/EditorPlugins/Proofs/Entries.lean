import EditorPlugins.Entries
import Mathlib.Data.List.Induction

/-! # Keys and order of maps

A map is looked up by its first entry of a key, and its keys tell what it holds: setting a key that
is present moves nothing, setting another one adds it at the end, and removing one leaves the
others in their order. Writing what a map already says does not change it.
-/

namespace EditorPlugins

section Distinct

variable {Item : Type} [DecidableEq Item]

private theorem mem_keepDistinct (items kept : List Item) (item : Item) :
    item ∈ items.foldl (fun kept item => if item ∈ kept then kept else kept ++ [item]) kept ↔
      item ∈ kept ∨ item ∈ items := by
  induction items generalizing kept with
  | nil => simp
  | cons first rest ih =>
    rw [List.foldl_cons, ih]
    by_cases known : first ∈ kept
    · simp only [if_pos known, List.mem_cons]
      constructor
      · exact Or.imp_right Or.inr
      · rintro (old | rfl | later)
        · exact Or.inl old
        · exact Or.inl known
        · exact Or.inr later
    · simp [if_neg known, or_assoc]

theorem mem_distinct {items : List Item} {item : Item} : item ∈ distinct items ↔ item ∈ items := by
  simp [distinct, mem_keepDistinct]

theorem nodup_distinct (items : List Item) : (distinct items).Nodup := by
  suffices kept : ∀ kept : List Item, kept.Nodup → (items.foldl
      (fun kept item => if item ∈ kept then kept else kept ++ [item]) kept).Nodup from
    kept [] List.nodup_nil
  intro kept nodup
  induction items generalizing kept with
  | nil => exact nodup
  | cons first rest ih =>
    rw [List.foldl_cons]
    apply ih
    split
    · exact nodup
    · next unknown =>
      rw [List.nodup_append]
      refine ⟨nodup, by simp, fun item member last here same => unknown ?_⟩
      rw [← List.mem_singleton.mp here, ← same]
      exact member

/-- New and distinct items are all kept at the end. -/
theorem distinct_append_of_nodup {items later : List Item} (nodup : later.Nodup)
    (new : ∀ item ∈ later, item ∉ items) : distinct (items ++ later) = distinct items ++ later := by
  have fresh : ∀ item ∈ later, item ∉ distinct items := fun item member known =>
    new item member (mem_distinct.mp known)
  rw [distinct, List.foldl_append, ← distinct]
  clear new
  generalize distinct items = kept at fresh
  induction later generalizing kept with
  | nil => simp
  | cons first rest ih =>
    obtain ⟨absent, nodup⟩ := List.nodup_cons.mp nodup
    obtain ⟨unknown, others⟩ := List.forall_mem_cons.mp fresh
    have still : ∀ item ∈ rest, item ∉ kept ++ [first] := by
      intro item member known
      rcases List.mem_append.mp known with known | known
      · exact others item member known
      · exact absent (List.mem_singleton.mp known ▸ member)
    rw [List.foldl_cons, if_neg unknown, ih nodup _ still, List.append_assoc]
    rfl

end Distinct

namespace Entries

variable {Key Item : Type} [DecidableEq Key]

theorem get?_eq_none_iff (entries : Entries Key Item) (key : Key) :
    get? entries key = none ↔ key ∉ keys entries := by
  induction entries with
  | nil => simp [get?, keys]
  | cons entry rest ih =>
    by_cases same : entry.1 = key
    · simp [get?, keys, same]
    · simp only [get?, if_neg same, ih, keys, List.map_cons, List.mem_cons, not_or]
      exact ⟨fun absent => ⟨Ne.symm same, absent⟩, And.right⟩

theorem get?_isSome_iff (entries : Entries Key Item) (key : Key) :
    (get? entries key).isSome ↔ key ∈ keys entries := by
  rw [← Option.ne_none_iff_isSome, ne_eq, get?_eq_none_iff, Decidable.not_not]

theorem mem_of_get? {entries : Entries Key Item} {key : Key} {item : Item}
    (found : get? entries key = some item) : (key, item) ∈ entries := by
  induction entries with
  | nil => simp [get?] at found
  | cons entry rest ih =>
    by_cases same : entry.1 = key
    · simp only [get?, if_pos same, Option.some.injEq] at found
      rw [← same, ← found]
      exact List.mem_cons_self
    · simp only [get?, if_neg same] at found
      exact List.mem_cons_of_mem _ (ih found)

/-- Where keys are distinct, every entry is the one that is found. -/
theorem get?_of_mem {entries : Entries Key Item} (distinct : (keys entries).Nodup) {key : Key}
    {item : Item} (member : (key, item) ∈ entries) : get? entries key = some item := by
  induction entries with
  | nil => simp at member
  | cons entry rest ih =>
    simp only [keys, List.map_cons, List.nodup_cons] at distinct
    rcases List.mem_cons.mp member with rfl | member
    · simp [get?]
    · have different : entry.1 ≠ key := by
        intro same
        exact distinct.1 (same ▸ List.mem_map_of_mem (f := Prod.fst) member)
      simp only [get?, if_neg different]
      exact ih distinct.2 member

theorem keys_set_of_mem {entries : Entries Key Item} {key : Key} (item : Item)
    (present : key ∈ keys entries) : keys (set entries key item) = keys entries := by
  induction entries with
  | nil => simp [keys] at present
  | cons entry rest ih =>
    by_cases same : entry.1 = key
    · simp [set, keys, same]
    · have later : key ∈ keys rest := by
        rcases List.mem_cons.mp present with found | later
        · exact absurd found.symm same
        · exact later
      simpa [set, keys, same] using ih later

theorem set_of_not_mem {entries : Entries Key Item} {key : Key} (item : Item)
    (absent : key ∉ keys entries) : set entries key item = entries ++ [(key, item)] := by
  induction entries with
  | nil => rfl
  | cons entry rest ih =>
    simp only [keys, List.map_cons, List.mem_cons, not_or] at absent
    have different : entry.1 ≠ key := Ne.symm absent.1
    simp [set, different, ih absent.2]

theorem keys_set_of_not_mem {entries : Entries Key Item} {key : Key} (item : Item)
    (absent : key ∉ keys entries) : keys (set entries key item) = keys entries ++ [key] := by
  simp [set_of_not_mem item absent, keys]

theorem mem_set {entries : Entries Key Item} {key : Key} {item : Item} {entry : Key × Item}
    (member : entry ∈ set entries key item) : entry ∈ entries ∨ entry = (key, item) := by
  induction entries with
  | nil => exact .inr (List.mem_singleton.mp member)
  | cons first rest ih =>
    simp only [set] at member
    split at member
    · next same =>
      rcases List.mem_cons.mp member with rfl | later
      · exact .inr (by rw [same])
      · exact .inl (List.mem_cons_of_mem _ later)
    · rcases List.mem_cons.mp member with rfl | later
      · exact .inl List.mem_cons_self
      · exact (ih later).imp_left (List.mem_cons_of_mem _)

/-- Every entry of a map that pairs write is one of the pairs. -/
theorem mem_of_mem_ofPairs {pairs : Entries Key Item} {entry : Key × Item}
    (member : entry ∈ ofPairs pairs) : entry ∈ pairs := by
  induction pairs using List.reverseRecOn with
  | nil => exact member
  | append_singleton pairs last ih =>
    rw [ofPairs, update_append] at member
    rcases mem_set member with old | rfl
    · exact List.mem_append_left _ (ih old)
    · exact List.mem_append_right _ List.mem_cons_self

omit [DecidableEq Key] in
theorem not_mem_of_nodup_append {before after : Entries Key Item} {entry : Key × Item}
    (distinct : (keys (before ++ entry :: after)).Nodup) : entry.1 ∉ keys before := by
  simp only [keys, List.map_append, List.map_cons] at distinct
  intro member
  exact (List.nodup_append.mp distinct).2.2 _ member _ List.mem_cons_self rfl

/-- Setting a key keeps the keys distinct. -/
theorem nodup_keys_set {entries : Entries Key Item} (distinct : (keys entries).Nodup) (key : Key)
    (item : Item) : (keys (set entries key item)).Nodup := by
  by_cases present : key ∈ keys entries
  · rw [keys_set_of_mem item present]
    exact distinct
  · rw [keys_set_of_not_mem item present, List.nodup_append]
    refine ⟨distinct, by simp, ?_⟩
    rintro other member _ last rfl
    exact present (List.mem_singleton.mp last ▸ member)

/-- The keys of a map stand in the order in which they were first written. -/
theorem keys_ofPairs (pairs : Entries Key Item) : keys (ofPairs pairs) = distinct (keys pairs) := by
  -- The induction is on the pairs, each of which may add to the map that stands at the start.
  suffices grown : ∀ entries : Entries Key Item, keys (update entries pairs) =
      (keys pairs).foldl (fun kept key => if key ∈ kept then kept else kept ++ [key])
        (keys entries) from grown []
  intro entries
  induction pairs generalizing entries with
  | nil => rfl
  | cons pair pairs ih =>
    change keys (update (set entries pair.1 pair.2) pairs) = (pair.1 :: keys pairs).foldl _ _
    rw [List.foldl_cons, ih]
    by_cases present : pair.1 ∈ keys entries
    · rw [keys_set_of_mem _ present, if_pos present]
    · rw [keys_set_of_not_mem _ present, if_neg present]

/-- Setting a key once more takes the place of what it was set to. -/
theorem set_set (entries : Entries Key Item) (key : Key) (old item : Item) :
    set (set entries key old) key item = set entries key item := by
  induction entries with
  | nil => simp [set]
  | cons entry rest ih => by_cases same : entry.1 = key <;> simp [set, same, ih]

/-- A key that is present keeps its place, so other keys may be set before it or after it. -/
theorem set_comm {entries : Entries Key Item} {key other : Key} (item value : Item)
    (present : key ∈ keys entries) (different : other ≠ key) :
    set (set entries other value) key item = set (set entries key item) other value := by
  induction entries with
  | nil => cases present
  | cons entry rest ih =>
    by_cases same : entry.1 = key
    · simp [set, same, Ne.symm different]
    · have later : key ∈ keys rest := (List.mem_cons.mp present).resolve_left (Ne.symm same)
      by_cases found : entry.1 = other
      · simp [set, found, different]
      · simp [set, same, found, ih later]

private theorem set_update_of_not_mem {entries later : Entries Key Item} {key : Key} (item : Item)
    (present : key ∈ keys entries) (absent : key ∉ keys later) :
    set (update entries later) key item = update (set entries key item) later := by
  induction later generalizing entries with
  | nil => rfl
  | cons entry later ih =>
    have other : key ∉ keys later := mt (List.mem_cons_of_mem _) absent
    have different : entry.1 ≠ key := fun same => absent (same ▸ List.mem_cons_self)
    have still : key ∈ keys (set entries entry.1 entry.2) := by
      rw [← get?_isSome_iff, get?_set_of_ne _ _ (Ne.symm different), get?_isSome_iff]
      exact present
    change set (update (set entries entry.1 entry.2) later) key item = update (set _ _ _) later
    rw [ih still other, set_comm item entry.2 present different]

/-- Setting a key of a map that is written later sets it behind all that is written. -/
theorem update_set {entries later : Entries Key Item} (distinct : (keys later).Nodup) (key : Key)
    (item : Item) : update entries (set later key item) = set (update entries later) key item := by
  induction later generalizing entries with
  | nil => rfl
  | cons entry later ih =>
    obtain ⟨absent, distinct⟩ := List.nodup_cons.mp distinct
    change _ = set (update (set entries entry.1 entry.2) later) key item
    by_cases same : entry.1 = key
    · have present : key ∈ keys (set entries key entry.2) := by
        rw [← get?_isSome_iff, get?_set_self]
        rfl
      rw [same] at absent ⊢
      rw [set_update_of_not_mem item present absent, set_set, set, if_pos same]
      simp [update, same]
    · rw [set, if_neg same]
      exact ih distinct

/-- Writing the map that some pairs write is writing the pairs. -/
theorem update_ofPairs (entries pairs : Entries Key Item) :
    update entries (ofPairs pairs) = update entries pairs := by
  induction pairs using List.reverseRecOn with
  | nil => rfl
  | append_singleton pairs last ih =>
    have distinct : (keys (ofPairs pairs)).Nodup := by
      rw [keys_ofPairs]
      exact nodup_distinct _
    have grown : ofPairs (pairs ++ [last]) = set (ofPairs pairs) last.1 last.2 :=
      update_append [] pairs [last]
    rw [grown, update_set distinct, ih, update_append]
    rfl

/-- What is written later is found first. -/
theorem get?_update (entries later : Entries Key Item) (key : Key) :
    get? (update entries later) key = (get? (ofPairs later) key).or (get? entries key) := by
  induction later using List.reverseRecOn with
  | nil => rfl
  | append_singleton later pair ih =>
    rw [ofPairs, update_append, update_append, ← ofPairs]
    change get? (set _ pair.1 pair.2) key = (get? (set _ pair.1 pair.2) key).or _
    by_cases same : key = pair.1
    · rw [same, get?_set_self, get?_set_self, Option.some_or]
    · rw [get?_set_of_ne _ _ same, get?_set_of_ne _ _ same, ih]

theorem get?_ofPairs_eq_none {pairs : Entries Key Item} {key : Key} (absent : key ∉ keys pairs) :
    get? (ofPairs pairs) key = none := by
  rw [get?_eq_none_iff, keys_ofPairs, mem_distinct]
  exact absent

/-- What is written last is found. -/
theorem get?_ofPairs_of_last {earlier later : Entries Key Item} {key : Key} (item : Item)
    (last : key ∉ keys later) :
    get? (ofPairs (earlier ++ (key, item) :: later)) key = some item := by
  have split : ofPairs (earlier ++ (key, item) :: later) =
      update (set (ofPairs earlier) key item) later := update_append [] earlier _
  rw [split, get?_update, get?_ofPairs_eq_none last, get?_set_self, Option.none_or]

/-- Where written pairs agree on the value of each key, that value is found. -/
theorem get?_ofPairs {pairs : Entries Key Item} {find : Key → Option Item}
    (agree : ∀ pair ∈ pairs, find pair.1 = some pair.2) (key : Key) :
    get? (ofPairs pairs) key = if key ∈ keys pairs then find key else none := by
  suffices grown : ∀ entries : Entries Key Item, get? (update entries pairs) key =
      if key ∈ keys pairs then find key else get? entries key from grown []
  intro entries
  induction pairs generalizing entries with
  | nil => rfl
  | cons pair pairs ih =>
    obtain ⟨first, later⟩ := List.forall_mem_cons.mp agree
    change get? (update (set entries pair.1 pair.2) pairs) key = _
    rw [ih later]
    have members : key ∈ keys (pair :: pairs) ↔ key = pair.1 ∨ key ∈ keys pairs := List.mem_cons
    by_cases present : key ∈ keys pairs
    · rw [if_pos present, if_pos (members.mpr (Or.inr present))]
    · by_cases same : key = pair.1
      · rw [if_neg present, if_pos (members.mpr (Or.inl same)), same, get?_set_self, first]
      · have absent : key ∉ keys (pair :: pairs) := fun member =>
          (members.mp member).elim same present
        rw [if_neg present, if_neg absent, get?_set_of_ne _ _ same]

theorem keys_erase (entries : Entries Key Item) (key : Key) :
    keys (erase entries key) = (keys entries).filter (· ≠ key) := by
  simp only [keys, erase, List.filter_map]
  rfl

/-- Setting a key to the value that it has changes nothing. -/
theorem set_of_get? {entries : Entries Key Item} {key : Key} {item : Item}
    (found : get? entries key = some item) : set entries key item = entries := by
  induction entries with
  | nil => simp [get?] at found
  | cons entry rest ih =>
    rcases entry with ⟨other, old⟩
    by_cases same : other = key
    · simp only [get?, if_pos same, Option.some.injEq] at found
      simp [set, same, found]
    · simp only [get?, if_neg same] at found
      simp [set, same, ih found]

/-- Removing a key that is absent changes nothing. -/
theorem erase_of_get?_eq_none {entries : Entries Key Item} {key : Key}
    (absent : get? entries key = none) : erase entries key = entries := by
  rw [get?_eq_none_iff] at absent
  apply List.filter_eq_self.mpr
  rintro ⟨other, item⟩ member
  have different : other ≠ key := by
    rintro rfl
    exact absent (List.mem_map_of_mem member)
  simp [different]

/-- Writing entries with new and distinct keys appends them. -/
theorem update_of_nodup {entries later : Entries Key Item}
    (distinct : (keys (entries ++ later)).Nodup) : update entries later = entries ++ later := by
  induction later generalizing entries with
  | nil => simp [update]
  | cons entry rest ih =>
    have absent := not_mem_of_nodup_append distinct
    have moved : entries ++ entry :: rest = (entries ++ [entry]) ++ rest :=
      List.append_cons entries entry rest
    rw [moved] at distinct ⊢
    rw [update, List.foldl_cons, set_of_not_mem entry.2 absent]
    exact ih distinct

theorem ofPairs_of_nodup {pairs : Entries Key Item} (distinct : (keys pairs).Nodup) :
    ofPairs pairs = pairs :=
  @update_of_nodup _ _ _ [] pairs distinct

/-- A map stays as it is when its values do. -/
theorem mapValues_eq_self_iff {Key Value : Type} {entries : Entries Key Value} {f : Value → Value} :
    (entries.map fun entry => (entry.1, f entry.2)) = entries ↔
      ∀ entry ∈ entries, f entry.2 = entry.2 := by
  induction entries with
  | nil => simp
  | cons entry entries ih =>
    rw [List.map_cons, List.cons.injEq, ih, List.forall_mem_cons, Prod.ext_iff]
    simp

end Entries

end EditorPlugins
