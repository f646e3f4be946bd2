import EditorPlugins.Proofs.Entries
import EditorPlugins.Proofs.Frontmatter.Written
import EditorPlugins.Proofs.Value.Keys

/-! # Frontmatter is read as it was written

Reading what was written gives the entries with content, the requested keys first. That an entry is
requested more than once does not matter, as it is written with the same value each time.
-/

namespace EditorPlugins.Frontmatter

open Text Number

private theorem kept_cons (entry : Scalar × Value) (data : Mapping) :
    kept (entry :: data) = ((keptValue? entry.2).map (entry.1, ·)).toList ++ kept data := by
  cases found : keptValue? entry.2 <;> simp [kept, found]

private theorem keys_kept_sublist (data : Mapping) :
    (Entries.keys (kept data)).Sublist (Entries.keys data) := by
  induction data with
  | nil => exact List.Sublist.refl _
  | cons entry data ih =>
    rw [kept_cons]
    cases keptValue? entry.2 with
    | none => exact ih.trans (List.sublist_cons_self _ _)
    | some value => exact ih.cons_cons entry.1

theorem nodup_keys_kept {data : Mapping} (nodup : (Entries.keys data).Nodup) :
    (Entries.keys (kept data)).Nodup :=
  nodup.sublist (keys_kept_sublist data)

/-- What is written at a key is what is written of its value. -/
theorem get?_kept {data : Mapping} (nodup : (Entries.keys data).Nodup) (key : Scalar) :
    Entries.get? (kept data) key = (Entries.get? data key).bind keptValue? := by
  induction data with
  | nil => rfl
  | cons entry data ih =>
    obtain ⟨new, nodup⟩ := List.nodup_cons.mp nodup
    have later := ih nodup
    rw [kept_cons]
    by_cases same : entry.1 = key
    · have absent : Entries.get? (kept data) key = none := by
        rw [Entries.get?_eq_none_iff]
        exact fun member => new (same ▸ (keys_kept_sublist data).mem member)
      cases found : keptValue? entry.2 <;> simp [Entries.get?, same, found, absent]
    · cases found : keptValue? entry.2 <;> simp [Entries.get?, same, later]

/-- The entries of a map at some keys, in the order of the keys. -/
def entriesAt (data : Mapping) (order : List Scalar) : Mapping :=
  order.filterMap fun key => (Entries.get? data key).map (key, ·)

/-- The entries of a map at other keys. -/
def entriesOutside (data : Mapping) (order : List Scalar) : Mapping :=
  data.filter fun entry => entry.1 ∉ order

/-- Text keys are requested by themselves. -/
theorem orderedEntries_texts (data : Mapping) (names : List String) :
    orderedEntries data (some (names.map .text)) =
      entriesAt data (names.map .text) ++ entriesOutside data (names.map .text) := by
  have requested : ((names.map Scalar.text).filterMap fun key =>
      (Mapping.lookup? data key).map (key, ·)) = entriesAt data (names.map .text) := by
    simp only [entriesAt, List.filterMap_map, Function.comp_def, Mapping.lookup?_text]
    rfl
  have others : (data.filter fun entry => !entry.1.isAmong (names.map .text)) =
      entriesOutside data (names.map .text) := by
    apply List.filter_congr
    intro entry _
    apply Bool.eq_iff_iff.mpr
    rw [Bool.not_eq_true', Bool.eq_false_iff, ne_eq, Scalar.isAmong_texts, decide_eq_true_eq]
  rw [orderedEntries, requested, others]

private theorem kept_entriesAt {data : Mapping} (nodup : (Entries.keys data).Nodup)
    (order : List Scalar) :
    kept (entriesAt data order) = entriesAt (kept data) order := by
  rw [kept, entriesAt, List.filterMap_filterMap, entriesAt]
  congr
  funext key
  rw [get?_kept nodup]
  cases Entries.get? data key <;> rfl

private theorem kept_entriesOutside (data : Mapping) (order : List Scalar) :
    kept (entriesOutside data order) = entriesOutside (kept data) order := by
  rw [kept, entriesOutside, List.filterMap_filter, entriesOutside, kept, List.filter_filterMap]
  congr
  funext entry
  cases keptValue? entry.2 <;> by_cases requested : entry.1 ∈ order <;>
    simp [requested, Option.filter]

private theorem keys_entriesAt (data : Mapping) (order : List Scalar) :
    Entries.keys (entriesAt data order) = order.filter (· ∈ Entries.keys data) := by
  induction order with
  | nil => rfl
  | cons key order ih =>
    cases found : Entries.get? data key with
    | none =>
      have absent : key ∉ Entries.keys data := (Entries.get?_eq_none_iff data key).mp found
      rw [entriesAt, List.filterMap_cons, found, List.filter_cons_of_neg (by simpa using absent)]
      exact ih
    | some value =>
      have present : key ∈ Entries.keys data :=
        (Entries.get?_isSome_iff data key).mp (by rw [found]; rfl)
      rw [entriesAt, List.filterMap_cons, found, List.filter_cons_of_pos (by simpa using present)]
      exact congrArg (key :: ·) ih

private theorem keys_entriesOutside (data : Mapping) (order : List Scalar) :
    Entries.keys (entriesOutside data order) = (Entries.keys data).filter (· ∉ order) := by
  rw [entriesOutside, Entries.keys, Entries.keys, List.filter_map]
  rfl

private theorem kept_orderedEntries {data : Mapping} (nodup : (Entries.keys data).Nodup)
    (order : Option (List String)) :
    kept (orderedEntries data (order.map (·.map .text))) =
      orderedEntries (kept data) (order.map (·.map .text)) := by
  cases order with
  | none => rfl
  | some names =>
    rw [Option.map_some, orderedEntries_texts, orderedEntries_texts, kept_append,
      kept_entriesAt nodup, kept_entriesOutside]

/-- Keys in the order of writing: the requested ones first, each at its first request. -/
def arranged (order keys : List Scalar) : List Scalar :=
  distinct (order.filter (· ∈ keys)) ++ keys.filter (· ∉ order)

/-- Where all keys are requested, each once, they come as requested. -/
theorem arranged_of_forall_mem {order keys : List Scalar} (nodup : order.Nodup)
    (requested : ∀ key ∈ keys, key ∈ order) : arranged order keys = order.filter (· ∈ keys) := by
  have others : keys.filter (· ∉ order) = [] := by
    rw [List.filter_eq_nil_iff]
    intro key member
    simpa using requested key member
  have once : distinct (order.filter (· ∈ keys)) = order.filter (· ∈ keys) :=
    @distinct_append_of_nodup _ _ [] _ (nodup.sublist List.filter_sublist) fun _ _ absent =>
      absurd absent List.not_mem_nil
  rw [arranged, others, once, List.append_nil]

section Ordered

variable {data : Mapping} (nodup : (Entries.keys data).Nodup) (order : List Scalar)

include nodup

private theorem get?_of_mem_ordered {pair : Scalar × Value}
    (member : pair ∈ entriesAt data order ++ entriesOutside data order) :
    Entries.get? data pair.1 = some pair.2 := by
  rcases List.mem_append.mp member with requested | other
  · obtain ⟨key, -, found⟩ := List.mem_filterMap.mp requested
    obtain ⟨value, present, rfl⟩ := Option.map_eq_some_iff.mp found
    exact present
  · exact Entries.get?_of_mem nodup (List.mem_filter.mp other).1

/-- Writing in order changes the order of the keys only. -/
theorem keys_ofPairs_ordered :
    Entries.keys (Entries.ofPairs (entriesAt data order ++ entriesOutside data order)) =
      arranged order (Entries.keys data) := by
  have others : ((Entries.keys data).filter (· ∉ order)).Nodup := nodup.sublist List.filter_sublist
  have new : ∀ key ∈ (Entries.keys data).filter (· ∉ order),
      key ∉ order.filter (· ∈ Entries.keys data) := by
    intro key other requested
    exact of_decide_eq_true (List.mem_filter.mp other).2 (List.mem_filter.mp requested).1
  rw [Entries.keys_ofPairs, Entries.keys, List.map_append, ← Entries.keys, ← Entries.keys,
    keys_entriesAt, keys_entriesOutside, distinct_append_of_nodup others new, arranged]

/-- Writing in order loses no entry. -/
theorem get?_ofPairs_ordered (key : Scalar) :
    Entries.get? (Entries.ofPairs (entriesAt data order ++ entriesOutside data order)) key =
      Entries.get? data key := by
  have agree : ∀ pair ∈ entriesAt data order ++ entriesOutside data order,
      Entries.get? data pair.1 = some pair.2 := fun pair => get?_of_mem_ordered nodup order
  rw [Entries.get?_ofPairs agree]
  split
  · rfl
  · next absent =>
    -- A key that is not written is neither requested and present nor among the others.
    symm
    rw [Entries.get?_eq_none_iff]
    intro present
    apply absent
    rw [Entries.keys, List.map_append, ← Entries.keys, ← Entries.keys, keys_entriesAt,
      keys_entriesOutside, List.mem_append]
    by_cases requested : key ∈ order
    · exact Or.inl (List.mem_filter.mpr ⟨requested, decide_eq_true present⟩)
    · exact Or.inr (List.mem_filter.mpr ⟨present, decide_eq_true requested⟩)

end Ordered

theorem mem_of_mem_orderedEntries {data : Mapping} {order : Option (List String)}
    {entry : Scalar × Value} (member : entry ∈ orderedEntries data (order.map (·.map .text))) :
    entry ∈ data := by
  cases order with
  | none => exact member
  | some names =>
    rw [Option.map_some, orderedEntries_texts] at member
    rcases List.mem_append.mp member with requested | other
    · obtain ⟨key, -, found⟩ := List.mem_filterMap.mp requested
      obtain ⟨value, present, rfl⟩ := Option.map_eq_some_iff.mp found
      exact Entries.mem_of_get? present
    · exact (List.mem_filter.mp other).1

/-- Reading what was written gives what is restored of the entries. -/
theorem readMapping_mappingLines {data : Mapping} {order : Option (List Scalar)}
    {lines : List (List Char)}
    (shaped : ∀ entry ∈ orderedEntries data order, EntryShape entry.1 entry.2)
    (formed : mappingLines data order = .ok lines) :
    readMapping .document lines =
      .ok (Entries.ofPairs (restored (orderedEntries data order))) := by
  have sets := sets_mappingLines
    (fun entry member _ one => sets_entryLines (shaped entry member) one) formed
  exact sets.readMapping_eq

theorem write_eq_ok {data : Mapping} {order : Option (List Scalar)} {lines : List (List Char)}
    (formed : mappingLines data order = .ok lines) :
    write data order = .ok (String.ofList (written lines)) := by
  rw [write, formed]
  rfl

/-- Lines that are written as a text are read as the same lines. -/
theorem read_written {lines : List (List Char)} (dialect : Dialect)
    (oneLine : ∀ line ∈ lines, IsOneLine line) :
    read dialect (String.ofList (written lines)) = readMapping dialect lines := by
  rw [read, String.toList_ofList, lineBodies_written oneLine]

private theorem get?_ofPairs_orderedEntries {data : Mapping} (nodup : (Entries.keys data).Nodup)
    (order : Option (List String)) (key : Scalar) :
    Entries.get? (Entries.ofPairs (orderedEntries data (order.map (·.map .text)))) key =
      Entries.get? data key := by
  cases order with
  | none => rw [Option.map_none, orderedEntries, Entries.ofPairs_of_nodup nodup]
  | some names =>
    rw [Option.map_some, orderedEntries_texts, get?_ofPairs_ordered nodup]

private theorem keys_ofPairs_orderedEntries {data : Mapping} (nodup : (Entries.keys data).Nodup)
    (order : Option (List String)) :
    Entries.keys (Entries.ofPairs (orderedEntries data (order.map (·.map .text)))) =
      arranged ((order.getD []).map .text) (Entries.keys data) := by
  cases order with
  | none =>
    rw [Option.map_none, orderedEntries, Entries.ofPairs_of_nodup nodup]
    simp only [arranged, distinct, Option.getD_none, List.map_nil, List.filter_nil, List.foldl_nil,
      List.not_mem_nil, not_false_eq_true, decide_true, List.nil_append]
    exact (List.filter_eq_self.mpr fun _ _ => rfl).symm
  | some names =>
    rw [Option.map_some, orderedEntries_texts, keys_ofPairs_ordered nodup, Option.getD_some]

/-- Lines that were written are read as the entries with content: none is lost, and the keys come in
the requested order first and in the map's own order after it. -/
theorem exists_readMapping {data : Mapping} (nodup : (Entries.keys data).Nodup)
    (plain : ∀ entry ∈ data, IsKey entry.1 ∧ IsField entry.2) {order : Option (List String)}
    {lines : List (List Char)} (formed : mappingLines data (order.map (·.map .text)) = .ok lines) :
    ∃ result, readMapping .document lines = .ok result ∧
      (∀ key, Entries.get? result key = Entries.get? (kept data) key) ∧
      Entries.keys result = arranged ((order.getD []).map .text) (Entries.keys (kept data)) := by
  have present : ∀ entry ∈ orderedEntries data (order.map (·.map .text)),
      IsKey entry.1 ∧ IsField entry.2 := fun entry member =>
    plain entry (mem_of_mem_orderedEntries member)
  have result := readMapping_mappingLines
    (fun entry member => (present entry member).2.shape (present entry member).1) formed
  rw [IsField.restored_eq_kept fun entry member => (present entry member).2,
    kept_orderedEntries nodup] at result
  exact ⟨_, result, get?_ofPairs_orderedEntries (nodup_keys_kept nodup) order,
    keys_ofPairs_orderedEntries (nodup_keys_kept nodup) order⟩

/-- A map that can be written: its keys are distinct names, and the digits of its fields can be
converted. -/
structure IsWritable (data : Mapping) : Prop where
  distinct : (Entries.keys data).Nodup
  plain : ∀ entry ∈ data, IsKey entry.1 ∧ IsField entry.2
  short : ∀ entry ∈ data, IsShortField entry.2

/-- A map is written and read as the map of its entries with content, whose values and kinds of
values are the same; its keys come in the requested order first and in its own order after it. -/
theorem read_write {data : Mapping} (writable : IsWritable data) (order : Option (List String)) :
    ∃ text result, write data (order.map (·.map .text)) = .ok text ∧
      read .document text = .ok result ∧
      (∀ key, Entries.get? result key = Entries.get? (kept data) key) ∧
      Entries.keys result = arranged ((order.getD []).map .text) (Entries.keys (kept data)) := by
  have plain : ∀ entry ∈ orderedEntries data (order.map (·.map .text)),
      IsKey entry.1 ∧ IsField entry.2 := fun entry member =>
    writable.plain entry (mem_of_mem_orderedEntries member)
  have short : ∀ entry ∈ orderedEntries data (order.map (·.map .text)),
      IsField entry.2 ∧ IsShortField entry.2 := fun entry member =>
    ⟨(plain entry member).2, writable.short entry (mem_of_mem_orderedEntries member)⟩
  obtain ⟨lines, formed⟩ := exists_mappingLines short
  obtain ⟨result, run, same, keys⟩ := exists_readMapping writable.distinct writable.plain formed
  have shaped : ∀ entry ∈ orderedEntries data (order.map (·.map .text)),
      EntryShape entry.1 entry.2 := fun entry member =>
    (plain entry member).2.shape (plain entry member).1
  have oneLine : ∀ line ∈ lines, IsOneLine line := fun line member =>
    (isBlockLine_of_mappingLines shaped formed line member).oneLine
  exact ⟨_, result, write_eq_ok formed, (read_written _ oneLine).trans run, same, keys⟩

/-- A map with a field of every kind, whose texts have other meanings when they are not quoted. -/
def oddities : Mapping := Mapping.ofFields
  [("title", .text "yes: \"no\" \\ #1\n"), ("flag", .text "true"), ("count", .int (-12)),
    ("none", .null), ("tools", Value.texts ["- a", "", " null"]), ("unset", Value.texts []),
    ("env", .map (Mapping.ofFields [("A", .text "[x]"), ("B", .null), ("C", .bool false)])),
    ("gone", .map (Mapping.ofFields [("A", .null)]))]

private theorem isWritable_oddities : IsWritable oddities where
  distinct := by decide
  plain := by
    simp only [oddities, Mapping.ofFields, List.map_cons, List.map_nil, List.forall_mem_cons,
      List.not_mem_nil, false_implies, implies_true, and_true]
    refine ⟨⟨.text (by decide), .leaf (.text _)⟩, ⟨.text (by decide), .leaf (.text _)⟩,
      ⟨.text (by decide), .leaf (.int _)⟩, ⟨.text (by decide), .null⟩,
      ⟨.text (by decide), .texts _⟩, ⟨.text (by decide), .texts _⟩,
      ⟨.text (by decide), .entries (by decide) ?_⟩, .text (by decide), .entries (by decide) ?_⟩
    · simp only [List.forall_mem_cons, List.not_mem_nil, false_implies, implies_true, and_true]
      exact ⟨⟨.text (by decide), .inr (.text _)⟩, ⟨.text (by decide), .inl trivial⟩,
        .text (by decide), .inr (.bool _)⟩
    · exact List.forall_mem_singleton.mpr ⟨.text (by decide), .inl rfl⟩
  short := by
    simp only [oddities, Mapping.ofFields, List.map_cons, List.map_nil, List.forall_mem_cons,
      List.not_mem_nil, false_implies, implies_true, and_true, Value.texts, IsShortField,
      IsShortValue]
    have within : withinLimit (-12) = true := by
      simp [withinLimit, natDigits, pushDigits, digitLimit]
    rw [within]
    decide

/-- Keys may be requested again, or without need. -/
theorem oddities_read_write : IsWritable oddities ∧ ∃ text result,
    write oddities (some (["tools", "other", "none", "tools", "title"].map .text)) = .ok text ∧
      read .document text = .ok result ∧
      (∀ key, Entries.get? result key = Entries.get? (kept oddities) key) ∧
      Entries.keys result =
        arranged (["tools", "other", "none", "tools", "title"].map .text)
          (Entries.keys (kept oddities)) :=
  ⟨isWritable_oddities,
    read_write isWritable_oddities (some ["tools", "other", "none", "tools", "title"])⟩

end EditorPlugins.Frontmatter
