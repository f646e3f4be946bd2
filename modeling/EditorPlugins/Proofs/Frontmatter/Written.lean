import EditorPlugins.Proofs.Entries
import EditorPlugins.Proofs.Frontmatter.Reading

/-! # The lines of written entries

The lines of an entry leave the reader with the entry set, and an entry without content has no
lines. Values are arbitrary within their kinds: what they hold stays on their own lines, none of
which can be taken for a delimiter, and only numbers with too many digits cannot be written.
-/

namespace EditorPlugins.Frontmatter

open Text Number

/-- The values that are written in a form of their own: nothing, values of one line, lists of texts,
and maps of one level. -/
inductive IsField : Value → Prop where
  | null : IsField .null
  | leaf {value : Value} (leaf : IsLeaf value) : IsField value
  | texts (texts : List String) : IsField (Value.texts texts)
  | entries {entries : Mapping} (distinct : (Entries.keys entries).Nodup)
      (plain : ∀ entry ∈ entries, IsKey entry.1 ∧ (entry.2 = .null ∨ IsLeaf entry.2)) :
      IsField (.map entries)

def isNull (value : Value) : Bool := value matches .null

/-- What is written of an inner map: its entries that are not nothing. -/
def keptEntries (entries : Mapping) : Mapping := entries.filter fun entry => !isNull entry.2

/-- What is written of a value, if it has content. -/
def keptValue? : Value → Option Value
  | .null => none
  | .list [] => none
  | .map entries =>
    if (keptEntries entries).isEmpty then none else some (.map (keptEntries entries))
  | other => some other

/-- What is written of a map: its entries with content. -/
def kept (data : Mapping) : Mapping :=
  data.filterMap fun entry => (keptValue? entry.2).map (entry.1, ·)

theorem kept_append (first second : Mapping) : kept (first ++ second) = kept first ++ kept second :=
  List.filterMap_append

/-- Where every value has content as a whole, all of the map is written. -/
theorem kept_eq_self {data : Mapping}
    (content : ∀ entry ∈ data, keptValue? entry.2 = some entry.2) : kept data = data := by
  induction data with
  | nil => rfl
  | cons entry data ih =>
    obtain ⟨first, later⟩ := List.forall_mem_cons.mp content
    have split : kept (entry :: data) = kept [entry] ++ kept data := kept_append [entry] data
    rw [split, ih later, kept, List.filterMap_cons, first]
    rfl

theorem kept_of_some {value written : Value} (key : Scalar)
    (content : keptValue? value = some written) : kept [(key, value)] = [(key, written)] := by
  rw [kept, List.filterMap_cons, content]
  rfl

theorem kept_of_none {value : Value} (key : Scalar) (nothing : keptValue? value = none) :
    kept [(key, value)] = [] := by
  rw [kept, List.filterMap_cons, nothing]
  rfl

theorem keptValue?_map {entries : Mapping} (nonempty : keptEntries entries ≠ []) :
    keptValue? (.map entries) = some (.map (keptEntries entries)) := by
  rw [keptValue?, List.isEmpty_eq_false_iff.mpr nonempty]
  rfl

/-- The value that is read from the lines of a value with content. -/
def restoredValue : Value → Value
  | .map entries => .map (readBackEntries entries)
  | .list items => .list items
  | other => readBack other

/-- The map that is read from the lines of a map. -/
def restored (data : Mapping) : Mapping :=
  (kept data).map fun entry => (entry.1, restoredValue entry.2)

theorem restored_append (first second : Mapping) :
    restored (first ++ second) = restored first ++ restored second := by
  rw [restored, kept_append, List.map_append]
  rfl

/-- Whether the lines of a value are read as the value. -/
def IsFaithful : Value → Prop
  | .map entries => ∀ entry ∈ entries, IsFaithfulLine entry.2
  | .list _ => True
  | other => IsFaithfulLine other

private theorem restoredValue_eq_self_iff {value : Value} :
    restoredValue value = value ↔ IsFaithful value := by
  match value with
  | .map entries =>
    rw [restoredValue, Value.map.injEq, readBackEntries, Entries.mapValues_eq_self_iff]
    exact forall₂_congr fun entry _ => readBack_eq_self_iff
  | .list items => simp [restoredValue, IsFaithful]
  | .scalar value => exact @readBack_eq_self_iff (.scalar value)

/-- What is read from the lines of a map is what was written of it, just when its values are
faithful. -/
theorem restored_eq_kept_iff {data : Mapping} :
    restored data = kept data ↔ ∀ entry ∈ kept data, IsFaithful entry.2 := by
  rw [restored, Entries.mapValues_eq_self_iff]
  exact forall₂_congr fun entry _ => restoredValue_eq_self_iff

private theorem entryLines_of_scalar (key : Scalar) {leaf : Scalar} (notNull : leaf ≠ .null) :
    entryLines key (.scalar leaf) = (entryLine [] key (.scalar leaf)).map ([·]) := by
  cases leaf with
  | null => exact absurd rfl notNull
  | _ => rfl

theorem entryLines_of_line (key : Scalar) {value : Value} (line : IsLine value)
    (single : value.list? = none) : entryLines key value = (entryLine [] key value).map ([·]) := by
  cases line with
  | texts texts => cases single
  | _ => rfl

private theorem entryLines_of_items (key : Scalar) {items : List Value} (nonempty : items ≠ []) :
    entryLines key (.list items) = (items.mapM itemLine).map (keyLine key :: ·) := by
  obtain ⟨item, items, rfl⟩ := List.exists_cons_of_ne_nil nonempty
  rfl

theorem entryLines_texts (key : Scalar) {texts : List String} (nonempty : texts ≠ []) :
    entryLines key (Value.texts texts) =
      ((texts.map Value.text).mapM itemLine).map (keyLine key :: ·) :=
  entryLines_of_items key (mt List.map_eq_nil_iff.mp nonempty)

private theorem entryLines_map (key : Scalar) (entries : Mapping) :
    entryLines key (.map entries) =
      match keptEntries entries with
      | [] => .ok []
      | inner => do
        return keyLine key :: (← inner.mapM fun entry => entryLine "  ".toList entry.1 entry.2) :=
  rfl

private theorem entryLines_of_entries (key : Scalar) {entries : Mapping}
    (nonempty : keptEntries entries ≠ []) :
    entryLines key (.map entries) =
      ((keptEntries entries).mapM fun entry => entryLine "  ".toList entry.1 entry.2).map
        (keyLine key :: ·) := by
  obtain ⟨first, rest, shape⟩ := List.exists_cons_of_ne_nil nonempty
  rw [entryLines_map, shape]
  rfl

/-- A value without content has no lines. -/
theorem entryLines_of_none (key : Scalar) {value : Value} (nothing : keptValue? value = none) :
    entryLines key value = .ok [] := by
  unfold keptValue? at nothing
  split at nothing
  · rfl
  · rfl
  · next entries =>
    split at nothing
    · next empty => rw [entryLines_map, List.isEmpty_iff.mp empty]
    · cases nothing
  · cases nothing

/-- The entries that are read from their lines: those without content, which have none, and those
with a name and a value that is on the line of the name, or a list or a map below it. -/
inductive EntryShape : Scalar → Value → Prop where
  | empty {key : Scalar} {value : Value} (nothing : keptValue? value = none) : EntryShape key value
  | line {name : String} {value : Value} (isName : IsName name) (line : IsLine value)
      (single : value.list? = none) : EntryShape (.text name) value
  | items {name : String} {texts : List String} (isName : IsName name) (nonempty : texts ≠ []) :
      EntryShape (.text name) (Value.texts texts)
  | inner {name : String} {entries : Mapping} (isName : IsName name)
      (nonempty : keptEntries entries ≠ []) (nodup : (Entries.keys (keptEntries entries)).Nodup)
      (plain : ∀ entry ∈ keptEntries entries, IsInnerKey entry.1 ∧ IsLine entry.2) :
      EntryShape (.text name) (.map entries)

private theorem restored_of_line (key : Scalar) {value : Value} (line : IsLine value)
    (single : value.list? = none) : restored [(key, value)] = [(key, readBack value)] := by
  cases line with
  | texts texts => cases single
  | _ => rfl

private theorem restored_texts (key : Scalar) {texts : List String} (nonempty : texts ≠ []) :
    restored [(key, Value.texts texts)] = [(key, Value.texts texts)] := by
  cases texts with
  | nil => exact absurd rfl nonempty
  | cons text texts => rfl

theorem restored_entries (key : Scalar) {entries : Mapping} (nonempty : keptEntries entries ≠ []) :
    restored [(key, .map entries)] = [(key, .map (readBackEntries (keptEntries entries)))] := by
  rw [restored, kept_of_some key (keptValue?_map nonempty)]
  rfl

private theorem keys_readBackEntries (entries : Mapping) :
    Entries.keys (readBackEntries entries) = Entries.keys entries := by
  simp [Entries.keys, readBackEntries]

private theorem restored_of_none (key : Scalar) {value : Value}
    (nothing : keptValue? value = none) :
    restored [(key, value)] = [] := by
  rw [restored, kept_of_none key nothing]
  rfl

/-- The lines of an inner map set what is restored of it, where the line of each entry sets it. -/
theorem sets_entryLines_map {dialect : Dialect} {name : String} {entries : Mapping}
    {lines : List (List Char)} (isName : IsName name)
    (nodup : (Entries.keys (keptEntries entries)).Nodup)
    (each : ∀ entry ∈ keptEntries entries, ∀ line,
      entryLine "  ".toList entry.1 entry.2 = .ok line →
        SetsInner dialect line (entry.1, readBack entry.2))
    (formed : entryLines (.text name) (.map entries) = .ok lines) :
    Sets dialect lines (restored [(.text name, .map entries)]) := by
  by_cases empty : keptEntries entries = []
  · have nothing : keptValue? (.map entries) = none := by
      rw [keptValue?, empty]
      rfl
    rw [entryLines_of_none _ nothing] at formed
    cases formed
    rw [restored_of_none _ nothing]
    exact Sets.nil
  · rw [entryLines_of_entries _ empty, Outcome.map_eq_ok_iff] at formed
    obtain ⟨rest, formed, rfl⟩ := formed
    rw [← keys_readBackEntries] at nodup
    have filled : readBackEntries (keptEntries entries) ≠ [] := by
      simpa [readBackEntries] using empty
    rw [restored_entries _ empty]
    exact Sets.inner (opens_keyLine isName _) (setsInner_of_entryLines each formed) filled nodup

/-- The lines of an entry set what is restored of it. -/
theorem sets_entryLines {key : Scalar} {value : Value} {lines : List (List Char)}
    (shape : EntryShape key value) (formed : entryLines key value = .ok lines) :
    Sets .document lines (restored [(key, value)]) := by
  cases shape with
  | empty nothing =>
    rw [entryLines_of_none key nothing] at formed
    cases formed
    rw [restored_of_none key nothing]
    exact Sets.nil
  | line isName line single =>
    rw [entryLines_of_line _ line single, Outcome.map_eq_ok_iff] at formed
    obtain ⟨written, formed, rfl⟩ := formed
    obtain ⟨form, writes, rfl⟩ := entryLine_eq_ok line formed
    rw [restored_of_line _ line single]
    have trimmed : trim (' ' :: form) = form := by
      rw [trim_cons_blank _ (by decide), writes.trimmed]
    exact Sets.line isName trimmed writes.nonempty writes.read
  | items isName nonempty =>
    rw [entryLines_texts _ nonempty, Outcome.map_eq_ok_iff] at formed
    obtain ⟨rest, formed, rfl⟩ := formed
    rw [restored_texts _ nonempty]
    exact Sets.items (opens_keyLine isName _) (addsItems_of_itemLines formed) nonempty
  | inner isName _ nodup plain =>
    refine sets_entryLines_map isName nodup (fun entry member _ one => ?_) formed
    obtain ⟨isKey, line⟩ := plain entry member
    exact setsInner_entryLine isKey line one

/-- The lines of some entries set what is restored of them, one entry after another. -/
theorem sets_of_entries {dialect : Dialect} {data : Mapping} {lines : List (List (List Char))}
    (each : ∀ entry ∈ data, ∀ lines, entryLines entry.1 entry.2 = .ok lines →
      Sets dialect lines (restored [entry]))
    (formed : (data.mapM fun entry => entryLines entry.1 entry.2) = .ok lines) :
    Sets dialect lines.flatten (restored data) := by
  induction data generalizing lines with
  | nil =>
    cases formed
    exact Sets.nil
  | cons entry data ih =>
    obtain ⟨here, others⟩ := List.forall_mem_cons.mp each
    obtain ⟨first, rest, one, later, rfl⟩ := Outcome.mapM_cons_eq_ok_iff.mp formed
    have split : restored (entry :: data) = restored [entry] ++ restored data :=
      restored_append [entry] data
    rw [split]
    exact (here first one).append (ih others later)

theorem sets_mappingLines {dialect : Dialect} {data : Mapping} {order : Option (List Scalar)}
    {lines : List (List Char)}
    (each : ∀ entry ∈ orderedEntries data order, ∀ lines, entryLines entry.1 entry.2 = .ok lines →
      Sets dialect lines (restored [entry]))
    (formed : mappingLines data order = .ok lines) :
    Sets dialect lines (restored (orderedEntries data order)) := by
  simp only [mappingLines, Outcome.bind_eq_ok_iff, Outcome.pure_eq_ok_iff] at formed
  obtain ⟨parts, formed, rfl⟩ := formed
  exact sets_of_entries each formed

/-- A line of written frontmatter: it has no line breaks, and it has a colon where it starts like a
delimiter. -/
structure IsBlockLine (line : List Char) : Prop where
  oneLine : IsOneLine line
  colon : line.head? = some '-' → ':' ∈ line

private theorem isBlockLine_key {key : Scalar} {after : List Char}
    (outer : IsOneLine key.display.toList)
    (oneLine : IsOneLine after) : IsBlockLine (key.display.toList ++ ':' :: after) :=
  ⟨outer.append (oneLine.cons (by decide)), fun _ => List.mem_append_right _ List.mem_cons_self⟩

private theorem isBlockLine_indented {line : List Char} (oneLine : IsOneLine line) :
    IsBlockLine (' ' :: line) :=
  ⟨oneLine.cons (by decide), fun same => absurd (Option.some.inj same) (by decide)⟩

private theorem isBlockLine_itemLine {value : Value} {line : List Char}
    (formed : itemLine value = .ok line) : IsBlockLine line := by
  obtain ⟨form, chosen, rfl⟩ := itemLine_eq_ok_iff.mp formed
  have oneLine := isOneLine_formatValue chosen
  exact isBlockLine_indented (((oneLine.cons (by decide)).cons (by decide)).cons (by decide))

private theorem isBlockLine_entryLine {key : Scalar} {value : Value} {line : List Char}
    (outer : IsOneLine key.display.toList) (formed : entryLine [] key value = .ok line) :
    IsBlockLine line := by
  obtain ⟨form, chosen, rfl⟩ := entryLine_eq_ok_iff.mp formed
  exact isBlockLine_key outer ((isOneLine_formatValue chosen).cons (by decide))

private theorem isBlockLine_innerLine {key : Scalar} {value : Value} {line : List Char}
    (inner : IsOneLine key.display.toList) (formed : entryLine "  ".toList key value = .ok line) :
    IsBlockLine line := by
  obtain ⟨form, chosen, rfl⟩ := entryLine_eq_ok_iff.mp formed
  have after : IsOneLine (' ' :: form) := (isOneLine_formatValue chosen).cons (by decide)
  exact isBlockLine_indented ((isBlockLine_key inner after).oneLine.cons (by decide))

/-- The keys of an entry have no line breaks, at both levels and as far as they are written. -/
structure KeepsLines (key : Scalar) (value : Value) : Prop where
  outer : keptValue? value ≠ none → IsOneLine key.display.toList
  inner : ∀ entries, value = .map entries →
    ∀ entry ∈ keptEntries entries, IsOneLine entry.1.display.toList

/-- Whatever the values hold, their lines stay inside an envelope. -/
theorem isBlockLine_of_entryLines {key : Scalar} {value : Value} {lines : List (List Char)}
    (keeps : KeepsLines key value) (formed : entryLines key value = .ok lines) :
    ∀ line ∈ lines, IsBlockLine line := by
  by_cases nothing : keptValue? value = none
  · rw [entryLines_of_none key nothing] at formed
    cases formed
    exact fun _ absent => absurd absent List.not_mem_nil
  have outer := keeps.outer nothing
  have opens : IsBlockLine (keyLine key) :=
    isBlockLine_key outer fun _ absent => absurd absent List.not_mem_nil
  match value with
  | .map entries =>
    have nonempty : keptEntries entries ≠ [] := by
      intro empty
      rw [keptValue?, empty] at nothing
      exact nothing rfl
    rw [entryLines_of_entries _ nonempty, Outcome.map_eq_ok_iff] at formed
    obtain ⟨rest, formed, rfl⟩ := formed
    refine List.forall_mem_cons.mpr ⟨opens, fun line member => ?_⟩
    obtain ⟨entry, present, one⟩ := Outcome.exists_of_mem_mapM formed member
    exact isBlockLine_innerLine (keeps.inner entries rfl entry present) one
  | .list items =>
    have nonempty : items ≠ [] := by
      rintro rfl
      exact nothing rfl
    rw [entryLines_of_items _ nonempty, Outcome.map_eq_ok_iff] at formed
    obtain ⟨rest, formed, rfl⟩ := formed
    refine List.forall_mem_cons.mpr ⟨opens, fun line member => ?_⟩
    obtain ⟨item, -, one⟩ := Outcome.exists_of_mem_mapM formed member
    exact isBlockLine_itemLine one
  | .scalar leaf =>
    have notNull : leaf ≠ .null := by
      rintro rfl
      exact nothing rfl
    rw [entryLines_of_scalar _ notNull, Outcome.map_eq_ok_iff] at formed
    obtain ⟨line, formed, rfl⟩ := formed
    exact List.forall_mem_singleton.mpr (isBlockLine_entryLine outer formed)

theorem isBlockLine_of_keepsLines {data : Mapping} {order : Option (List Scalar)}
    {lines : List (List Char)}
    (keeps : ∀ entry ∈ orderedEntries data order, KeepsLines entry.1 entry.2)
    (formed : mappingLines data order = .ok lines) : ∀ line ∈ lines, IsBlockLine line := by
  simp only [mappingLines, Outcome.bind_eq_ok_iff, Outcome.pure_eq_ok_iff] at formed
  obtain ⟨parts, formed, rfl⟩ := formed
  intro line member
  obtain ⟨part, inside, member⟩ := List.mem_flatten.mp member
  obtain ⟨entry, present, one⟩ := Outcome.exists_of_mem_mapM formed inside
  exact isBlockLine_of_entryLines (keeps entry present) one line member

/-- Names have no line breaks. -/
theorem EntryShape.keepsLines {key : Scalar} {value : Value} (shape : EntryShape key value) :
    KeepsLines key value := by
  cases shape with
  | @empty _ value nothing =>
    refine ⟨fun filled => absurd nothing filled, ?_⟩
    rintro entries rfl entry member
    have nonempty : keptEntries entries ≠ [] := List.ne_nil_of_mem member
    rw [keptValue?_map nonempty] at nothing
    cases nothing
  | line isName line _ => exact ⟨fun _ => isName.oneLine, by rintro entries rfl; cases line⟩
  | items isName _ => exact ⟨fun _ => isName.oneLine, nofun⟩
  | inner isName _ _ plain =>
    refine ⟨fun _ => isName.oneLine, ?_⟩
    rintro _ ⟨⟩ entry member
    obtain ⟨key, value⟩ := entry
    obtain ⟨⟨isInner⟩, -⟩ := plain _ member
    exact isInner.oneLine

theorem isBlockLine_of_mappingLines {data : Mapping} {order : Option (List Scalar)}
    {lines : List (List Char)}
    (shaped : ∀ entry ∈ orderedEntries data order, EntryShape entry.1 entry.2)
    (formed : mappingLines data order = .ok lines) : ∀ line ∈ lines, IsBlockLine line :=
  isBlockLine_of_keepsLines (fun entry member => (shaped entry member).keepsLines) formed

private theorem plain_of_mem_keptEntries {entries : Mapping} {entry : Scalar × Value}
    (plain : ∀ entry ∈ entries, IsKey entry.1 ∧ (entry.2 = .null ∨ IsLeaf entry.2))
    (member : entry ∈ keptEntries entries) : IsKey entry.1 ∧ IsLeaf entry.2 := by
  obtain ⟨present, content⟩ := List.mem_filter.mp member
  obtain ⟨isKey, nothing | leaf⟩ := plain entry present
  · simp [nothing, isNull] at content
  · exact ⟨isKey, leaf⟩

theorem nodup_keys_keptEntries {entries : Mapping} (nodup : (Entries.keys entries).Nodup) :
    (Entries.keys (keptEntries entries)).Nodup :=
  nodup.sublist (List.filter_sublist.map Prod.fst)

/-- Entries with names and fields of their own form are read from their lines. -/
theorem IsField.shape {key : Scalar} {value : Value} (isKey : IsKey key) (isField : IsField value) :
    EntryShape key value := by
  rcases isKey with ⟨isName⟩
  cases isField with
  | null => exact .empty rfl
  | leaf leaf => exact .line isName leaf.line (by cases leaf <;> rfl)
  | texts texts =>
    by_cases empty : texts = []
    · subst empty
      exact .empty rfl
    · exact .items isName empty
  | @entries entries nodup plain =>
    by_cases empty : keptEntries entries = []
    · exact .empty (by rw [keptValue?, empty]; rfl)
    · refine .inner isName empty (nodup_keys_keptEntries nodup) fun entry member => ?_
      obtain ⟨isKey, leaf⟩ := plain_of_mem_keptEntries plain member
      exact ⟨isKey.inner, leaf.line⟩

/-- What is written of a field of its own form is faithful. -/
theorem IsField.faithful {value written : Value} (isField : IsField value)
    (content : keptValue? value = some written) : IsFaithful written := by
  cases isField with
  | null => cases content
  | leaf leaf => cases leaf <;> cases content <;> trivial
  | texts texts =>
    cases texts <;> cases content
    trivial
  | @entries entries nodup plain =>
    have nonempty : keptEntries entries ≠ [] := by
      intro empty
      rw [keptValue?, empty] at content
      cases content
    rw [keptValue?_map nonempty] at content
    cases content
    intro entry member
    exact (plain_of_mem_keptEntries plain member).2.faithful

theorem IsField.restored_eq_kept {data : Mapping} (plain : ∀ entry ∈ data, IsField entry.2) :
    restored data = kept data := by
  rw [restored_eq_kept_iff]
  intro entry member
  obtain ⟨original, present, same⟩ := List.mem_filterMap.mp member
  obtain ⟨value, content, rfl⟩ := Option.map_eq_some_iff.mp same
  exact (plain original present).faithful content

/-- A field whose digits can be converted, wherever they stand in it. -/
def IsShortField : Value → Prop
  | .list items => ∀ item ∈ items, IsShortValue item
  | .map entries => ∀ entry ∈ entries, IsShortValue entry.2
  | other => IsShortValue other

private theorem exists_entryLine {key : Scalar} {value : Value} (indent : List Char)
    (leaf : IsLeaf value)
    (short : IsShortValue value) : ∃ line, entryLine indent key value = .ok line := by
  obtain ⟨form, formed⟩ := exists_formatValue leaf short
  rw [entryLine, formed]
  exact ⟨_, rfl⟩

/-- An entry has lines when its digits can be converted. -/
theorem exists_entryLines (key : Scalar) {value : Value} (isField : IsField value)
    (short : IsShortField value) : ∃ lines, entryLines key value = .ok lines := by
  cases content : keptValue? value with
  | none => exact ⟨_, entryLines_of_none key content⟩
  | some written =>
  cases isField with
  | null => cases content
  | leaf leaf =>
    have shortLeaf : IsShortValue value := by cases leaf <;> exact short
    obtain ⟨line, formed⟩ := exists_entryLine [] leaf shortLeaf
    rw [entryLines_of_line key leaf.line (by cases leaf <;> rfl), formed]
    exact ⟨_, rfl⟩
  | texts texts =>
    have nonempty : texts ≠ [] := by
      rintro rfl
      cases content
    have each : ∀ item ∈ texts.map Value.text, ∃ line, itemLine item = .ok line := by
      intro item member
      obtain ⟨text, -, rfl⟩ := List.mem_map.mp member
      obtain ⟨form, formed⟩ := exists_formatValue (.text text) (short _ member)
      rw [itemLine, formed]
      exact ⟨_, rfl⟩
    obtain ⟨rest, formed⟩ := Outcome.exists_mapM_eq_ok each
    rw [entryLines_texts _ nonempty, formed]
    exact ⟨_, rfl⟩
  | @entries entries nodup plain =>
    have nonempty : keptEntries entries ≠ [] := by
      intro empty
      rw [keptValue?, empty] at content
      cases content
    have each : ∀ entry ∈ keptEntries entries,
        ∃ line, entryLine "  ".toList entry.1 entry.2 = .ok line := fun entry member =>
      exists_entryLine _ (plain_of_mem_keptEntries plain member).2
        (short entry (List.mem_filter.mp member).1)
    obtain ⟨rest, formed⟩ := Outcome.exists_mapM_eq_ok each
    rw [entryLines_of_entries _ nonempty, formed]
    exact ⟨_, rfl⟩

/-- A map has lines when its digits can be converted. -/
theorem exists_mappingLines {data : Mapping} {order : Option (List Scalar)}
    (fields : ∀ entry ∈ orderedEntries data order, IsField entry.2 ∧ IsShortField entry.2) :
    ∃ lines, mappingLines data order = .ok lines := by
  have each : ∀ entry ∈ orderedEntries data order,
      ∃ lines, entryLines entry.1 entry.2 = .ok lines := fun entry member =>
    exists_entryLines entry.1 (fields entry member).1 (fields entry member).2
  obtain ⟨parts, formed⟩ := Outcome.exists_mapM_eq_ok each
  rw [mappingLines, formed]
  exact ⟨_, rfl⟩

end EditorPlugins.Frontmatter
