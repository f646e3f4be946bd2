import EditorPlugins.Proofs.Value.Keys
import EditorPlugins.Proofs.Yaml.Kind
import EditorPlugins.Proofs.Yaml.Tree

/-! # The values of maps of texts

A map of texts stands for the map of these texts exactly when none of its plain texts spells
something else.
-/

namespace EditorPlugins.Yaml

/-- Whether a text stands for itself: it is quoted, or it spells nothing else. -/
def Item.IsText (item : Item) : Prop :=
  item.plain = true → Kind.ofText (String.ofList item.text) = .text

def Item.value (item : Item) : Value := .text (String.ofList item.text)

def Content.value : Content → Value
  | line item => item.value
  | list first rest => .list ((first :: rest).map Item.value)

def Entry.value (entry : Entry) : Scalar × Value :=
  (.text (String.ofList entry.word), entry.content.value)

namespace Filled

variable {α β : Type}

private theorem here_eq_ok_iff {outcome : Read α} {result : α} :
    here outcome = .ok result ↔ outcome = .ok result := by
  cases outcome <;> simp [here, Except.mapError]

private theorem inside_eq_ok_iff {content : Filled α} {result : α} :
    inside content = .ok result ↔ content = .ok result := by
  cases content <;> simp [inside, Except.mapError]

theorem both_eq_ok_iff {first : Filled α} {second : Filled β} {a : α} {b : β} :
    first.both second = .ok (a, b) ↔ first = .ok a ∧ second = .ok b := by
  cases first <;> cases second <;> simp [both]

end Filled

namespace Node

private theorem value_scalar_iff {kind : Kind} {text : String} :
    value (.scalar kind text) = .ok (.text text) ↔ kind = .text := by
  rw [value, plainValue]
  split
  · next collection =>
    simp only [Filled.inside_eq_ok_iff, Filled.here_eq_ok_iff, reduceCtorEq, false_iff]
    rintro rfl
    cases collection
  · simp [Outcome.map_eq_ok_iff, Filled.here_eq_ok_iff, leafValue, scalarText?, Node.kind,
      scalarValue_eq_text_iff]

private theorem value_item_iff {item : Item} : item.node.value = .ok item.value ↔ item.IsText := by
  rw [Item.node, Item.value, value_scalar_iff, Item.IsText]
  cases item.plain <;> simp

private theorem itemValues_items_iff {items : List Item} :
    itemValues (items.map Item.node) = .ok (items.map Item.value) ↔
      ∀ item ∈ items, item.IsText := by
  induction items with
  | nil => simp [itemValues]
  | cons item items ih =>
    rw [List.forall_mem_cons, ← value_item_iff, ← ih]
    simp only [List.map_cons, itemValues, Outcome.map_eq_ok_iff, Prod.exists,
      Filled.both_eq_ok_iff, List.cons.injEq]
    constructor
    · rintro ⟨value, values, ⟨first, others⟩, rfl, rfl⟩
      exact ⟨first, others⟩
    · rintro ⟨first, others⟩
      exact ⟨_, _, ⟨first, others⟩, rfl, rfl⟩

private theorem value_content_iff {content : Content} :
    content.node.value = .ok content.value ↔ ∀ item ∈ content.items, item.IsText := by
  cases content with
  | line item =>
    rw [Content.node, Content.value, value_item_iff, Content.items, List.forall_mem_singleton]
  | list first rest =>
    rw [Content.node, Content.value, Content.items, ← itemValues_items_iff, value, if_pos rfl]
    simp [Filled.inside_eq_ok_iff]

/-- Scalars and lists of scalars have no merges. -/
theorem expand_content (content : Content) : content.node.expand = content.node := by
  have single (item : Item) : item.node.expand = item.node := by
    rw [Item.node, expand]
  cases content with
  | line item => exact single item
  | list first rest =>
    have items (items : List Item) : expandItems (items.map Item.node) = items.map Item.node := by
      induction items with
      | nil => rw [List.map_nil, expandItems]
      | cons item items ih => rw [List.map_cons, expandItems, single, ih]
    rw [Content.node, expand, items]

/-- Keys that are texts merge nothing. -/
theorem expand_entries {entries : List Entry}
    (texts : ∀ entry ∈ entries, Kind.ofText (String.ofList entry.word) = .text) :
    expand (.map .map (entries.map Entry.node)) = .map .map (entries.map Entry.node) := by
  have own : expandEntries (entries.map Entry.node) = some ([], entries.map Entry.node) := by
    induction entries with
    | nil => rw [List.map_nil, expandEntries]
    | cons entry entries ih =>
      obtain ⟨first, others⟩ := List.forall_mem_cons.mp texts
      rw [List.map_cons, Entry.node, first, expandEntries, ih others, expand, expand_content]
      rfl
  rw [expand, own]
  rfl

theorem entryValues_cons_iff {entry : Entry} {nodes : List (Node × Node)}
    (isText : Kind.ofText (String.ofList entry.word) = .text) {pairs : List (Scalar × Value)} :
    entryValues (entry.node :: nodes) = .ok pairs ↔
      ∃ value rest, entry.content.node.value = .ok value ∧ entryValues nodes = .ok rest ∧
        pairs = (.text (String.ofList entry.word), value) :: rest := by
  have key : keyValue (.scalar .text (String.ofList entry.word)) =
      .ok (.text (String.ofList entry.word)) := rfl
  rw [Entry.node, isText, entryValues, key]
  simp only [Outcome.map_eq_ok_iff, Prod.exists, Filled.both_eq_ok_iff, Except.ok.injEq]
  constructor
  · rintro ⟨_, value, rest, ⟨⟨rfl, read⟩, later⟩, rfl⟩
    exact ⟨value, rest, read, later, rfl⟩
  · rintro ⟨value, rest, read, later, rfl⟩
    exact ⟨_, value, rest, ⟨⟨rfl, read⟩, later⟩, rfl⟩

/-- The entries of a map of texts, where the keys are texts. -/
theorem entryValues_entries_iff {entries : List Entry}
    (texts : ∀ entry ∈ entries, Kind.ofText (String.ofList entry.word) = .text) :
    entryValues (entries.map Entry.node) = .ok (entries.map Entry.value) ↔
      ∀ entry ∈ entries, ∀ item ∈ entry.content.items, item.IsText := by
  induction entries with
  | nil => simp [entryValues]
  | cons entry entries ih =>
    obtain ⟨first, others⟩ := List.forall_mem_cons.mp texts
    rw [List.map_cons, List.map_cons, entryValues_cons_iff first, List.forall_mem_cons,
      ← value_content_iff, ← ih others]
    constructor
    · rintro ⟨value, rest, read, later, same⟩
      obtain ⟨head, rfl⟩ := List.cons.inj same
      have stands : entry.content.value = value := congrArg Prod.snd head
      exact ⟨stands ▸ read, later⟩
    · rintro ⟨read, later⟩
      exact ⟨_, _, read, later, rfl⟩

/-- The keys of a map of texts are its keys whatever its values are. -/
theorem keys_entryValues {entries : List Entry} {pairs : List (Scalar × Value)}
    (texts : ∀ entry ∈ entries, Kind.ofText (String.ofList entry.word) = .text)
    (read : entryValues (entries.map Entry.node) = .ok pairs) :
    pairs.map Prod.fst = entries.map fun entry => .text (String.ofList entry.word) := by
  induction entries generalizing pairs with
  | nil =>
    rw [List.map_nil, entryValues] at read
    cases read
    rfl
  | cons entry entries ih =>
    obtain ⟨first, others⟩ := List.forall_mem_cons.mp texts
    obtain ⟨value, rest, -, later, rfl⟩ := (entryValues_cons_iff first).mp read
    rw [List.map_cons, List.map_cons, ih others later]

/-- A map of texts stands for itself exactly when none of its plain texts spells something else. -/
theorem value_entries_iff {entries : List Entry}
    (texts : ∀ entry ∈ entries, Kind.ofText (String.ofList entry.word) = .text)
    (distinct : (Entries.keys (entries.map Entry.value)).Nodup) :
    (expand (.map .map (entries.map Entry.node))).value = .ok (.map (entries.map Entry.value)) ↔
      ∀ entry ∈ entries, ∀ item ∈ entry.content.items, item.IsText := by
  have keys : Entries.keys (entries.map Entry.value) =
      entries.map fun entry => .text (String.ofList entry.word) := by
    rw [Entries.keys, List.map_map]
    rfl
  have asTheyStand {pairs : List (Scalar × Value)}
      (read : entryValues (entries.map Entry.node) = .ok pairs) :
      Mapping.ofPairs pairs = pairs := by
    have same := keys_entryValues texts read
    refine Mapping.ofPairs_texts (fun pair member => ?_) ?_
    · have present : pair.1 ∈ pairs.map Prod.fst := List.mem_map_of_mem member
      rw [same] at present
      obtain ⟨entry, -, key⟩ := List.mem_map.mp present
      exact ⟨_, key.symm⟩
    · rw [Entries.keys, same, ← keys]
      exact distinct
  rw [expand_entries texts, value, if_pos rfl, ← entryValues_entries_iff texts]
  simp only [Outcome.map_eq_ok_iff, Filled.inside_eq_ok_iff, Value.map.injEq]
  constructor
  · rintro ⟨pairs, read, same⟩
    rw [asTheyStand read] at same
    rwa [same] at read
  · intro read
    exact ⟨_, read, asTheyStand read⟩

end Node

private theorem areSupported_items (items : List Item) :
    Node.areSupported (items.map Item.node) = true := by
  induction items with
  | nil => rfl
  | cons item items ih => rw [List.map_cons, Item.node, Node.areSupported, Node.isSupported, ih]; rfl

private theorem entriesSupported_entries (entries : List Entry) :
    Node.entriesSupported (entries.map Entry.node) = true := by
  induction entries with
  | nil => rfl
  | cons entry entries ih =>
    have content : entry.content.node.isSupported = true := by
      cases entry.content with
      | line item => rfl
      | list first rest => exact areSupported_items (first :: rest)
    rw [List.map_cons, Entry.node, Node.entriesSupported, Node.isSupported, content, ih]
    rfl

/-- A map of texts is read as the value of its tree. -/
theorem read_entries {entries : List Entry} (nonempty : entries ≠ [])
    (isOpen : ∀ entry ∈ entries, entry.IsOpen)
    (allowed : (entries.flatMap Entry.text).all isAllowed = true) :
    read (String.ofList (entries.flatMap Entry.text)) =
      (Node.expand (.map .map (entries.map Entry.node))).value.mapError Fault.error := by
  rw [read, String.toList_ofList, tokens_entries nonempty isOpen allowed]
  change (Reader.readOnly _ >>= _) = _
  rw [Reader.readOnly_entries]
  change (if Node.entriesSupported (entries.map Entry.node) = true then _ else _) = _
  rw [if_pos (entriesSupported_entries entries)]

/-- A map of texts is read as what it stands for just when its texts spell nothing else. -/
theorem read_entries_iff {entries : List Entry} (nonempty : entries ≠ [])
    (isOpen : ∀ entry ∈ entries, entry.IsOpen)
    (allowed : (entries.flatMap Entry.text).all isAllowed = true)
    (texts : ∀ entry ∈ entries, Kind.ofText (String.ofList entry.word) = .text)
    (distinct : (Entries.keys (entries.map Entry.value)).Nodup) :
    read (String.ofList (entries.flatMap Entry.text)) = .ok (.map (entries.map Entry.value)) ↔
      ∀ entry ∈ entries, ∀ item ∈ entry.content.items, item.IsText := by
  rw [read_entries nonempty isOpen allowed, ← Node.value_entries_iff texts distinct]
  cases (Node.expand (.map .map (entries.map Entry.node))).value <;> simp [Except.mapError]

end EditorPlugins.Yaml
