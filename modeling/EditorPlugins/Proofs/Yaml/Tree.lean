import EditorPlugins.Proofs.Yaml.Outline
import EditorPlugins.Yaml.Document

/-! # The trees of maps of texts

The tokens of a map of texts are read as the map node that they stand for, whatever tokens follow
them. A plain text is of the kind that it spells.
-/

namespace EditorPlugins.Yaml

def Item.node (item : Item) : Node :=
  .scalar (if item.plain then Kind.ofText (String.ofList item.text) else .text)
    (String.ofList item.text)

def Content.node : Content → Node
  | line item => item.node
  | list first rest => .list .list ((first :: rest).map Item.node)

def Entry.node (entry : Entry) : Node × Node :=
  (.scalar (Kind.ofText (String.ofList entry.word)) (String.ofList entry.word), entry.content.node)

namespace Reader

variable {anchors : List (String × Option Node)} {handles : List (String × String)}
  {ahead : List Token}

theorem readUnless_of_other {position : Position} {stops : List Token} {reader : Reader}
    (other : reader.sees stops = false) (fuel : Nat) :
    readUnless position stops (fuel + 1) reader = readNode position fuel reader := by
  rw [readUnless, other]
  rfl

private theorem readNode_scalar (position : Position) (fuel : Nat) (plain : Bool) (text : String) :
    readNode position (fuel + 1) ⟨.scalar plain text :: ahead, anchors, handles⟩ =
      .ok (.scalar (if plain then Kind.ofText text else .text) text, ⟨ahead, anchors, handles⟩) := by
  rw [readNode]
  simp only [head?, properties, beginNamed]
  cases plain <;> rfl

/-- Nothing that is a node starts with a comma outside brackets. -/
theorem readNode_comma (position : Position) (fuel : Nat) :
    readNode position fuel ⟨.flowEntry :: ahead, anchors, handles⟩ = .error .malformed := by
  cases fuel with
  | zero => rw [readNode]
  | succ fuel =>
    rw [readNode]
    rfl

theorem readNode_blockList (fuel : Nat) :
    readNode .value (fuel + 1) ⟨.blockList :: ahead, anchors, handles⟩ =
      (readBlockItems fuel ⟨ahead, anchors, handles⟩).map fun (items, reader) =>
        (.list .list items, reader) := by
  rw [readNode]
  change (readBlockItems fuel ⟨ahead, anchors, handles⟩ >>= _) = _
  cases readBlockItems fuel ⟨ahead, anchors, handles⟩ <;> rfl

private theorem readNode_blockMap (fuel : Nat) :
    readNode .block (fuel + 1) ⟨.blockMap :: ahead, anchors, handles⟩ =
      (readBlockEntries fuel ⟨ahead, anchors, handles⟩).map fun (entries, reader) =>
        (.map .map entries, reader) := by
  rw [readNode]
  change (readBlockEntries fuel ⟨ahead, anchors, handles⟩ >>= _) = _
  cases readBlockEntries fuel ⟨ahead, anchors, handles⟩ <;> rfl

/-- What is read, with others in front of it. -/
def behind {α : Type} (first : List α) (outcome : Read (List α × Reader)) :
    Read (List α × Reader) :=
  outcome.map fun (rest, reader) => (first ++ rest, reader)

private theorem behind_nil {α : Type} (outcome : Read (List α × Reader)) :
    behind [] outcome = outcome := by
  cases outcome <;> rfl

private theorem behind_append {α : Type} (first second : List α)
    (outcome : Read (List α × Reader)) :
    behind first (behind second outcome) = behind (first ++ second) outcome := by
  cases outcome with
  | error cause => rfl
  | ok result => simp [behind, Except.map]

/-- An item of a block list, in front of those that follow. -/
theorem readBlockItems_item (item : Item) (fuel : Nat) :
    readBlockItems (fuel + 3) ⟨.blockEntry :: item.token :: ahead, anchors, handles⟩ =
      behind [item.node] (readBlockItems (fuel + 2) ⟨ahead, anchors, handles⟩) := by
  have single : readUnless .block [.blockEntry, .blockEnd] (fuel + 2)
      ⟨item.token :: ahead, anchors, handles⟩ =
        .ok (item.node, ⟨ahead, anchors, handles⟩) :=
    (readUnless_of_other rfl _).trans (readNode_scalar _ _ _ _)
  rw [readBlockItems]
  change (readUnless .block [.blockEntry, .blockEnd] (fuel + 2)
    ⟨item.token :: ahead, anchors, handles⟩ >>= _) = _
  rw [single]
  change (readBlockItems (fuel + 2) ⟨ahead, anchors, handles⟩ >>= _) = _
  cases readBlockItems (fuel + 2) ⟨ahead, anchors, handles⟩ <;> rfl

/-- Items in front of any others. -/
theorem readBlockItems_items (items : List Item) (fuel : Nat) :
    readBlockItems (items.length + (fuel + 2))
        ⟨items.flatMap (fun item => [.blockEntry, item.token]) ++ ahead, anchors, handles⟩ =
      behind (items.map Item.node) (readBlockItems (fuel + 2) ⟨ahead, anchors, handles⟩) := by
  induction items with
  | nil =>
    rw [List.length_nil, Nat.zero_add, List.map_nil, behind_nil]
    rfl
  | cons item items ih =>
    have size : (item :: items).length + (fuel + 2) = (items.length + fuel) + 3 := by
      rw [List.length_cons]
      omega
    have tokens : (item :: items).flatMap (fun item => [Token.blockEntry, item.token]) ++ ahead =
        .blockEntry :: item.token ::
          (items.flatMap (fun item => [.blockEntry, item.token]) ++ ahead) := rfl
    rw [size, tokens, readBlockItems_item, Nat.add_assoc, ih, behind_append]
    rfl

private theorem readBlockItems_end (fuel : Nat) :
    readBlockItems (fuel + 1) ⟨.blockEnd :: ahead, anchors, handles⟩ =
      .ok ([], ⟨ahead, anchors, handles⟩) := by
  rw [readBlockItems]
  rfl

/-- The value of an entry. -/
theorem readNode_content (content : Content) {fuel : Nat}
    (enough : content.items.length + 3 ≤ fuel) :
    readNode .value fuel ⟨content.tokens ++ ahead, anchors, handles⟩ =
      .ok (content.node, ⟨ahead, anchors, handles⟩) := by
  obtain ⟨spare, rfl⟩ := Nat.exists_eq_add_of_le' enough
  cases content with
  | line item => exact readNode_scalar _ _ _ _
  | list first rest =>
    have size : spare + ((first :: rest).length + 3) = (first :: rest).length + (spare + 2) + 1 := by
      omega
    have tokens : (Content.list first rest).tokens ++ ahead = .blockList ::
        ((first :: rest).flatMap (fun item => [.blockEntry, item.token]) ++ .blockEnd :: ahead) := by
      simp [Content.tokens]
    rw [Content.items, size, tokens, readNode_blockList, readBlockItems_items, readBlockItems_end]
    simp [behind, Except.map, Content.node]

/-- A key of a block map, whatever its value is. -/
theorem readBlockEntries_key (word : String) (fuel : Nat)
    (other : sees ⟨ahead, anchors, handles⟩ [.key, .value, .blockEnd] = false) :
    readBlockEntries (fuel + 3) ⟨.key :: .scalar true word :: .value :: ahead, anchors, handles⟩ =
      readNode .value fuel ⟨ahead, anchors, handles⟩ >>= fun (value, reader) =>
        behind [(.scalar (Kind.ofText word) word, value)] (readBlockEntries (fuel + 2) reader) := by
  have key : readUnless .value [.key, .value, .blockEnd] (fuel + 2)
      ⟨.scalar true word :: .value :: ahead, anchors, handles⟩ =
        .ok (.scalar (Kind.ofText word) word, ⟨.value :: ahead, anchors, handles⟩) :=
    (readUnless_of_other rfl _).trans (readNode_scalar _ _ _ _)
  have value : readValue .value [.key, .value, .blockEnd] (fuel + 2)
      ⟨.value :: ahead, anchors, handles⟩ = readNode .value fuel ⟨ahead, anchors, handles⟩ := by
    rw [readValue]
    exact readUnless_of_other other fuel
  rw [readBlockEntries]
  change (readUnless .value [.key, .value, .blockEnd] (fuel + 2)
    ⟨.scalar true word :: .value :: ahead, anchors, handles⟩ >>= _) = _
  rw [key]
  change (readValue .value [.key, .value, .blockEnd] (fuel + 2)
    ⟨.value :: ahead, anchors, handles⟩ >>= _) = _
  rw [value]
  cases readNode .value fuel ⟨ahead, anchors, handles⟩ with
  | error cause => rfl
  | ok result =>
    change (readBlockEntries (fuel + 2) result.2 >>= _) = behind _ (readBlockEntries _ result.2)
    cases readBlockEntries (fuel + 2) result.2 <;> rfl

/-- An entry of a block map, in front of those that follow. -/
theorem readBlockEntries_entry (entry : Entry) {fuel : Nat}
    (enough : entry.content.items.length + 3 ≤ fuel) :
    readBlockEntries (fuel + 3) ⟨entry.tokens ++ ahead, anchors, handles⟩ =
      behind [entry.node] (readBlockEntries (fuel + 2) ⟨ahead, anchors, handles⟩) := by
  have other : sees ⟨entry.content.tokens ++ ahead, anchors, handles⟩ [.key, .value, .blockEnd] =
      false := by
    cases entry.content <;> rfl
  change readBlockEntries (fuel + 3) ⟨.key :: .scalar true (String.ofList entry.word) :: .value ::
    (entry.content.tokens ++ ahead), anchors, handles⟩ = _
  rw [readBlockEntries_key _ fuel other, readNode_content entry.content enough]
  rfl

/-- Entries in front of any others. -/
theorem readBlockEntries_entries (entries : List Entry) {fuel : Nat}
    (enough : ∀ entry ∈ entries, entry.content.items.length + 3 ≤ fuel) :
    readBlockEntries (entries.length + (fuel + 2))
        ⟨entries.flatMap Entry.tokens ++ ahead, anchors, handles⟩ =
      behind (entries.map Entry.node) (readBlockEntries (fuel + 2) ⟨ahead, anchors, handles⟩) := by
  induction entries with
  | nil =>
    rw [List.length_nil, Nat.zero_add, List.map_nil, behind_nil]
    rfl
  | cons entry entries ih =>
    obtain ⟨first, others⟩ := List.forall_mem_cons.mp enough
    have size : (entry :: entries).length + (fuel + 2) = entries.length + fuel + 3 := by
      rw [List.length_cons]
      omega
    have tokens : (entry :: entries).flatMap Entry.tokens ++ ahead =
        entry.tokens ++ (entries.flatMap Entry.tokens ++ ahead) := by
      rw [List.flatMap_cons, List.append_assoc]
    rw [size, tokens, readBlockEntries_entry entry (by omega), Nat.add_assoc, ih others,
      behind_append]
    rfl

private theorem readBlockEntries_end (fuel : Nat) :
    readBlockEntries (fuel + 1) ⟨.blockEnd :: ahead, anchors, handles⟩ =
      .ok ([], ⟨ahead, anchors, handles⟩) := by
  rw [readBlockEntries]
  rfl

theorem length_items (items : List Item) :
    items.length ≤ (items.flatMap fun item => [Token.blockEntry, item.token]).length := by
  induction items with
  | nil => exact Nat.le_refl 0
  | cons item items ih =>
    rw [List.flatMap_cons, List.length_append, List.length_cons]
    simp only [List.length_cons, List.length_nil]
    omega

private theorem length_tokens (content : Content) :
    content.items.length ≤ content.tokens.length := by
  cases content with
  | line item => exact Nat.le_refl 1
  | list first rest =>
    have whole : (Content.list first rest).tokens.length =
        ((first :: rest).flatMap fun item => [Token.blockEntry, item.token]).length + 2 := by
      rw [Content.tokens, List.cons_append, List.length_cons, List.length_append]
      rfl
    rw [whole]
    exact Nat.le_add_right_of_le (length_items (first :: rest))

/-- There are more tokens than entries, and more than any entry has texts. -/
theorem length_entries (entries : List Entry) :
    entries.length ≤ (entries.flatMap Entry.tokens).length ∧ ∀ entry ∈ entries,
      entry.content.items.length + 3 ≤ (entries.flatMap Entry.tokens).length := by
  induction entries with
  | nil => exact ⟨Nat.le_refl 0, fun _ absent => absurd absent List.not_mem_nil⟩
  | cons entry entries ih =>
    obtain ⟨count, each⟩ := ih
    have first : entry.tokens.length = entry.content.tokens.length + 3 := rfl
    have texts := length_tokens entry.content
    rw [List.flatMap_cons, List.length_append, List.length_cons, List.forall_mem_cons]
    refine ⟨by omega, by omega, fun other member => ?_⟩
    have := each other member
    omega

/-- The fuel of a document is enough for the entries that it starts with. -/
theorem readRoot_entries (entries : List Entry) (ahead : List Token) : ∃ fuel,
    ahead.length ≤ fuel ∧ readRoot handles (.blockMap :: (entries.flatMap Entry.tokens ++ ahead)) =
      (behind (entries.map Entry.node) (readBlockEntries (fuel + 2) ⟨ahead, [], handles⟩)).map
        fun (entries, reader) => (.map .map entries, reader.tokens) := by
  obtain ⟨count, each⟩ := length_entries entries
  obtain ⟨spare, size⟩ := Nat.exists_eq_add_of_le
    (show entries.length + (entries.flatMap Entry.tokens).length ≤
      4 * (Token.blockMap :: (entries.flatMap Entry.tokens ++ ahead)).length + 5 by
        rw [List.length_cons, List.length_append]
        omega)
  have long : ahead.length ≤ (entries.flatMap Entry.tokens).length + spare := by
    rw [List.length_cons, List.length_append] at size
    omega
  refine ⟨(entries.flatMap Entry.tokens).length + spare, long, ?_⟩
  have fuel : 4 * (Token.blockMap :: (entries.flatMap Entry.tokens ++ ahead)).length + 8 =
      entries.length + ((entries.flatMap Entry.tokens).length + spare + 2) + 1 := by
    omega
  have enough : ∀ entry ∈ entries, entry.content.items.length + 3 ≤
      (entries.flatMap Entry.tokens).length + spare := fun entry member =>
    Nat.le_add_right_of_le (each entry member)
  rw [readRoot, fuel, readNode_blockMap, readBlockEntries_entries entries enough]
  cases behind (entries.map Entry.node)
    (readBlockEntries ((entries.flatMap Entry.tokens).length + spare + 2)
      ⟨ahead, [], handles⟩) <;> rfl

/-- The tree of a map of texts. -/
theorem readOnly_entries (entries : List Entry) :
    readOnly (.blockMap :: (entries.flatMap Entry.tokens ++ [.blockEnd])) =
      .ok (some (.map .map (entries.map Entry.node))) := by
  obtain ⟨fuel, -, root⟩ := @readRoot_entries standardHandles entries [.blockEnd]
  rw [readBlockEntries_end] at root
  change (readRoot standardHandles _ >>= fun _ => _) = _
  rw [root]
  simp [behind, Except.map, skipEnds]

end Reader

end EditorPlugins.Yaml
