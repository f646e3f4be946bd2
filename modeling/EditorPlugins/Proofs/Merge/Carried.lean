import EditorPlugins.Json.Document
import EditorPlugins.Merge.Payload
import EditorPlugins.Proofs.Config.Check
import EditorPlugins.Proofs.Json.Written

/-! # Payloads that are carried in a file

A payload is written as a document by whoever compiles a plugin and read again by the installer.
Content made up of exact scalars arrives as it was sent, with the paths it is to manage.
-/

namespace EditorPlugins.Merge

open Value

namespace Payload

private theorem isTree_texts (texts : List String) : IsTree Json.IsExact (Value.texts texts) :=
  IsTree.list_iff.mpr fun item member => by
    obtain ⟨text, -, rfl⟩ := List.mem_map.mp member
    exact .scalar trivial

/-- The document of a payload is a tree of exact scalars when its content is. -/
theorem isTree_toValue {payload : Payload}
    (exact : IsTree Json.IsExact (.map payload.content)) :
    IsTree Json.IsExact payload.toValue := by
  have names : ["managedKeys", "content"].Nodup := by decide
  refine .map names fun field member => ?_
  rcases List.mem_pair.mp member with rfl | rfl
  · exact isTree_texts payload.managedKeys
  · exact exact

/-- A payload is accepted from its own document. -/
theorem ofValue_toValue {payload : Payload} {fields : Entries String Value}
    (content : payload.content = Mapping.ofFields fields)
    (distinct : (Entries.keys fields).Nodup) :
    ofValue payload.toValue = .ok payload := by
  have keys (keys content : Value) : Config.firstField?
      (Mapping.ofFields [("managedKeys", keys), ("content", content)])
      ["managedKeys", "managed_keys"] = some ("managedKeys", keys) := by
    simp [Config.firstField?, Entries.get?]
  have carried (keys content : Value) : Config.firstField?
      (Mapping.ofFields [("managedKeys", keys), ("content", content)]) ["content"] =
      some ("content", content) := by
    simp [Config.firstField?, Entries.get?]
  have accepted : Config.checkAnyMap (.map payload.content) = .ok fields := by
    rw [content, Config.checkAnyMap_ofFields, Entries.ofPairs_of_nodup distinct]
  simp only [ofValue, toValue, Config.checkRecord, ofRecord, Config.fieldOr, keys, carried,
    Config.checkTexts_texts, accepted]
  change Except.ok (Payload.mk payload.managedKeys (Mapping.ofFields fields)) = _
  rw [← content]

end Payload

/-- A payload of exact scalars survives being written and read: it is accepted as it was, down to
the order of its keys at every level, so it has the same effect on every document. -/
theorem payload_carried (payload : Payload)
    (exact : IsTree Json.IsExact (.map payload.content)) :
    ∃ text entries, Json.render payload.toValue = pure text ∧
      (∀ label, Json.readObject text label = pure (some entries)) ∧
      ∃ reread, Payload.ofValue (.map entries) = .ok reread ∧ reread = payload ∧
        ∀ host, apply host reread = apply host payload := by
  obtain ⟨fields, content, distinct, -⟩ := IsTree.map_iff.mp exact
  have document := Payload.isTree_toValue exact
  refine ⟨Json.documentText payload.toValue, _, ?_, fun label => ?_, payload,
    Payload.ofValue_toValue content distinct, rfl, fun _ => rfl⟩
  · rw [Json.render, Json.write_of_isTree document]
    rfl
  · rw [Json.readObject, Json.read_documentText document]
    rfl

/-- A payload with nested content, whose texts have characters that are written with escapes. -/
def nestedPayload : Payload where
  managedKeys := ["hooks.start\"up", "hooks", "mcpServers.a.b", "hooks"]
  content := Mapping.ofFields
    [("hooks", .map <| Mapping.ofFields
        [("start\"up", .list [.int (-7), .list [], .map [], .text "a\\b\n\u007f"]),
          ("", .bool true)]),
      ("version", .null)]

theorem nestedPayload_carried :
    IsTree Json.IsExact (.map nestedPayload.content) ∧
      ∃ text entries, Json.render nestedPayload.toValue = pure text ∧
        (∀ label, Json.readObject text label = pure (some entries)) ∧
        ∃ reread, Payload.ofValue (.map entries) = .ok reread ∧ reread = nestedPayload ∧
          ∀ host, apply host reread = apply host nestedPayload := by
  have content : IsTree Json.IsExact (.map nestedPayload.content) := by
    simp [nestedPayload, IsTree.map_ofFields_iff, IsTree.list_iff, IsTree.scalar_iff,
      IsTree.empty_map, Entries.keys, Json.IsExact, Number.withinLimit, Number.natDigits_of_lt,
      Number.digitLimit]
  exact ⟨content, payload_carried nestedPayload content⟩

end EditorPlugins.Merge
