import EditorPlugins.Proofs.Config.Check
import EditorPlugins.Proofs.Merge.Effect

/-! # Payloads that manage what they carry

Without a list of its own a payload manages the children of the shared maps in its content and the
other keys as a whole. It installs the content and nothing else as long as the written paths keep
these apart: a key of the document that looks like a child of a shared map is read as that child.
-/

namespace EditorPlugins.Merge

open Entries

variable {host content : Mapping}

/-- A document of the host with some content installed, and nothing else changed. -/
structure Installs (host content result : Mapping) : Prop where
  /-- A key of the content, other than a shared map of children, has the content's value. -/
  whole : ∀ key value, get? content key = some value →
    ¬ (key ∈ sharedMaps ∧ ∃ children, value = .map children) → get? result key = some value
  /-- A child of a shared map of the content has the content's value. -/
  children : ∀ map placed, .text map ∈ sharedMaps →
    Mapping.field? content map = some (.map placed) →
      ∀ key value, get? placed key = some value → childAt? result map key = some value
  /-- A key that the content does not have is as in the host. -/
  others : ∀ key, get? content key = none → get? result key = get? host key
  /-- The children of a shared map that the content does not have are as in the host. -/
  siblings : ∀ map placed children, .text map ∈ sharedMaps →
    Mapping.field? content map = some (.map placed) →
    Mapping.field? host map = some (.map children) →
      ∃ kept, Mapping.field? result map = some (.map kept) ∧
        ∀ key, get? placed key = none → get? kept key = get? children key

/-- Content whose written paths lead back to it: keys are texts, and no key of the document is
written like a child of a shared map. -/
structure Separable (content : Mapping) : Prop where
  names : ∀ key value, (key, value) ∈ content →
    ∃ name, key = .text name ∧ KeyPath.ofText sharedMaps name = .whole name
  children : ∀ map placed, .text map ∈ sharedMaps → (.text map, .map placed) ∈ content →
    ∀ key value, (key, value) ∈ placed → ∃ name, key = .text name

/-- The paths that an entry takes up. -/
def ownPaths (name : String) (value : Value) : List String :=
  match value.map? with
  | some children =>
    if .text name ∈ sharedMaps then
      children.map fun entry => (KeyPath.child name entry.1.display).text
    else [name]
  | none => [name]

private theorem managedBy_text (name : String) (value : Value) :
    managedBy sharedMaps (.text name) value = (ownPaths name value).map .text := by
  unfold managedBy ownPaths
  cases value.map? with
  | none => rfl
  | some children =>
    by_cases isShared : Scalar.text name ∈ sharedMaps
    · simp [isShared, Scalar.isAmong_text.mpr isShared, Scalar.display]
    · have notAmong : (Scalar.text name).isAmong sharedMaps ≠ true :=
        fun among => isShared (Scalar.isAmong_text.mp among)
      simp [isShared, notAmong]

/-- The payload that some fields make up. -/
def payloadOf (fields : Entries String Value) : Payload :=
  ⟨distinct (fields.flatMap fun field => ownPaths field.1 field.2), Mapping.ofFields fields⟩

private theorem managedKeys_ofFields (fields : Entries String Value) :
    managedKeys sharedMaps (Mapping.ofFields fields) =
      (payloadOf fields).managedKeys.map .text := by
  rw [managedKeys, payloadOf, ← Scalar.distinct_texts, Mapping.ofFields, List.flatMap_map,
    List.map_flatMap]
  simp only [managedBy_text]

private theorem mem_managedKeys_payloadOf {fields : Entries String Value} {path : String} :
    path ∈ (payloadOf fields).managedKeys ↔
      ∃ field ∈ fields, path ∈ ownPaths field.1 field.2 := by
  simp [payloadOf, mem_distinct]

/-- Content with distinct text keys makes up a payload. -/
theorem ofContent_ofFields (fields : Entries String Value) (unique : (keys fields).Nodup) :
    Payload.ofContent (Mapping.ofFields fields) none = .ok (payloadOf fields) := by
  have texts : ((managedKeys sharedMaps (Mapping.ofFields fields)).map Value.scalar) =
      (payloadOf fields).managedKeys.map .text := by
    rw [managedKeys_ofFields, List.map_map]
    rfl
  have keysOk : Config.checkTexts (.list ((payloadOf fields).managedKeys.map .text)) =
      .ok (payloadOf fields).managedKeys := Config.checkTexts_texts _
  have contentOk : Config.checkAnyMap (.map (Mapping.ofFields fields)) = .ok fields := by
    rw [Config.checkAnyMap_ofFields, ofPairs_of_nodup unique]
  have keysField (keys content : Value) :
      Config.firstField? (Mapping.ofFields [("managed_keys", keys), ("content", content)])
        ["managedKeys", "managed_keys"] = some ("managed_keys", keys) := by
    simp [Config.firstField?, Mapping.ofFields, Mapping.field?, get?]
  have contentField (keys content : Value) :
      Config.firstField? (Mapping.ofFields [("managed_keys", keys), ("content", content)])
        ["content"] = some ("content", content) := by
    simp [Config.firstField?, Mapping.ofFields, Mapping.field?, get?]
  simp only [Payload.ofContent, texts, Payload.ofRecord, Config.fieldOr, keysField, contentField,
    keysOk, contentOk]
  rfl

/-- The paths that some content takes up: its keys, with the children of shared maps in the place
of the maps. -/
inductive Takes (content : Mapping) : String → Prop
  | whole {name : String} {value : Value} (entry : (.text name, value) ∈ content)
      (plain : ¬ (.text name ∈ sharedMaps ∧ ∃ children, value = .map children)) :
      Takes content name
  | child {map name : String} {placed : Mapping} {value : Value}
      (isShared : .text map ∈ sharedMaps) (entry : (.text map, .map placed) ∈ content)
      (member : (.text name, value) ∈ placed) : Takes content (KeyPath.child map name).text

private theorem ownPaths_of_plain {name : String} {value : Value}
    (plain : ¬ (.text name ∈ sharedMaps ∧ ∃ children, value = .map children)) :
    ownPaths name value = [name] := by
  cases value with
  | map children =>
    have notShared : Scalar.text name ∉ sharedMaps := fun among => plain ⟨among, children, rfl⟩
    simp [ownPaths, Value.map?, notShared]
  | _ => rfl

private theorem ownPaths_map {map : String} (isShared : .text map ∈ sharedMaps) (placed : Mapping) :
    ownPaths map (.map placed) =
      placed.map fun entry => (KeyPath.child map entry.1.display).text := by
  simp [ownPaths, Value.map?, isShared]

theorem mem_ofFields {fields : Entries String Value} {name : String} {value : Value} :
    (.text name, value) ∈ Mapping.ofFields fields ↔ (name, value) ∈ fields := by
  simp [Mapping.ofFields]

/-- Separable content manages exactly what it takes up. -/
theorem Separable.mem_managedKeys_iff {fields : Entries String Value}
    (separable : Separable (Mapping.ofFields fields)) {path : String} :
    path ∈ (payloadOf fields).managedKeys ↔ Takes (Mapping.ofFields fields) path := by
  rw [mem_managedKeys_payloadOf]
  constructor
  · rintro ⟨⟨name, value⟩, field, own⟩
    by_cases plain : Scalar.text name ∈ sharedMaps ∧ ∃ children, value = .map children
    · obtain ⟨isShared, placed, rfl⟩ := plain
      have entry := mem_ofFields.mpr field
      rw [ownPaths_map isShared] at own
      obtain ⟨⟨key, value⟩, member, rfl⟩ := List.mem_map.mp own
      obtain ⟨child, rfl⟩ := separable.children name placed isShared entry key value member
      exact .child isShared entry member
    · rw [ownPaths_of_plain plain, List.mem_singleton] at own
      exact own ▸ .whole (mem_ofFields.mpr field) plain
  · rintro (⟨entry, plain⟩ | ⟨isShared, entry, member⟩)
    · refine ⟨_, mem_ofFields.mp entry, ?_⟩
      rw [ownPaths_of_plain plain]
      exact List.mem_singleton_self _
    · refine ⟨_, mem_ofFields.mp entry, ?_⟩
      rw [ownPaths_map isShared]
      exact List.mem_map_of_mem member

/-- A path that separable content takes up leads through one of its keys. -/
theorem Takes.root_mem_keys {path : String} (separable : Separable content)
    (takes : Takes content path) :
    .text (KeyPath.ofText sharedMaps path).root ∈ keys content := by
  cases takes with
  | whole entry plain =>
    obtain ⟨name, same, read⟩ := separable.names _ _ entry
    cases same
    rw [read]
    exact List.mem_map_of_mem entry
  | child isShared entry member =>
    rw [KeyPath.ofText_child _ isShared]
    exact List.mem_map_of_mem entry

/-- A child of a shared map is taken up only if the content has the child. -/
theorem Takes.mem_of_child {map name : String} {placed : Mapping} (separable : Separable content)
    (unique : (keys content).Nodup) (isShared : .text map ∈ sharedMaps)
    (entry : (.text map, .map placed) ∈ content)
    (takes : Takes content (KeyPath.child map name).text) : .text name ∈ keys placed := by
  have read := KeyPath.ofText_child name isShared
  generalize (KeyPath.child map name).text = path at takes read
  cases takes with
  | whole other plain =>
    obtain ⟨other, same, whole⟩ := separable.names _ _ other
    cases same
    rw [whole] at read
    cases read
  | child otherShared other member =>
    rw [KeyPath.ofText_child _ otherShared] at read
    cases read
    have same := (get?_of_mem unique entry).symm.trans (get?_of_mem unique other)
    cases same
    exact List.mem_map_of_mem member

/-- A shared map of children is not managed as a whole. -/
theorem not_mem_managedKeys_of_map {fields : Entries String Value} {map : String}
    {placed : Mapping} (unique : (keys (Mapping.ofFields fields)).Nodup)
    (isShared : .text map ∈ sharedMaps)
    (entry : (.text map, .map placed) ∈ Mapping.ofFields fields) :
    map ∉ (payloadOf fields).managedKeys := by
  rw [mem_managedKeys_payloadOf]
  rintro ⟨⟨name, value⟩, field, own⟩
  by_cases plain : Scalar.text name ∈ sharedMaps ∧ ∃ children, value = .map children
  · obtain ⟨otherShared, other, rfl⟩ := plain
    rw [ownPaths_map otherShared] at own
    obtain ⟨child, -, same⟩ := List.mem_map.mp own
    have read := KeyPath.ofText_map isShared
    rw [← same, KeyPath.ofText_child _ otherShared] at read
    cases read
  · rw [ownPaths_of_plain plain, List.mem_singleton] at own
    subst own
    have same := (get?_of_mem unique entry).symm.trans (get?_of_mem unique (mem_ofFields.mpr field))
    cases same
    exact plain ⟨isShared, placed, rfl⟩

/-- Separable content is installed, and nothing else. -/
theorem Separable.installs {fields : Entries String Value}
    (separable : Separable (Mapping.ofFields fields))
    (unique : (keys (Mapping.ofFields fields)).Nodup) (host : Mapping) :
    Installs host (Mapping.ofFields fields) (apply host (payloadOf fields)) where
  whole key value found plain := by
    have entry := mem_of_get? found
    obtain ⟨name, rfl, read⟩ := separable.names key value entry
    have managed := separable.mem_managedKeys_iff.mpr (.whole entry plain)
    have placed := valueAt?_apply host managed
    rw [read] at placed
    exact placed.trans found
  children map placed isShared present key value found := by
    have entry := mem_of_get? present
    obtain ⟨name, rfl⟩ := separable.children map placed isShared entry key value (mem_of_get? found)
    have managed := separable.mem_managedKeys_iff.mpr (.child isShared entry (mem_of_get? found))
    rw [childAt?_apply_of_managed host isShared managed]
    exact (childAt?_of_field? present (.text name)).trans found
  others key absent := by
    apply get?_apply_of_root
    rintro path managed rfl
    have takes := separable.mem_managedKeys_iff.mp managed
    exact (get?_eq_none_iff _ _).mp absent (takes.root_mem_keys separable)
  siblings map placed children isShared entry present := by
    have entry := mem_of_get? entry
    have unmanaged := not_mem_managedKeys_of_map unique isShared entry
    obtain ⟨kept, found, same⟩ := exists_kept_children unmanaged present
    refine ⟨kept, found, fun key absent => same key ?_⟩
    rintro name rfl managed
    have takes := separable.mem_managedKeys_iff.mp managed
    exact (get?_eq_none_iff _ _).mp absent
      (takes.mem_of_child separable unique isShared entry)

/-- A key that is no text is never installed in an empty document, nor is one that is written like
a child of a shared map. -/
theorem get?_apply_nil {payload : Payload} {key : Scalar} (notShared : key ∉ sharedMaps)
    (split : ∀ name, key = .text name → KeyPath.ofText sharedMaps name ≠ .whole name) :
    get? (apply [] payload) key = none := by
  rw [get?_apply_of_unmanaged notShared]
  · rfl
  · rintro name _ read rfl
    exact split name rfl read

private theorem exists_get?_of_mem {entries : Mapping} {key : Scalar} {value : Value}
    (member : (key, value) ∈ entries) : ∃ found, get? entries key = some found := by
  apply Option.isSome_iff_exists.mp
  rw [get?_isSome_iff]
  exact List.mem_map_of_mem member

/-- What is installed in an empty document has keys that are texts and read as keys. -/
theorem Installs.exists_name {payload : Payload} (installs : Installs [] content (apply [] payload))
    {key : Scalar} {value : Value} (entry : (key, value) ∈ content) :
    ∃ name, key = .text name ∧ KeyPath.ofText sharedMaps name = .whole name := by
  by_cases isShared : key ∈ sharedMaps
  · have text : ∃ name, key = .text name := by
      simp only [sharedMaps, List.mem_cons, List.not_mem_nil, or_false] at isShared
      rcases isShared with rfl | rfl <;> exact ⟨_, rfl⟩
    obtain ⟨name, rfl⟩ := text
    exact ⟨name, rfl, KeyPath.ofText_map isShared⟩
  · by_cases whole : ∃ name, key = .text name ∧ KeyPath.ofText sharedMaps name = .whole name
    · exact whole
    · obtain ⟨found, present⟩ := exists_get?_of_mem entry
      have installed := installs.whole key found present fun both => isShared both.1
      rw [get?_apply_nil isShared fun name same read => whole ⟨name, same, read⟩] at installed
      cases installed

private theorem exists_fields
    (named : ∀ key value, (key, value) ∈ content → ∃ name, key = .text name) :
    ∃ fields, content = Mapping.ofFields fields := by
  induction content with
  | nil => exact ⟨[], rfl⟩
  | cons entry rest ih =>
    obtain ⟨name, same⟩ := named entry.1 entry.2 List.mem_cons_self
    obtain ⟨fields, rfl⟩ := ih fun key value member =>
      named key value (List.mem_cons_of_mem _ member)
    refine ⟨(name, entry.2) :: fields, ?_⟩
    change entry :: Mapping.ofFields fields = (.text name, entry.2) :: Mapping.ofFields fields
    rw [← same]

private theorem nodup_of_ofFields {fields : Entries String Value}
    (unique : (keys (Mapping.ofFields fields)).Nodup) : (keys fields).Nodup := by
  have texts : keys (Mapping.ofFields fields) = (keys fields).map .text := by
    simp [keys, Mapping.ofFields]
  rw [texts] at unique
  exact List.Pairwise.of_map Scalar.text (fun _ _ different same => different (same ▸ rfl)) unique

private theorem childAt?_nil (map : String) (key : Scalar) : childAt? [] map key = none := rfl

/-- Content is installed in every document, and nothing else, exactly when it is separable. -/
theorem installs_iff_separable (content : Mapping) (unique : (keys content).Nodup) :
    (∀ host, ∃ payload, Payload.ofContent content none = .ok payload ∧
      Installs host content (apply host payload)) ↔ Separable content := by
  constructor
  · intro installed
    obtain ⟨payload, made, installs⟩ := installed []
    have names : ∀ key value, (key, value) ∈ content →
        ∃ name, key = .text name ∧ KeyPath.ofText sharedMaps name = .whole name :=
      fun key value entry => installs.exists_name entry
    obtain ⟨fields, rfl⟩ := exists_fields fun key value entry =>
      (names key value entry).imp fun _ both => both.1
    rw [ofContent_ofFields fields (nodup_of_ofFields unique)] at made
    cases made
    refine ⟨names, fun map placed isShared entry key value member => ?_⟩
    apply Classical.byContradiction
    intro noText
    obtain ⟨found, present⟩ := exists_get?_of_mem member
    have child := installs.children map placed isShared (get?_of_mem unique entry) key found present
    have unmanaged := not_mem_managedKeys_of_map unique isShared entry
    rw [childAt?_apply_of_unmanaged unmanaged fun name same => absurd ⟨name, same⟩ noText,
      childAt?_nil] at child
    cases child
  · intro separable host
    obtain ⟨fields, rfl⟩ := exists_fields fun key value entry =>
      (separable.names key value entry).imp fun _ both => both.1
    exact ⟨payloadOf fields, ofContent_ofFields fields (nodup_of_ofFields unique),
      separable.installs unique host⟩

/-- Content with dots in the names of a key and of a child. -/
def dottedContent : Mapping :=
  [(.text "editor.theme", .text "dark"),
    (.text "mcpServers", .map [(.text "io.github.brain", .null)])]

/-- Dots in the names of children and of other keys do no harm. -/
theorem dottedContent_installed :
    (keys dottedContent).Nodup ∧ ∃ payload, Payload.ofContent dottedContent none = .ok payload ∧
      Installs [(.text "mcpServers", .map [(.text "other", .null)])] dottedContent
        (apply [(.text "mcpServers", .map [(.text "other", .null)])] payload) := by
  have unique : (keys dottedContent).Nodup := by decide
  refine ⟨unique, (installs_iff_separable _ unique).mpr ⟨?_, ?_⟩ _⟩
  · intro key value entry
    simp only [dottedContent, List.mem_cons, Prod.mk.injEq, List.not_mem_nil, or_false] at entry
    rcases entry with ⟨rfl, -⟩ | ⟨rfl, -⟩
    · exact ⟨_, rfl, by decide⟩
    · exact ⟨_, rfl, by decide⟩
  · intro map placed _ entry key value member
    simp only [dottedContent, List.mem_cons, Prod.mk.injEq, reduceCtorEq, and_false, false_or,
      Value.map.injEq, List.not_mem_nil, or_false] at entry
    rw [entry.2, List.mem_singleton, Prod.mk.injEq] at member
    exact ⟨_, member.1⟩

/-- Content with a key that is written like a child of a shared map. -/
def childLikeContent : Mapping := [(.text "hooks.a", .int 2)]

/-- A key that is written like a child of a shared map is lost, and takes the host's child with
it. -/
theorem childLikeContent_lost :
    ∃ payload, Payload.ofContent childLikeContent none = .ok payload ∧
      apply [(.text "hooks", .map [(.text "a", .int 1)])] payload =
        [(.text "hooks", .map [])] ∧
      ¬ Installs [(.text "hooks", .map [(.text "a", .int 1)])] childLikeContent
        (apply [(.text "hooks", .map [(.text "a", .int 1)])] payload) := by
  have made : Payload.ofContent childLikeContent none = .ok (payloadOf [("hooks.a", .int 2)]) :=
    ofContent_ofFields [("hooks.a", .int 2)] (by decide)
  have applied : apply [(.text "hooks", .map [(.text "a", .int 1)])]
      (payloadOf [("hooks.a", .int 2)]) = [(.text "hooks", .map [])] := by rfl
  refine ⟨_, made, applied, fun installs => ?_⟩
  have value := installs.whole (.text "hooks.a") (.int 2) rfl fun both => by
    obtain ⟨-, children, shape⟩ := both
    cases shape
  rw [applied] at value
  cases value

end EditorPlugins.Merge
