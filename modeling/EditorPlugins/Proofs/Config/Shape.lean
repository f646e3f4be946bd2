import EditorPlugins.Config.Load
import EditorPlugins.Proofs.Config.Check
import EditorPlugins.Proofs.Json.Reader

/-! # The shape of documents and the checks of their fields

The shape and the checks of the fields describe the same documents, one by types, the other by what
the values are turned into. They differ in one place: the checks drop whatever an agent holds beside
its targets, the shape admits only texts there.
-/

namespace EditorPlugins.Config

open Value

namespace Mismatch

private theorem at?_eq_nil_iff {place : List Scalar} {admitted : List Shape} {value : Value} :
    at? place admitted value = [] ↔ ∃ shape ∈ admitted, shape.admits value = true := by
  unfold at?
  split
  · next admits => simpa using admits
  · next refuses => simpa using refuses

end Mismatch

private theorem mismatchesBelow_eq_nil_iff {place : List Scalar} {value : Value}
    {check : List Scalar → Value → List Mismatch} :
    mismatchesBelow place value check = [] ↔ ∀ entries, value = .map entries →
      ∀ entry ∈ entries, check (place ++ [entry.1]) entry.2 = [] := by
  cases value with
  | map entries => simp [mismatchesBelow, map?, List.flatMap_eq_nil_iff]
  | scalar value => simp [mismatchesBelow, map?]
  | list items => simp [mismatchesBelow, map?]

/-- A document has its shape exactly when no mismatch is found in it. -/
theorem checkShape_eq_ok_iff {document : Value} :
    checkShape document = .ok () ↔ mismatches document = [] := by
  unfold checkShape
  split
  · next none => simp [none]
  · next some => split <;> simp [some]

private theorem mismatches_map_eq_nil_iff {entries : Mapping} :
    mismatches (.map entries) = [] ↔ ∀ key ∈ declaredKeys, ∀ value,
      Mapping.field? entries key = some value → fieldMismatches key value = [] := by
  have object : Mismatch.at? [] [.object] (.map entries) = [] := rfl
  simp only [mismatches, object, map?, List.nil_append, List.flatMap_eq_nil_iff]
  refine forall₂_congr fun key _ => ?_
  cases Mapping.field? entries key <;> simp

/-- The values that an agent must not hold beside its targets: truth values, numbers and lists. -/
inductive IsStray : Value → Prop where
  | bool (truth : Bool) : IsStray (.bool truth)
  | int (n : Int) : IsStray (.int n)
  | float (x : Number.Double) : IsStray (.float x)
  | list (items : List Value) : IsStray (.list items)

/-- A document with an agent that holds a stray value. -/
inductive HasStray : Value → Prop where
  | intro {entries agents targets : Mapping} {agent target : Scalar} {value : Value}
      (field : Mapping.field? entries "agents" = some (.map agents))
      (entry : (agent, .map targets) ∈ agents) (held : (target, value) ∈ targets)
      (stray : IsStray value) : HasStray (.map entries)

/-- The types that are admitted in the entry of an agent are those of the values that are not
stray. -/
theorem admits_iff_not_isStray {value : Value} (tree : IsTree Json.IsLeaf value) :
    (∃ shape ∈ [Shape.object, .null, .string], shape.admits value = true) ↔ ¬IsStray value := by
  cases tree with
  | @scalar leaf isLeaf =>
    cases leaf with
    | null => exact ⟨nofun, fun _ => ⟨.null, by simp, rfl⟩⟩
    | text text => exact ⟨nofun, fun _ => ⟨.string, by simp, rfl⟩⟩
    | bool truth => simp [Shape.admits, IsStray.bool truth]
    | int n => simp [Shape.admits, IsStray.int n]
    | float x => simp [Shape.admits, IsStray.float x]
    | bytes octets => exact isLeaf.elim
    | date date => exact isLeaf.elim
  | list => simp [Shape.admits, IsStray.list]
  | map => exact ⟨nofun, fun _ => ⟨.object, by simp, rfl⟩⟩

/-- Where no mismatch is found, no agent holds a stray value. -/
theorem not_hasStray_of_mismatches {document : Value} (tree : IsTree Json.IsLeaf document)
    (shaped : mismatches document = []) : ¬HasStray document := by
  rintro ⟨field, entry, held, stray⟩
  have agents := mismatches_map_eq_nil_iff.mp shaped "agents" (by decide) _ field
  have agent := mismatchesBelow_eq_nil_iff.mp (List.append_eq_nil_iff.mp agents).2 _ rfl _ entry
  have target := mismatchesBelow_eq_nil_iff.mp (List.append_eq_nil_iff.mp agent).2 _ rfl _ held
  have below : IsTree Json.IsLeaf _ :=
    ((tree.of_mem (Entries.mem_of_get? field)).of_mem entry).of_mem held
  exact (admits_iff_not_isStray below).mp (Mismatch.at?_eq_nil_iff.mp target) stray

private theorem admits_of_checkVersion {value : Value} {version : String}
    (tree : IsTree Json.IsLeaf value) (checked : TargetConfig.checkVersion value = .ok version) :
    ∃ shape ∈ [Shape.string, .number], shape.admits value = true := by
  cases tree with
  | @scalar leaf isLeaf =>
    cases leaf with
    | null => cases checked
    | text text => exact ⟨.string, by simp, rfl⟩
    | bool truth => cases checked
    | int n => exact ⟨.number, by simp, rfl⟩
    | float x => exact ⟨.number, by simp, rfl⟩
    | bytes octets => exact isLeaf.elim
    | date date => exact isLeaf.elim
  | list => cases checked
  | map => cases checked

private theorem at?_of_checkMap {α : Type} {check : Value → Checked α} {value : Value}
    {result : Entries String α} (place : List Scalar)
    (checked : checkMap check value = .ok result) :
    Mismatch.at? place [.object] value = [] := by
  obtain ⟨entries, rfl, -⟩ := exists_map_of_checkMap checked
  rfl

private theorem at?_of_checkOptional {value : Value} {result : Option (Entries String Value)}
    (place : List Scalar) (checked : checkOptional checkAnyMap value = .ok result) :
    Mismatch.at? place [.object, .null] value = [] := by
  unfold checkOptional at checked
  split at checked
  · rfl
  · simp only [Outcome.map_eq_ok_iff] at checked
    obtain ⟨_, checked, -⟩ := checked
    obtain ⟨entries, rfl, -⟩ := exists_map_of_checkMap checked
    rfl

/-- An agent that is accepted is a map, because dropping descriptions turns nothing into a map. -/
theorem exists_map_of_checkAgent {value : Value} {result : Entries String (Option AgentSettings)}
    (checked : TargetConfig.checkAgent value = .ok result) : ∃ targets, value = .map targets := by
  obtain ⟨entries, same, -⟩ := exists_map_of_checkMap checked
  unfold TargetConfig.dropDescriptions at same
  split at same
  · exact ⟨_, rfl⟩
  · exact ⟨_, same⟩

private theorem fieldMismatches_agents {value : Value}
    {result : Entries String (Entries String (Option AgentSettings))}
    (tree : IsTree Json.IsLeaf value)
    (checked : checkMap TargetConfig.checkAgent value = .ok result)
    (tidy : ∀ agents agent targets target held, value = .map agents →
      (agent, .map targets) ∈ agents → (target, held) ∈ targets → ¬IsStray held) :
    fieldMismatches "agents" value = [] := by
  obtain ⟨agents, rfl, each⟩ := exists_map_of_checkMap checked
  refine List.append_eq_nil_iff.mpr ⟨rfl, mismatchesBelow_eq_nil_iff.mpr ?_⟩
  rintro _ ⟨rfl⟩ ⟨agent, entry⟩ present
  obtain ⟨_, accepted⟩ := each _ present
  obtain ⟨targets, rfl⟩ := exists_map_of_checkAgent accepted
  refine List.append_eq_nil_iff.mpr ⟨rfl, mismatchesBelow_eq_nil_iff.mpr ?_⟩
  rintro _ ⟨rfl⟩ ⟨target, held⟩ member
  exact Mismatch.at?_eq_nil_iff.mpr ((admits_iff_not_isStray
    ((tree.of_mem present).of_mem member)).mpr (tidy agents agent _ target held rfl present member))

private theorem fieldMismatches_hooks {value : Value}
    {result : Entries String (Option (Entries String Value))}
    (checked : checkMap (checkOptional checkAnyMap) value = .ok result) :
    fieldMismatches "hooks" value = [] := by
  obtain ⟨hooks, rfl, each⟩ := exists_map_of_checkMap checked
  refine List.append_eq_nil_iff.mpr ⟨rfl, mismatchesBelow_eq_nil_iff.mpr ?_⟩
  rintro _ ⟨rfl⟩ ⟨hook, entry⟩ present
  obtain ⟨_, accepted⟩ := each _ present
  exact at?_of_checkOptional _ accepted

/-- A document whose fields are accepted has its shape, unless an agent holds a stray value. -/
theorem mismatches_of_accepted {document : Value} {config : TargetConfig}
    (tree : IsTree Json.IsLeaf document) (accepted : TargetConfig.ofValue document = .ok config)
    (tidy : ¬HasStray document) : mismatches document = [] := by
  cases tree with
  | scalar => cases accepted
  | list => cases accepted
  | @map fields distinct each =>
    have tree : IsTree Json.IsLeaf (.map (Mapping.ofFields fields)) := .map distinct each
    simp only [TargetConfig.ofValue, checkRecord, TargetConfig.ofRecord, Outcome.map_eq_ok_iff,
      Checked.both_eq_ok_iff] at accepted
    obtain ⟨_, ⟨version, targets, agents, hooks, skills, commands, protocols⟩, -⟩ := accepted
    refine mismatches_map_eq_nil_iff.mpr ?_
    simp only [declaredKeys, List.forall_mem_cons, List.not_mem_nil, false_implies, implies_true,
      and_true]
    have below : ∀ {name value}, Mapping.field? (Mapping.ofFields fields) name = some value →
        IsTree Json.IsLeaf value := fun given => tree.of_mem (Entries.mem_of_get? given)
    refine ⟨fun value given => ?_, fun value given => ?_, fun value given => ?_,
      fun value given => ?_, fun value given => ?_, fun value given => ?_, fun value given => ?_⟩
    · obtain ⟨_, checked⟩ := exists_ok_of_fieldOr version given
      exact Mismatch.at?_eq_nil_iff.mpr (admits_of_checkVersion (below given) checked)
    · obtain ⟨_, checked⟩ := exists_ok_of_fieldOr targets given
      exact at?_of_checkMap _ checked
    · obtain ⟨_, checked⟩ := exists_ok_of_fieldOr agents given
      refine fieldMismatches_agents (below given) checked ?_
      rintro agents agent targets target held rfl entry member stray
      exact tidy ⟨given, entry, member, stray⟩
    · obtain ⟨_, checked⟩ := exists_ok_of_fieldOr hooks given
      exact fieldMismatches_hooks checked
    · obtain ⟨_, checked⟩ := exists_ok_of_fieldOr skills given
      exact at?_of_checkMap _ checked
    · obtain ⟨_, checked⟩ := exists_ok_of_fieldOr commands given
      exact at?_of_checkMap _ checked
    · obtain ⟨_, checked⟩ := exists_ok_of_fieldOr protocols given
      exact at?_of_checkMap _ checked

private theorem ofDocument_false_eq_ok_iff {document : Value} {config : TargetConfig} :
    ofDocument document false = .ok config ↔ TargetConfig.ofValue document = .ok config := by
  cases found : TargetConfig.ofValue document <;> simp [ofDocument, found, throw, throwThe]

private theorem ofDocument_true_eq_ok_iff {document : Value} {config : TargetConfig} :
    ofDocument document true = .ok config ↔
      mismatches document = [] ∧ TargetConfig.ofValue document = .ok config := by
  rw [← checkShape_eq_ok_iff, ← ofDocument_false_eq_ok_iff]
  cases shaped : checkShape document <;> simp [ofDocument, shaped]

private theorem isTree_orEmpty {document : Value} (tree : IsTree Json.IsLeaf document) :
    IsTree Json.IsLeaf (orEmpty document) := by
  unfold orEmpty
  split
  · exact .empty_map
  · exact tree

private theorem hasStray_orEmpty_iff {document : Value} :
    HasStray (orEmpty document) ↔ HasStray document := by
  unfold orEmpty
  split
  · constructor
    · rintro ⟨field, -, -, -⟩
      cases field
    · rintro ⟨⟩
  · rfl

/-- A text is a configuration with the check of its shape exactly when it is one without it and no
agent holds a truth value, a number or a list beside its targets; the configuration is the same. -/
theorem parse_checked_iff (text : String) (config : TargetConfig) :
    parse text .json true = .ok config ↔
      parse text .json false = .ok config ∧
        ∀ document, Json.read text = .ok document → ¬HasStray document := by
  cases found : Json.read text with
  | error cause => cases cause <;> simp [parse, parseWith, Format.readWith, found]
  | ok document =>
    have tree := Json.isTree_of_read found
    have read : ∀ validate, parse text .json validate = ofDocument (orEmpty document) validate :=
      fun validate => by simp [parse, parseWith, Format.readWith, found]; rfl
    rw [read, read, ofDocument_true_eq_ok_iff, ofDocument_false_eq_ok_iff]
    simp only [Except.ok.injEq, forall_eq']
    constructor
    · rintro ⟨shaped, accepted⟩
      exact ⟨accepted, fun stray =>
        not_hasStray_of_mismatches (isTree_orEmpty tree) shaped (hasStray_orEmpty_iff.mpr stray)⟩
    · rintro ⟨accepted, tidy⟩
      exact ⟨mismatches_of_accepted (isTree_orEmpty tree) accepted
        (mt hasStray_orEmpty_iff.mp tidy), accepted⟩

end EditorPlugins.Config
