import EditorPlugins.Compose.Metadata
import EditorPlugins.Proofs.Frontmatter.Marks
import EditorPlugins.Proofs.Frontmatter.RoundTrip

/-! # Variables are read as they were written

Values are quoted with a reader in mind that types them and keeps what looks like a comment, while
variables are read as texts and without comments. Both readers agree on what is written: a text in
its plain form has no mark of a comment, and the quotes around any other hide the marks in it.
-/

namespace EditorPlugins.Compose

open Frontmatter Text

/-- A name of a target or of a variable that a line can start with, and that opens no quotes. -/
structure IsVariableName (name : String) : Prop extends IsInline name.toList where
  notItem : name.toList.head? ≠ some '-'
  unmarked : ∀ c ∈ name.toList, c ≠ ':' ∧ c ≠ '#' ∧ c ≠ '"' ∧ c ≠ '\''

instance : DecidablePred IsVariableName := fun name =>
  haveI : Decidable (∀ c ∈ name.toList, c ≠ ':' ∧ c ≠ '#' ∧ c ≠ '"' ∧ c ≠ '\'') :=
    List.decidableBAll _ name.toList
  decidable_of_iff
    (IsInline name.toList ∧ name.toList.head? ≠ some '-' ∧
      ∀ c ∈ name.toList, c ≠ ':' ∧ c ≠ '#' ∧ c ≠ '"' ∧ c ≠ '\'')
    ⟨fun ⟨inline, notItem, unmarked⟩ => ⟨inline, notItem, unmarked⟩,
    fun isName => ⟨isName.toIsInline, isName.notItem, isName.unmarked⟩⟩

/-- A map that has a value for each item, at the name of the item. -/
def fieldsOf {Item : Type} (value : Item → Value) (items : Entries String Item) : Mapping :=
  Mapping.ofFields (items.map fun item => (item.1, value item.2))

def variableFields (values : Variables) : Mapping := fieldsOf Value.text values

def targetFields (bindings : Entries String Variables) : Mapping :=
  fieldsOf (fun values => .map (variableFields values)) bindings

/-- Variables that can be written: targets and variables are distinct and have names, and the digits
of values that are numbers can be converted. -/
structure IsWritableVariables (bindings : Entries String Variables) : Prop where
  distinctTargets : (Entries.keys bindings).Nodup
  targets : ∀ entry ∈ bindings, IsVariableName entry.1
  distinctNames : ∀ entry ∈ bindings, (Entries.keys entry.2).Nodup
  names : ∀ entry ∈ bindings, ∀ binding ∈ entry.2, IsVariableName binding.1
  short : ∀ entry ∈ bindings, ∀ binding ∈ entry.2, IsShort binding.2.toList

namespace IsVariableName

variable {name : String}

theorem isName (isVariable : IsVariableName name) : IsName name where
  toIsInline := isVariable.toIsInline
  noColon member := (isVariable.unmarked _ member).1 rfl
  notComment first := (isVariable.unmarked _ (List.mem_of_head? first)).2.1 rfl
  notItem := isVariable.notItem
  notDoubleQuoted _ first := absurd rfl (isVariable.unmarked _ (List.mem_of_head? first)).2.2.1
  notSingleQuoted _ first := absurd rfl (isVariable.unmarked _ (List.mem_of_head? first)).2.2.2

/-- No comment is taken off a line with the written form of a text. -/
theorem uncomment_entry (isVariable : IsVariableName name) {value form : List Char}
    (formed : formatText value = .ok form) :
    Dialect.metadata.uncomment (name.toList ++ ':' :: ' ' :: form) =
      name.toList ++ ':' :: ' ' :: form := by
  rw [uncomment_metadata]
  obtain ⟨quotes, decided, rfl⟩ := Outcome.map_eq_ok_iff.mp formed
  cases quotes with
  | true =>
    have front : Hides '#' .outside name.toList :=
      .plain fun c member => (isVariable.unmarked c member).2
    have behind : Hides '#' .outside (quoted value) := .form (by decide) (by decide) .double value
    have whole : Hides '#' .outside (name.toList ++ ':' :: ' ' :: quoted value) :=
      front.append (.ordinary (by decide) (.ordinary (by decide) behind))
    exact whole.cutComment_eq true
  | false =>
    -- An apostrophe in a plain text opens quotes that nothing closes.
    have ordinary := (isPlain_of_needsQuotes decided).ordinary
    refine cutComment_of_not_mem (fun member => ?_) _ _
    rcases List.mem_append.mp member with front | behind
    · exact (isVariable.unmarked _ front).2.1 rfl
    · have inside : '#' ∈ value := by simpa using behind
      exact absurd (ordinary _ inside).2 (by decide)

end IsVariableName

section Fields

variable {Item : Type} {value : Item → Value} {items : Entries String Item} (values : Variables)

theorem nodup_keys_fieldsOf (distinct : (Entries.keys items).Nodup) :
    (Entries.keys (fieldsOf value items)).Nodup := by
  have keys : Entries.keys (fieldsOf value items) = (Entries.keys items).map .text := by
    simp [Entries.keys, fieldsOf, Mapping.ofFields]
  rw [keys]
  exact distinct.map fun _ _ same => Scalar.text.inj same

private theorem exists_of_mem_fieldsOf {entry : Scalar × Value}
    (member : entry ∈ fieldsOf value items) :
    ∃ item ∈ items, entry = (.text item.1, value item.2) := by
  simp only [fieldsOf, Mapping.ofFields, List.map_map, List.mem_map] at member
  obtain ⟨item, present, rfl⟩ := member
  exact ⟨item, present, rfl⟩

/-- Values of variables are texts, so all of them are written. -/
theorem keptEntries_variableFields :
    keptEntries (variableFields values) = variableFields values := by
  refine List.filter_eq_self.mpr fun entry member => ?_
  obtain ⟨binding, -, rfl⟩ := exists_of_mem_fieldsOf member
  rfl

private theorem readBackEntries_variableFields :
    readBackEntries (variableFields values) = variableFields values := by
  simp [readBackEntries, variableFields, fieldsOf, Mapping.ofFields, Function.comp_def, readBack]

private theorem writtenVariables_variableFields :
    writtenVariables (variableFields values) = values := by
  simp [writtenVariables, variableFields, fieldsOf, Mapping.ofFields, List.filterMap_map,
    Function.comp_def, Scalar.display]

/-- What is restored of variables are the targets that have some. -/
theorem restored_targetFields (bindings : Entries String Variables) :
    restored (targetFields bindings) =
      targetFields (bindings.filter fun entry => entry.2 ≠ []) := by
  induction bindings with
  | nil => rfl
  | cons entry bindings ih =>
    obtain ⟨target, values⟩ := entry
    have split : restored (targetFields ((target, values) :: bindings)) =
        restored [(.text target, .map (variableFields values))] ++
          restored (targetFields bindings) := restored_append [_] _
    rw [split, ih]
    by_cases empty : values = []
    · -- Without variables a target has no lines.
      rw [empty]
      rfl
    · have nonempty : keptEntries (variableFields values) ≠ [] := by
        rw [keptEntries_variableFields]
        simpa [variableFields, fieldsOf, Mapping.ofFields] using empty
      rw [restored_entries _ nonempty, keptEntries_variableFields, readBackEntries_variableFields,
        List.filter_cons_of_pos (by simpa using empty)]
      rfl

end Fields

/-- The line of a variable sets it. -/
theorem setsInner_variable {name value : String} {line : List Char}
    (isVariable : IsVariableName name)
    (formed : entryLine "  ".toList (.text name) (.text value) = .ok line) :
    SetsInner .metadata line (.text name, .text value) := by
  obtain ⟨form, chosen, rfl⟩ := entryLine_eq_ok_iff.mp formed
  have writes := writesText_formatText chosen
  have read := writes.read .texts
  rw [String.ofList_toList] at read
  exact setsInner_of_form isVariable.isName.inner writes.nonempty writes.trimmed read
    (isVariable.uncomment_entry chosen)

/-- Variables that are read come from the fields of their targets. -/
theorem readVariables_of_read {text : String} {bindings : Entries String Variables}
    (read : Frontmatter.read .metadata text = .ok (targetFields bindings)) :
    readVariables text = .ok bindings := by
  simp [readVariables, read, targetFields, fieldsOf, Mapping.ofFields, List.filterMap_map,
    Function.comp_def, Value.map?, writtenVariables_variableFields, Scalar.display]

namespace IsWritableVariables

variable {bindings : Entries String Variables}

theorem isField (writable : IsWritableVariables bindings) {entry : String × Variables}
    (member : entry ∈ bindings) : IsField (.map (variableFields entry.2)) := by
  have distinct := writable.distinctNames entry member
  refine .entries (nodup_keys_fieldsOf distinct) fun field present => ?_
  obtain ⟨binding, named, rfl⟩ := exists_of_mem_fieldsOf present
  exact ⟨.text (writable.names entry member binding named).isName, .inr (.text _)⟩

private theorem isShortField (writable : IsWritableVariables bindings) {entry : String × Variables}
    (member : entry ∈ bindings) : IsShortField (.map (variableFields entry.2)) := by
  intro field present
  obtain ⟨binding, named, rfl⟩ := exists_of_mem_fieldsOf present
  exact writable.short entry member binding named

/-- The lines of a target set its variables. -/
theorem sets_target (writable : IsWritableVariables bindings) {entry : String × Variables}
    (member : entry ∈ bindings) {lines : List (List Char)}
    (formed : entryLines (.text entry.1) (.map (variableFields entry.2)) = .ok lines) :
    Sets .metadata lines (restored [(.text entry.1, .map (variableFields entry.2))]) := by
  have distinct : (Entries.keys (variableFields entry.2)).Nodup :=
    nodup_keys_fieldsOf (writable.distinctNames entry member)
  refine sets_entryLines_map (writable.targets entry member).isName
    (nodup_keys_keptEntries distinct) ?_ formed
  rw [keptEntries_variableFields]
  intro field present line one
  obtain ⟨binding, named, rfl⟩ := exists_of_mem_fieldsOf present
  exact setsInner_variable (writable.names entry member binding named) one

/-- The lines of all targets are read as the targets with variables. -/
theorem readMapping_lines (writable : IsWritableVariables bindings) {lines : List (List Char)}
    (formed : mappingLines (targetFields bindings) none = .ok lines) :
    readMapping .metadata lines =
      .ok (targetFields (bindings.filter fun entry => entry.2 ≠ [])) := by
  have each : ∀ entry ∈ targetFields bindings, ∀ part, entryLines entry.1 entry.2 = .ok part →
      Sets .metadata part (restored [entry]) := by
    intro entry member part one
    obtain ⟨target, present, rfl⟩ := exists_of_mem_fieldsOf member
    exact writable.sets_target present one
  have sets : Sets .metadata lines (restored (targetFields bindings)) :=
    @sets_mappingLines _ _ none _ each formed
  have distinct : (Entries.keys (targetFields
      (bindings.filter fun entry => entry.2 ≠ []))).Nodup :=
    nodup_keys_fieldsOf (writable.distinctTargets.sublist (List.filter_sublist.map Prod.fst))
  rw [sets.readMapping_eq, restored_targetFields, Entries.ofPairs_of_nodup distinct]

end IsWritableVariables

/-- Variables that are written as frontmatter are read as they were, but for targets without
any. -/
theorem readVariables_write {bindings : Entries String Variables}
    (writable : IsWritableVariables bindings) :
    ∃ text, write (targetFields bindings) none = .ok text ∧
      readVariables text = .ok (bindings.filter fun entry => entry.2 ≠ []) := by
  have fields : ∀ entry ∈ targetFields bindings, IsField entry.2 ∧ IsShortField entry.2 := by
    intro entry member
    obtain ⟨target, present, rfl⟩ := exists_of_mem_fieldsOf member
    exact ⟨writable.isField present, writable.isShortField present⟩
  have shaped : ∀ entry ∈ targetFields bindings, EntryShape entry.1 entry.2 := by
    intro entry member
    obtain ⟨target, present, rfl⟩ := exists_of_mem_fieldsOf member
    exact (writable.isField present).shape (.text (writable.targets target present).isName)
  obtain ⟨lines, formed⟩ := @exists_mappingLines _ none fields
  have oneLine : ∀ line ∈ lines, IsOneLine line := fun line member =>
    (@isBlockLine_of_mappingLines _ none _ shaped formed line member).oneLine
  have read := (read_written .metadata oneLine).trans (writable.readMapping_lines formed)
  exact ⟨_, write_eq_ok formed, readVariables_of_read read⟩

/-- Variables whose values hold marks of comments, quotes, line breaks and numbers, and a target
without variables. -/
def markedVariables : Entries String Variables :=
  [("cursor", [("hint", "it's # \"1\"\n"), ("code", "007"), ("empty", "")]), ("claude", []),
    ("my editor", [("hint", "\\")])]

theorem isWritableVariables_marked : IsWritableVariables markedVariables where
  distinctTargets := by decide
  targets := by decide
  distinctNames := by decide
  names := by decide
  short := by decide

theorem markedVariables_readVariables : IsWritableVariables markedVariables ∧
    ∃ text, write (targetFields markedVariables) none = .ok text ∧
      readVariables text = .ok (markedVariables.filter fun entry => entry.2 ≠ []) :=
  ⟨isWritableVariables_marked, readVariables_write isWritableVariables_marked⟩

end EditorPlugins.Compose
