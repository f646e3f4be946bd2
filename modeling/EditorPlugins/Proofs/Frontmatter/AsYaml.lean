import EditorPlugins.Proofs.Frontmatter.Legible

/-! # Frontmatter as YAML

A map of texts and lists of texts is written as the lines of an outline. A YAML reader gives back
what was written of it just when it takes every text for itself, no key is too long to be one, and
there is anything to read.
-/

namespace EditorPlugins.Frontmatter

open Text

def itemsOf : Value → List String
  | .list items => items.filterMap Value.text?
  | _ => []

/-- The texts of a value: the value itself, or the items of a list. -/
def textsOf : Value → List String
  | .text text => [text]
  | other => itemsOf other

/-- The values that are texts or lists of texts. -/
inductive IsTextual : Value → Prop where
  | text (text : String) : IsTextual (.text text)
  | texts (texts : List String) : IsTextual (Value.texts texts)

/-- The keys of one word that is neither a truth value nor nothing. -/
inductive IsWord : Scalar → Prop where
  | text {name : String} (isKey : Yaml.Scan.IsKeyWord name.toList)
      (notBool : Yaml.Kind.ofText name ≠ .bool) (notNull : Yaml.Kind.ofText name ≠ .null) :
      IsWord (.text name)

/-- A map from words to texts and lists of texts. -/
structure IsDescription (data : Mapping) : Prop where
  distinct : (Entries.keys data).Nodup
  words : ∀ entry ∈ data, IsWord entry.1
  textual : ∀ entry ∈ data, IsTextual entry.2
  printable : ∀ entry ∈ data, ∀ text ∈ textsOf entry.2, IsPrintable text

/-- A map whose entries with content a YAML reader takes for themselves. -/
structure IsLegibleMap (data : Mapping) : Prop where
  nonempty : kept data ≠ []
  short : ∀ entry ∈ kept data, entry.1.display.length ≤ 1024
  legible : ∀ entry ∈ kept data, ∀ text ∈ textsOf entry.2, IsLegible text

/-- A map without items that have no quotes and start with the mark of a key. -/
def IsUnmarked (data : Mapping) : Prop :=
  ∀ entry ∈ kept data, ∀ text ∈ itemsOf entry.2,
    needsQuotes text.toList = .ok false → ¬StartsMarked text.toList

private theorem textsOf_texts (texts : List String) : textsOf (Value.texts texts) = texts := by
  induction texts with
  | nil => rfl
  | cons text texts ih => exact congrArg (text :: ·) ih

/-- How an entry stands in the outline of a map. -/
structure StandsFor (entry : Yaml.Entry) (pair : Scalar × Value) : Prop where
  value : entry.value = pair
  items : List.Forall₂ Stands entry.content.items (textsOf pair.2)

private theorem exists_forall₂_stands {texts : List String}
    (printable : ∀ text ∈ texts, IsPrintable text) :
    ∃ items, List.Forall₂ Stands items texts := by
  induction texts with
  | nil => exact ⟨[], .nil⟩
  | cons text texts ih =>
    obtain ⟨first, others⟩ := List.forall_mem_cons.mp printable
    obtain ⟨item, stands⟩ := exists_stands first
    obtain ⟨items, later⟩ := ih others
    exact ⟨item :: items, .cons stands later⟩

private theorem written_itemLines (items : List Yaml.Item) :
    written (items.map fun item => "  - ".toList ++ item.form) = items.flatMap Yaml.Item.line := by
  rw [written, List.flatMap_map]
  exact List.flatMap_congr fun item _ => rfl

section Items

variable {items : List Yaml.Item} {texts : List String} (stand : List.Forall₂ Stands items texts)

include stand

private theorem values_of_stands : items.map Yaml.Item.value = texts.map Value.text := by
  have mapped : List.Forall₂ (· = ·) (items.map Yaml.Item.value) (texts.map Value.text) :=
    List.forall₂_map_left_iff.mpr (List.forall₂_map_right_iff.mpr
      (stand.imp fun _ _ => Stands.value))
  rwa [List.forall₂_eq_eq_eq] at mapped

/-- The lines of a list are those of its items. -/
theorem itemLines_of_stands : (texts.map Value.text).mapM itemLine =
    .ok (items.map fun item => "  - ".toList ++ item.form) := by
  induction stand with
  | nil => rfl
  | @cons item text _ _ stands _ ih =>
    have line : itemLine (.text text) = .ok ("  - ".toList ++ item.form) := by
      rw [itemLine, show formatValue (.text text) = .ok item.form from stands.formed]
      rfl
    exact Outcome.mapM_cons_eq_ok_iff.mpr ⟨_, _, line, ih, rfl⟩

end Items

/-- The entry of a value with content, with its lines. -/
theorem exists_entry {name : String} {value : Value} (isKey : Yaml.Scan.IsKeyWord name.toList)
    (textual : IsTextual value) (printable : ∀ text ∈ textsOf value, IsPrintable text)
    (content : keptValue? value = some value) :
    ∃ entry lines, entryLines (.text name) value = .ok lines ∧
      written lines = entry.text ∧ StandsFor entry (.text name, value) := by
  cases textual with
  | text text =>
    obtain ⟨item, stands⟩ := exists_stands (printable text (List.mem_singleton.mpr rfl))
    have line : entryLine [] (.text name) (.text text) =
        .ok (name.toList ++ ':' :: ' ' :: item.form) := by
      rw [entryLine, show formatValue (.text text) = .ok item.form from stands.formed]
      rfl
    refine ⟨⟨name.toList, isKey, .line item⟩, [name.toList ++ ':' :: ' ' :: item.form], ?_, ?_, ?_,
      ?_⟩
    · rw [entryLines_of_line _ (IsLeaf.text text).line rfl, line]
      rfl
    · simp [written, Yaml.Entry.text, Yaml.Content.text]
    · rw [Yaml.Entry.value, Yaml.Content.value, stands.value, String.ofList_toList]
    · exact .cons stands .nil
  | texts texts =>
    rw [textsOf_texts] at printable
    have nonempty : texts ≠ [] := by
      rintro rfl
      cases content
    obtain ⟨items, stand⟩ := exists_forall₂_stands printable
    have lines := entryLines_texts (.text name) nonempty
    rw [itemLines_of_stands stand] at lines
    have values := values_of_stands stand
    cases stand with
    | nil => exact absurd rfl nonempty
    | @cons item text items texts stands later =>
      refine ⟨⟨name.toList, isKey, .list item items⟩, _, lines, ?_, ?_, ?_⟩
      · change written (keyLine _ :: _) = _
        rw [written_cons, written_itemLines]
        simp [keyLine, Scalar.display, Yaml.Entry.text, Yaml.Content.text]
      · rw [Yaml.Entry.value, Yaml.Content.value, values, String.ofList_toList]
        rfl
      · rw [textsOf_texts]
        exact .cons stands later

private theorem keptValue?_of_isTextual {value : Value} (textual : IsTextual value) :
    keptValue? value = none ∨ keptValue? value = some value := by
  cases textual with
  | text text => exact .inr rfl
  | texts texts =>
    cases texts with
    | nil => exact .inl rfl
    | cons text texts => exact .inr rfl

/-- The outline of a map: its entries with content, line by line as they are written. -/
theorem exists_entries {data : Mapping} (words : ∀ entry ∈ data, IsWord entry.1)
    (textual : ∀ entry ∈ data, IsTextual entry.2)
    (printable : ∀ entry ∈ data, ∀ text ∈ textsOf entry.2, IsPrintable text) :
    ∃ entries parts, (data.mapM fun entry => entryLines entry.1 entry.2) = .ok parts ∧
      written parts.flatten = entries.flatMap Yaml.Entry.text ∧
      List.Forall₂ StandsFor entries (kept data) := by
  induction data with
  | nil => exact ⟨[], [], rfl, rfl, .nil⟩
  | cons pair data ih =>
    obtain ⟨word, words⟩ := List.forall_mem_cons.mp words
    obtain ⟨form, textual⟩ := List.forall_mem_cons.mp textual
    obtain ⟨visible, printable⟩ := List.forall_mem_cons.mp printable
    obtain ⟨entries, parts, formed, whole, stand⟩ := ih words textual printable
    have split : kept (pair :: data) = kept [pair] ++ kept data := kept_append [pair] data
    rw [split]
    obtain ⟨key, value⟩ := pair
    rcases keptValue?_of_isTextual form with nothing | content
    · rw [kept_of_none key nothing]
      exact ⟨entries, [] :: parts, Outcome.mapM_cons_eq_ok_iff.mpr
        ⟨_, _, entryLines_of_none key nothing, formed, rfl⟩, whole, stand⟩
    · rw [kept_of_some key content]
      cases word with
      | text isKey notBool notNull =>
        obtain ⟨entry, lines, first, text, stands⟩ := exists_entry isKey form visible content
        refine ⟨entry :: entries, lines :: parts, Outcome.mapM_cons_eq_ok_iff.mpr
          ⟨_, _, first, formed, rfl⟩, ?_, .cons stands stand⟩
        rw [List.flatten_cons, written_append, text, whole, List.flatMap_cons]

/-- What holds of all of some items, when it means the same for those that they are related to. -/
theorem forall_mem_iff_of_forall₂ {α β : Type} {related : α → β → Prop} {first : α → Prop}
    {second : β → Prop} (same : ∀ x y, related x y → (first x ↔ second y)) {xs : List α}
    {ys : List β} (all : List.Forall₂ related xs ys) :
    (∀ x ∈ xs, first x) ↔ ∀ y ∈ ys, second y := by
  induction all with
  | nil => simp
  | cons one _ ih => rw [List.forall_mem_cons, List.forall_mem_cons, same _ _ one, ih]

private theorem exists_of_forall₂ {α β : Type} {related : α → β → Prop} {xs : List α} {ys : List β}
    (all : List.Forall₂ related xs ys) {x : α} (member : x ∈ xs) : ∃ y ∈ ys, related x y := by
  induction all with
  | nil => exact absurd member List.not_mem_nil
  | @cons _ y _ _ one _ ih =>
    rcases List.mem_cons.mp member with rfl | later
    · exact ⟨y, List.mem_cons_self, one⟩
    · obtain ⟨y, present, stands⟩ := ih later
      exact ⟨y, List.mem_cons_of_mem _ present, stands⟩

private theorem values_of_standsFor {entries : List Yaml.Entry} {pairs : Mapping}
    (stand : List.Forall₂ StandsFor entries pairs) : entries.map Yaml.Entry.value = pairs := by
  have mapped : List.Forall₂ (· = ·) (entries.map Yaml.Entry.value) pairs :=
    List.forall₂_map_left_iff.mpr (stand.imp fun _ _ => StandsFor.value)
  rwa [List.forall₂_eq_eq_eq] at mapped

namespace StandsFor

variable {entry : Yaml.Entry} {pair : Scalar × Value}

theorem key (stands : StandsFor entry pair) : pair.1 = .text (String.ofList entry.word) :=
  (congrArg Prod.fst stands.value).symm

theorem isLegible_iff (stands : StandsFor entry pair) :
    (entry.word.length ≤ 1024 ∧ ∀ item ∈ entry.content.items,
      item.form.all Yaml.isAllowed = true ∧ item.IsOpen ∧ item.IsText) ↔
      pair.1.display.length ≤ 1024 ∧ ∀ text ∈ textsOf pair.2, IsLegible text := by
  have length : pair.1.display.length = entry.word.length := by
    rw [stands.key, Scalar.display, String.length_ofList]
  rw [length, forall_mem_iff_of_forall₂ (fun item text stands => stands.isLegible_iff.symm)
    stands.items]

theorem listed (stands : StandsFor entry pair) :
    List.Forall₂ Stands entry.content.listed (itemsOf pair.2) := by
  have value : pair.2 = entry.content.value := (congrArg Prod.snd stands.value).symm
  have items := stands.items
  rw [value] at items ⊢
  revert items
  cases entry.content with
  | line item => exact fun _ => .nil
  | list first rest => exact id

theorem isOpen_or (stands : StandsFor entry pair) : ∀ item ∈ entry.content.items,
    item.IsOpen ∨ item.IsComma ∨ item.IsMarked := by
  intro item member
  obtain ⟨text, -, one⟩ := exists_of_forall₂ stands.items member
  exact one.isOpen_or

private theorem isUnmarked_iff (stands : StandsFor entry pair) :
    (∀ item ∈ entry.content.listed, ¬item.IsMarked) ↔ ∀ text ∈ itemsOf pair.2,
      needsQuotes text.toList = .ok false → ¬StartsMarked text.toList := by
  refine forall_mem_iff_of_forall₂ (fun item text stands => ?_) stands.listed
  rw [stands.isMarked_iff, not_and]

private theorem isText_key (stands : StandsFor entry pair) (word : IsWord pair.1) :
    Yaml.Kind.ofText (String.ofList entry.word) = .text := by
  rw [stands.key] at word
  cases word with
  | text isKey notBool notNull => exact Yaml.ofText_of_isKeyWord entry.isKey notBool notNull

end StandsFor

private theorem isWord_of_mem_kept {data : Mapping} (words : ∀ entry ∈ data, IsWord entry.1)
    {pair : Scalar × Value} (member : pair ∈ kept data) : IsWord pair.1 := by
  obtain ⟨entry, present, same⟩ := List.mem_filterMap.mp member
  obtain ⟨value, -, rfl⟩ := Option.map_eq_some_iff.mp same
  exact words entry present

private theorem isLegibleMap_iff {data : Mapping} : IsLegibleMap data ↔ kept data ≠ [] ∧
    ∀ pair ∈ kept data, pair.1.display.length ≤ 1024 ∧ ∀ text ∈ textsOf pair.2, IsLegible text :=
  ⟨fun ⟨nonempty, short, legible⟩ => ⟨nonempty, fun pair member =>
    ⟨short pair member, legible pair member⟩⟩, fun ⟨nonempty, each⟩ => ⟨nonempty,
    fun pair member => (each pair member).1, fun pair member => (each pair member).2⟩⟩

private theorem IsLegibleMap.isUnmarked {data : Mapping} (legible : IsLegibleMap data) :
    IsUnmarked data := by
  intro entry member text listed
  refine (legible.legible entry member text ?_).noMark
  rw [textsOf.eq_def]
  split
  · next same =>
    rw [same] at listed
    cases listed
  · exact listed

/-- A map of words and texts is written, and a YAML reader gives back what was written of it just
when it is legible. An item with the mark of a key may open a quoted text that ends on a later line,
so the converse leaves out maps with such items. -/
theorem write_legible_iff {data : Mapping} (described : IsDescription data) :
    ∃ text, write data none = .ok text ∧
      (IsLegibleMap data ↔ IsUnmarked data ∧ Yaml.read text = .ok (.map (kept data))) := by
  obtain ⟨entries, parts, formed, whole, stand⟩ :=
    exists_entries described.words described.textual described.printable
  have lines : mappingLines data none = .ok parts.flatten := by
    change (data.mapM (fun entry => entryLines entry.1 entry.2) >>= _) = _
    rw [formed]
    rfl
  refine ⟨_, write_eq_ok lines, ?_⟩
  have values := values_of_standsFor stand
  have distinct : (Entries.keys (entries.map Yaml.Entry.value)).Nodup := by
    rw [values]
    exact nodup_keys_kept described.distinct
  have each {entry : Yaml.Entry} (member : entry ∈ entries) :
      ∃ pair ∈ kept data, StandsFor entry pair := exists_of_forall₂ stand member
  have texts : ∀ entry ∈ entries, Yaml.Kind.ofText (String.ofList entry.word) = .text := by
    intro entry member
    obtain ⟨pair, present, stands⟩ := each member
    exact stands.isText_key (isWord_of_mem_kept described.words present)
  have known : ∀ entry ∈ entries, ∀ item ∈ entry.content.items,
      item.IsOpen ∨ item.IsComma ∨ item.IsMarked := by
    intro entry member
    obtain ⟨pair, -, stands⟩ := each member
    exact stands.isOpen_or
  have unmarked_iff := forall_mem_iff_of_forall₂
    (fun _ _ stands => StandsFor.isUnmarked_iff stands) stand
  have legible_iff : IsLegibleMap data ↔ entries ≠ [] ∧ ∀ entry ∈ entries,
      entry.word.length ≤ 1024 ∧ ∀ item ∈ entry.content.items,
        item.form.all Yaml.isAllowed = true ∧ item.IsOpen ∧ item.IsText := by
    rw [isLegibleMap_iff, ← values, ne_eq, List.map_eq_nil_iff, values,
      forall_mem_iff_of_forall₂ (fun _ _ stands => StandsFor.isLegible_iff stands) stand]
  rw [whole, ← values]
  constructor
  · intro legible
    have unmarked := legible.isUnmarked
    exact ⟨unmarked, (Yaml.read_eq_ok_iff known (unmarked_iff.mpr unmarked) texts distinct).mpr
      (legible_iff.mp legible)⟩
  · rintro ⟨unmarked, found⟩
    exact legible_iff.mpr ((Yaml.read_eq_ok_iff known (unmarked_iff.mpr unmarked) texts
      distinct).mp found)

/-- A map whose texts are legible, although not all of them are plain. -/
def reviewer : Mapping := Mapping.ofFields
  [("description", .text "Reads: \"all\""), ("allowed-tools", Value.texts ["Read", "- ?"]),
    ("tags", Value.texts [])]

private theorem isDescription_reviewer : IsDescription reviewer where
  distinct := by decide
  words := by
    simp only [reviewer, Mapping.ofFields, List.map_cons, List.map_nil, List.forall_mem_cons,
      List.not_mem_nil, false_implies, implies_true, and_true]
    exact ⟨.text (by decide) (by decide) (by decide), .text (by decide) (by decide) (by decide),
      .text (by decide) (by decide) (by decide)⟩
  textual := by
    simp only [reviewer, Mapping.ofFields, List.map_cons, List.map_nil, List.forall_mem_cons,
      List.not_mem_nil, false_implies, implies_true, and_true]
    exact ⟨.text _, .texts _, .texts _⟩
  printable := by decide

private theorem isLegibleMap_reviewer : IsLegibleMap reviewer :=
  ⟨nofun, by decide, by decide⟩

/-- Its texts come back, and the empty list is left out. -/
theorem reviewer_write_read : IsDescription reviewer ∧ IsLegibleMap reviewer ∧
    ∃ text, write reviewer none = .ok text ∧ Yaml.read text = .ok (.map (kept reviewer)) := by
  obtain ⟨text, formed, legible_iff⟩ := write_legible_iff isDescription_reviewer
  exact ⟨isDescription_reviewer, isLegibleMap_reviewer, text, formed,
    (legible_iff.mp isLegibleMap_reviewer).2⟩

/-- A map whose text is a word for a truth value. -/
def flagged : Mapping := Mapping.ofFields [("flag", .text "yes")]

/-- How the word stands behind its key. -/
def flagEntry : Yaml.Entry where
  word := "flag".toList
  isKey := by decide
  content := .line
    { plain := true
      text := "yes".toList
      words := fun _ => .word (by decide) (List.all_eq_true.mp (by decide))
      noEnd := by decide }

private theorem read_flagEntry : Yaml.read (String.ofList ([flagEntry].flatMap Yaml.Entry.text)) =
    .ok (.map (Mapping.ofFields [("flag", .bool true)])) := by
  have opens : ∀ entry ∈ [flagEntry], entry.IsOpen := List.forall_mem_singleton.mpr
    ⟨by decide, List.forall_mem_singleton.mpr fun _ => .inl (by decide)⟩
  have key : Yaml.Kind.ofText (String.ofList flagEntry.word) = .text := by decide
  have value : flagEntry.content.node.value = .ok (.bool true) := by
    have isBool : Yaml.Kind.ofText "yes" = .bool := by decide
    change Yaml.Node.value (.scalar (Yaml.Kind.ofText "yes") "yes") = _
    rw [isBool]
    rfl
  have pairs : Yaml.Node.entryValues ([flagEntry].map Yaml.Entry.node) =
      .ok [(.text "flag", .bool true)] :=
    (Yaml.Node.entryValues_cons_iff key).mpr ⟨_, [], value, rfl, rfl⟩
  rw [Yaml.read_entries (List.cons_ne_nil _ _) opens (by decide),
    Yaml.Node.expand_entries (List.forall_mem_singleton.mpr key), Yaml.Node.value, if_pos rfl, pairs]
  rfl

/-- The word needs no quotes for the writer, and is read as a truth value. -/
theorem flagged_write_read : IsDescription flagged ∧ kept flagged = flagged ∧
    write flagged none = .ok "flag: yes\n" ∧
    Yaml.read "flag: yes\n" = .ok (.map (Mapping.ofFields [("flag", .bool true)])) ∧
    Yaml.read "flag: yes\n" ≠ .ok (.map flagged) := by
  have described : IsDescription flagged :=
    ⟨by decide, List.forall_mem_singleton.mpr (.text (by decide) (by decide) (by decide)),
      List.forall_mem_singleton.mpr (.text _), by decide⟩
  have text : "flag: yes\n" = String.ofList ([flagEntry].flatMap Yaml.Entry.text) := rfl
  refine ⟨described, rfl, rfl, text ▸ read_flagEntry, ?_⟩
  rw [text, read_flagEntry]
  simp [flagged, Mapping.ofFields]

end EditorPlugins.Frontmatter
