import EditorPlugins.Proofs.Compose.Sections
import EditorPlugins.Proofs.Frontmatter.Marks
import EditorPlugins.Proofs.Frontmatter.Reading
import EditorPlugins.Proofs.Text.Lines

/-! # The two forms of an order

The entries of an order stand one below the other, or in a list on the line of their name. What is
read depends on their texts alone: not on the form, and neither on the quotes of an entry nor on the
comments behind the lines, whatever marks the texts and the comments hold.
-/

namespace EditorPlugins.Compose

open Frontmatter Text

/-- A comment, which ends with its line. -/
structure Comment where
  text : List Char
  oneLine : IsOneLine text

/-- What stands behind the content of a line. -/
def trailing : Option Comment → List Char
  | none => []
  | some comment => ' ' :: '#' :: ' ' :: comment.text

private theorem isTrailing_trailing (comment : Option Comment) : IsTrailing (trailing comment) := by
  cases comment with
  | none => exact .inl rfl
  | some comment => exact .inr ⟨_, rfl⟩

theorem isOneLine_trailing (comment : Option Comment) : IsOneLine (trailing comment) := by
  cases comment with
  | none => decide
  | some comment =>
    exact ((comment.oneLine.cons (by decide)).cons (by decide)).cons (by decide)

/-- An entry with the quotes that it has in each form, and its comment in the block. Single quotes
leave line breaks as they are, so they are for texts without them. -/
structure OrderEntry where
  text : String
  blockQuotes : Quotes
  listQuotes : Quotes
  comment : Option Comment
  oneLine : blockQuotes = .single ∨ listQuotes = .single → IsOneLine text.toList

/-- The name of the sections and an item for each entry below it. -/
def blockLines (comment : Option Comment) (entries : List OrderEntry) : List (List Char) :=
  ("sections:".toList ++ trailing comment) :: entries.map fun entry =>
    "  - ".toList ++ (entry.blockQuotes.form entry.text.toList ++ trailing entry.comment)

/-- The name of the sections and a list of the entries behind it. -/
def listLine (comment : Option Comment) (entries : List OrderEntry) : List Char :=
  "sections: [".toList ++ listed (entries.map fun entry => (entry.listQuotes, entry.text)) ++
    ']' :: trailing comment

/-- A text of some lines; a feed may follow the last of them. -/
def linesText (closed : Bool) (lines : List (List Char)) : String :=
  String.ofList (stacked closed lines)

private theorem isName_sections : IsName "sections" := by decide

/-- The item of an entry adds its text, without the comment behind it. -/
theorem addsItem_entry (entry : OrderEntry) : AddsItem .metadata
    ("  - ".toList ++ (entry.blockQuotes.form entry.text.toList ++ trailing entry.comment))
    entry.text := by
  have nonempty := entry.blockQuotes.form_ne_nil entry.text.toList
  have trimmed := entry.blockQuotes.trim_form entry.text.toList
  have item := entry.blockQuotes.itemText_form entry.text.toList
  have hides := Hides.form (by decide : '#' ≠ '"') (by decide) entry.blockQuotes entry.text.toList
  generalize entry.blockQuotes.form entry.text.toList = form at nonempty trimmed item hides
  have whole : trim ('-' :: ' ' :: form) = '-' :: ' ' :: form :=
    trim_cons_append [' '] (by decide) nonempty trimmed
  have dashed : Hides '#' .outside ('-' :: ' ' :: form) :=
    .ordinary (by decide) (.ordinary (by decide) hides)
  obtain ⟨rest, isTrailing, shorter⟩ :=
    (isTrailing_trailing entry.comment).exists_trim (List.cons_ne_nil _ _) whole
  have uncommented : trim (Dialect.metadata.uncomment
      (trim ('-' :: ' ' :: (form ++ trailing entry.comment)))) = '-' :: ' ' :: form := by
    rw [← List.cons_append, ← List.cons_append, shorter, uncomment_metadata]
    exact isTrailing.trim_cutComment dashed (List.cons_ne_nil _ _) whole true
  have adds := addsItem_of_form nonempty trimmed item uncommented
  rwa [String.ofList_toList] at adds

/-- What is read from lines that set nothing but the sections. -/
theorem outcome_readOrder_of_sets {lines : List (List Char)} {value : Value} {texts : List String}
    (sets : Sets .metadata lines [(.text "sections", value)])
    (written : (writtenEntries? (some value)).getD [] = texts) (some : lines ≠ [])
    (each : ∀ line ∈ lines, line ≠ [] ∧ IsOneLine line) (closed : Bool) :
    (readOrder (linesText closed lines)).outcome = .ok (sectionsAmong texts) := by
  have read : Frontmatter.read .metadata (linesText closed lines) =
      .ok (Entries.ofPairs [(.text "sections", value)]) := by
    rw [Frontmatter.read, linesText, String.toList_ofList, lineBodies_stacked closed some each,
      sets.readMapping_eq]
  rw [outcome_readOrder read, ← written]
  rfl

private theorem getD_writtenEntries? (texts : List String) :
    (writtenEntries? (some (Value.texts texts))).getD [] = texts := by
  simp [Value.texts, writtenEntries?, Value.text?, List.filterMap_map, Function.comp_def]

/-- The lines of a block set the sections to a value that writes the texts of the entries. -/
theorem sets_blockLines (comment : Option Comment) (entries : List OrderEntry) :
    ∃ value, Sets .metadata (blockLines comment entries) [(.text "sections", value)] ∧
      (writtenEntries? (some value)).getD [] = entries.map OrderEntry.text := by
  have opens : Opens .metadata ("sections:".toList ++ trailing comment) "sections" :=
    opens_name isName_sections ((isTrailing_trailing comment).isBlankText_cutComment true)
  by_cases none : entries = []
  · -- A name with nothing below it has no value, which is no list either.
    rw [none]
    exact ⟨.null, .nothing opens, rfl⟩
  · have adds : List.Forall₂ (AddsItem .metadata) (entries.map fun entry =>
        "  - ".toList ++ (entry.blockQuotes.form entry.text.toList ++ trailing entry.comment))
        (entries.map OrderEntry.text) := by
      rw [List.forall₂_map_left_iff, List.forall₂_map_right_iff, List.forall₂_same]
      exact fun entry _ => addsItem_entry entry
    exact ⟨_, .items opens adds (mt List.map_eq_nil_iff.mp none), getD_writtenEntries? _⟩

/-- The line of a list sets the sections to the texts of the entries. -/
theorem sets_listLine (comment : Option Comment) (entries : List OrderEntry) :
    Sets .metadata [listLine comment entries]
      [(.text "sections", Value.texts (entries.map OrderEntry.text))] := by
  obtain ⟨items, same⟩ : ∃ items, items = entries.map fun entry => (entry.listQuotes, entry.text) :=
    ⟨_, rfl⟩
  have texts : items.map Prod.snd = entries.map OrderEntry.text := by simp [same]
  have name : "sections: [".toList = "sections".toList ++ [':', ' ', '['] := by decide
  have whole : listLine comment entries =
      "sections".toList ++ ':' :: ' ' :: ('[' :: listed items ++ [']'] ++ trailing comment) := by
    unfold listLine
    rw [← same, name]
    simp only [List.append_assoc, List.cons_append, List.nil_append]
  have hides : Hides '#' .outside ('[' :: listed items ++ [']']) :=
    .ordinary (by decide) ((hides_listed items).append (.ordinary (by decide) .nil))
  have trimmed : trim ('[' :: listed items ++ [']']) = '[' :: listed items ++ [']'] :=
    trim_enclosed _ (by decide) (by decide)
  have cut : trim (Dialect.metadata.uncomment
      (' ' :: ('[' :: listed items ++ [']'] ++ trailing comment))) =
      '[' :: listed items ++ [']'] := by
    have blank (cs : List Char) :
        cutComment .outside true (' ' :: cs) = ' ' :: cutComment .outside true cs := by
      simp [cutComment, Quoting.next]
    rw [uncomment_metadata, blank, trim_cons_blank _ (by decide)]
    exact (isTrailing_trailing comment).trim_cutComment hides (List.cons_ne_nil _ _) trimmed true
  rw [whole, ← texts]
  exact .line isName_sections cut (List.cons_ne_nil _ _) (readScalar_listed .texts items)

private theorem isOneLine_form {quotes : Quotes} {cs : List Char}
    (oneLine : quotes = .single → IsOneLine cs) : IsOneLine (quotes.form cs) := by
  cases quotes with
  | double => exact isOneLine_quoted cs
  | single => exact isOneLine_singleQuoted (oneLine rfl)

private theorem isOneLine_blockLines (comment : Option Comment) (entries : List OrderEntry) :
    ∀ line ∈ blockLines comment entries, line ≠ [] ∧ IsOneLine line := by
  have name : IsOneLine "sections:".toList := by decide
  have dash : IsOneLine "  - ".toList := by decide
  refine List.forall_mem_cons.mpr ⟨⟨List.cons_ne_nil _ _, name.append (isOneLine_trailing _)⟩, ?_⟩
  intro line member
  obtain ⟨entry, -, rfl⟩ := List.mem_map.mp member
  have form := isOneLine_form fun single => entry.oneLine (.inl single)
  exact ⟨List.cons_ne_nil _ _, dash.append (form.append (isOneLine_trailing _))⟩

private theorem isOneLine_listLine (comment : Option Comment) (entries : List OrderEntry) :
    IsOneLine (listLine comment entries) := by
  have name : IsOneLine "sections: [".toList := by decide
  refine (name.append fun c member => ?_).append ((isOneLine_trailing comment).cons (by decide))
  rcases mem_joinWith member with comma | ⟨form, present, inside⟩
  · exact (by decide : IsOneLine [',', ' ']) c comma
  · obtain ⟨item, listed, rfl⟩ := List.mem_map.mp present
    obtain ⟨entry, -, rfl⟩ := List.mem_map.mp listed
    exact isOneLine_form (fun single => entry.oneLine (.inr single)) c inside

/-- Both forms of an order give the sections among the texts of its entries. -/
theorem readOrder_forms (entries : List OrderEntry) (above behind : Option Comment)
    (closed : Bool) :
    (readOrder (linesText closed (blockLines above entries))).outcome =
        .ok (sectionsAmong (entries.map OrderEntry.text)) ∧
      (readOrder (linesText closed [listLine behind entries])).outcome =
        .ok (sectionsAmong (entries.map OrderEntry.text)) := by
  constructor
  · obtain ⟨value, sets, written⟩ := sets_blockLines above entries
    exact outcome_readOrder_of_sets sets written (List.cons_ne_nil _ _)
      (isOneLine_blockLines above entries) closed
  · exact outcome_readOrder_of_sets (sets_listLine behind entries) (getD_writtenEntries? _)
      (List.cons_ne_nil _ _) (List.forall_mem_singleton.mpr
        ⟨List.cons_ne_nil _ _, isOneLine_listLine behind entries⟩) closed

/-- Commas, hashes, brackets and the other kind of quotes are parts of an entry. -/
example : (readOrder "sections: ['it''s \"#1\", a].md', \" \"] # two").outcome.toOption =
    some ["it's \"#1\", a].md"] := by decide +kernel

end EditorPlugins.Compose
