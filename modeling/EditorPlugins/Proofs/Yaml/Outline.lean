import EditorPlugins.Proofs.Yaml.Lines

/-! # Maps of texts and lists of texts

The texts that frontmatter is written as when its values are texts and lists of texts: a line for
each text, and for a list the line of its key and an indented line for each item. Each is scanned as
the tokens of a block map with block lists in it.
-/

namespace EditorPlugins.Yaml

/-- A text that stands plain or quoted in a line. -/
structure Item where
  plain : Bool
  text : List Char
  words : plain = true → Words text
  noEnd : endMark ∉ text

namespace Item

/-- The text as it stands in the line. -/
def form (item : Item) : List Char :=
  if item.plain then item.text else Frontmatter.quoted item.text

/-- Whether the form does not start with a mark that means something else. -/
def IsOpen (item : Item) : Prop :=
  item.plain = true →
    Scan.Opens (item.text.head?.getD endMark) (item.text.tail.head?.getD '\n')

def line (item : Item) : List Char := ' ' :: ' ' :: '-' :: ' ' :: (item.form ++ ['\n'])

def token (item : Item) : Token := .scalar item.plain (String.ofList item.text)

theorem isForm {item : Item} (isOpen : item.IsOpen) :
    Scan.Form item.plain item.text item.form := by
  obtain ⟨plain, text, words, noEnd⟩ := item
  cases plain with
  | false => exact .quoted noEnd
  | true =>
    obtain ⟨c, rest, rfl, -⟩ := (words rfl).exists_cons
    exact .plain (words rfl) (isOpen rfl)

end Item

/-- What stands behind a key: a text in its line, or a list below it. -/
inductive Content where
  | line (item : Item)
  | list (first : Item) (rest : List Item)

/-- A key and what stands behind it. -/
structure Entry where
  word : List Char
  isKey : Scan.IsKeyWord word
  content : Content

namespace Content

def items : Content → List Item
  | line item => [item]
  | list first rest => first :: rest

def text : Content → List Char
  | line item => ' ' :: (item.form ++ ['\n'])
  | list first rest => '\n' :: (first :: rest).flatMap Item.line

def tokens : Content → List Token
  | line item => [item.token]
  | list first rest =>
    .blockList :: (first :: rest).flatMap (fun item => [.blockEntry, item.token]) ++ [.blockEnd]

end Content

namespace Entry

def text (entry : Entry) : List Char := entry.word ++ ':' :: entry.content.text

def tokens (entry : Entry) : List Token :=
  .key :: .scalar true (String.ofList entry.word) :: .value :: entry.content.tokens

/-- Whether the lines of an entry are scanned as its tokens. -/
structure IsOpen (entry : Entry) : Prop where
  short : entry.word.length ≤ 1024
  items : ∀ item ∈ entry.content.items, item.IsOpen

end Entry

namespace Scan

variable {cursor : Cursor} {tokens : List Token} {indents : List Nat} {rest : List Char}

theorem Reaches.refl (shape : cursor.rest = rest) (start : cursor.column = 0) :
    Reaches (outside cursor tokens indents true) rest tokens indents :=
  ⟨cursor, shape, start, .refl _⟩

theorem Reaches.trans {scan : Scan} {later : List Char} {more : List Token} {deeper : List Nat}
    (first : Reaches scan rest tokens indents)
    (second : ∀ next : Cursor, next.rest = rest → next.column = 0 →
      Reaches (outside next tokens indents true) later more deeper) :
    Reaches scan later more deeper := by
  obtain ⟨next, shape, start, leads⟩ := first
  exact .of_leads leads (second next shape start)

theorem resumes_items (items : List Item) (resumes : Resumes 3 rest) :
    Resumes 3 (items.flatMap Item.line ++ rest) := by
  cases items with
  | nil => exact resumes
  | cons item items => exact .item (by decide)

/-- The lines of the items of a list, of which some may stand before. -/
theorem reaches_items (tokens : List Token) {items : List Item}
    (isOpen : ∀ item ∈ items, item.IsOpen)
    (shape : cursor.rest = items.flatMap Item.line ++ rest) (start : cursor.column = 0)
    (resumes : Resumes 3 rest) (started : Bool) (content : started = true ∨ items ≠ []) :
    Reaches (outside cursor tokens (listIndents started) true) rest
      ((items.flatMap fun item => [.blockEntry, item.token]).reverse ++
        starting started .blockList tokens) (listIndents true) := by
  induction items generalizing cursor tokens started with
  | nil =>
    obtain rfl := content.resolve_right (absurd rfl)
    exact .refl shape start
  | cons item items ih =>
    obtain ⟨first, others⟩ := List.forall_mem_cons.mp isOpen
    have line : cursor.rest =
        ' ' :: ' ' :: '-' :: ' ' :: (item.form ++ '\n' :: (items.flatMap Item.line ++ rest)) := by
      rw [shape]
      simp [Item.line]
    refine (reaches_item (Item.isForm first) line start (resumes_items items resumes) started).trans
      fun next inside column => ?_
    have later := ih (item.token :: .blockEntry :: starting started .blockList tokens) others
      inside column true (.inl rfl)
    rw [List.flatMap_cons, List.reverse_append, List.append_assoc]
    exact later

/-- A list ends where a line is not indented. -/
theorem leads_listEnd (start : cursor.column = 0) (resumes : Resumes 1 cursor.rest) :
    Leads (outside cursor tokens (listIndents true) true)
      (outside cursor (.blockEnd :: tokens) (mapIndents true) true) := by
  have landed := resumes.landed start
  have column : (cursor.dropWhile (· == ' ')).column = 0 := Nat.lt_one_iff.mp landed.column
  refine .of_prepare ?_ (Nat.le_refl _)
  rw [prepare_outside landed.inLine landed.noComment, prepare_outside landed.inLine landed.noComment,
    column]
  rfl

private theorem resumes_entries (entries : List Entry) (resumes : Resumes 1 rest) :
    Resumes 1 (entries.flatMap Entry.text ++ rest) := by
  cases entries with
  | nil => exact resumes
  | cons entry entries =>
    obtain ⟨c, more, shape, letter⟩ := entry.isKey.exists_cons
    rw [List.flatMap_cons, Entry.text, shape]
    exact .key (by decide) letter

/-- Behind a key that nothing follows in its line a list may start. -/
theorem leads_feed (shape : cursor.rest = '\n' :: rest) (resumes : Resumes 3 rest) :
    Leads (outside cursor tokens (mapIndents true) false)
      (outside cursor.step tokens (listIndents false) true) := by
  have same : (outside cursor tokens (mapIndents true) false).prepare =
      (outside cursor.step tokens (listIndents false) true).prepare :=
    prepare_feed shape resumes fun _ absent => absurd absent List.not_mem_nil
  refine .of_prepare same ?_
  rw [outside, outside, Cursor.step_feed shape, shape]
  exact Nat.le_succ _

/-- What stands behind the colon of a key. -/
theorem reaches_content (tokens : List Token) {content : Content}
    (isOpen : ∀ item ∈ content.items, item.IsOpen)
    (shape : cursor.rest = content.text ++ rest) (inside : 1 ≤ cursor.column)
    (resumes : Resumes 1 rest) :
    Reaches (outside cursor tokens (mapIndents true) false) rest (content.tokens.reverse ++ tokens)
      (mapIndents true) := by
  cases content with
  | line item =>
    have isForm := Item.isForm (isOpen item (List.mem_singleton.mpr rfl))
    have line : cursor.rest = ' ' :: (item.form ++ '\n' :: rest) := by
      rw [shape]
      simp [Content.text]
    exact reaches_form isForm line resumes inside
  | list first others =>
    have feed : cursor.rest = '\n' :: ((first :: others).flatMap Item.line ++ rest) := shape
    have next := Cursor.step_feed feed
    have deep : Resumes 3 rest := resumes.mono (by decide)
    have list : Reaches (outside cursor.step tokens (listIndents false) true) rest _ _ :=
      reaches_items tokens isOpen (by rw [next]; rfl) (by rw [next]) deep false
        (.inr (List.cons_ne_nil _ _))
    refine .of_leads (leads_feed feed (resumes_items _ deep))
      (list.trans fun last inside column => ?_)
    have whole : (Content.list first others).tokens.reverse ++ tokens =
        .blockEnd :: (((first :: others).flatMap fun item => [.blockEntry, item.token]).reverse ++
          .blockList :: tokens) := by
      simp [Content.tokens]
    rw [whole]
    exact ⟨last, inside, column, leads_listEnd column (inside ▸ resumes)⟩

/-- The lines of an entry. -/
theorem reaches_entry (tokens : List Token) {entry : Entry} (isOpen : entry.IsOpen)
    (shape : cursor.rest = entry.text ++ rest) (start : cursor.column = 0)
    (resumes : Resumes 1 rest) (started : Bool) :
    Reaches (outside cursor tokens (mapIndents started) true) rest
      (entry.tokens.reverse ++ starting started .blockMap tokens) (mapIndents true) := by
  have line : cursor.rest = entry.word ++ ':' :: (entry.content.text ++ rest) := by
    rw [shape, Entry.text, List.append_assoc]
    rfl
  have ends : isBlankOrEnd ((entry.content.text ++ rest).head?.getD endMark) = true := by
    cases entry.content <;> rfl
  have along := Cursor.along_skip line (inLine_of_isInner entry.isKey.inner)
  have inside : 1 ≤ (cursor.skip entry.word.length).step.column := by
    rw [Cursor.column_step along.rest rfl (by decide)]
    exact Nat.le_add_left 1 _
  have whole : entry.tokens.reverse ++ starting started .blockMap tokens =
      entry.content.tokens.reverse ++ (.value :: .scalar true (String.ofList entry.word) :: .key ::
        starting started .blockMap tokens) := by
    simp [Entry.tokens]
  rw [whole]
  exact .of_leads (leads_key entry.isKey isOpen.short line start ends started)
    (reaches_content _ isOpen.items (Cursor.along_step along.rest rfl).rest inside resumes)

/-- The lines of the entries of a map, of which some may stand before. -/
theorem reaches_entries (tokens : List Token) {entries : List Entry}
    (isOpen : ∀ entry ∈ entries, entry.IsOpen)
    (shape : cursor.rest = entries.flatMap Entry.text ++ rest) (start : cursor.column = 0)
    (resumes : Resumes 1 rest) (started : Bool) (content : started = true ∨ entries ≠ []) :
    Reaches (outside cursor tokens (mapIndents started) true) rest
      ((entries.flatMap Entry.tokens).reverse ++ starting started .blockMap tokens)
      (mapIndents true) := by
  induction entries generalizing cursor tokens started with
  | nil =>
    obtain rfl := content.resolve_right (absurd rfl)
    exact .refl shape start
  | cons entry entries ih =>
    obtain ⟨first, others⟩ := List.forall_mem_cons.mp isOpen
    rw [List.flatMap_cons, List.append_assoc] at shape
    refine (reaches_entry tokens first shape start (resumes_entries entries resumes)
      started).trans fun next inside column => ?_
    have later := ih (entry.tokens.reverse ++ starting started .blockMap tokens) others
      inside column true (.inl rfl)
    rw [List.flatMap_cons, List.reverse_append, List.append_assoc]
    exact later

/-- At the end of the text all collections end. -/
theorem run_nil (shape : cursor.rest = []) (start : cursor.column = 0) (fuel : Nat) :
    (outside cursor tokens (mapIndents true) true).run (fuel + 1) =
      .ok (tokens.reverse ++ [.blockEnd]) := by
  have head := Cursor.head_of_nil shape
  have stays : cursor.dropWhile (· == ' ') = cursor :=
    Cursor.dropWhile_of_head (by rw [head]; rfl)
  rw [run_succ, prepare_outside] <;> rw [stays]
  · rw [start]
    change proceed fuel (outside cursor tokens [1] true) = _
    have empty : (outside cursor tokens [1] true).cursor.rest.isEmpty = true := by
      rw [outside, shape]
      rfl
    rw [proceed, empty]
    change Except.ok (Token.blockEnd :: tokens).reverse = _
    rw [List.reverse_cons]
  · rw [head]
    rfl
  · rw [head]
    decide

end Scan

private theorem isAllowed_of_letter_ascii : ∀ n < 128, (Char.ofNat n).isAlpha = true →
    isAllowed (Char.ofNat n) = true := by
  decide

private theorem isAllowed_of_isAlpha {c : Char} (letter : c.isAlpha = true) :
    isAllowed c = true := by
  have plain := isAllowed_of_letter_ascii c.toNat (toNat_lt_of_isAlpha letter)
  rw [Char.ofNat_toNat] at plain
  exact plain letter

/-- What is not allowed in an entry stands in one of its texts. -/
theorem Entry.all_isAllowed_text (entry : Entry) :
    entry.text.all isAllowed = entry.content.items.all fun item => item.form.all isAllowed := by
  have word : entry.word.all isAllowed = true := by
    refine List.all_eq_true.mpr fun c member => ?_
    rcases entry.isKey.letters c member with letter | rfl
    · exact isAllowed_of_isAlpha letter
    · rfl
  have colon : isAllowed ':' = true := rfl
  have space : isAllowed ' ' = true := rfl
  have feed : isAllowed '\n' = true := rfl
  have dash : isAllowed '-' = true := rfl
  have line (item : Item) : item.line.all isAllowed = item.form.all isAllowed := by
    simp [Item.line, List.all_cons, List.all_append, space, dash, feed]
  rw [Entry.text, List.all_append, word, List.all_cons, colon]
  cases entry.content with
  | line item => simp [Content.text, Content.items, space, feed]
  | list first rest => simp only [Content.text, Content.items, List.all_cons, List.all_flatMap,
      feed, line, Bool.true_and]

theorem exists_letter {entries : List Entry} (nonempty : entries ≠ []) :
    ∃ c more, entries.flatMap Entry.text = c :: more ∧ c.isAlpha = true := by
  obtain ⟨entry, others, rfl⟩ := List.exists_cons_of_ne_nil nonempty
  obtain ⟨c, more, shape, letter⟩ := entry.isKey.exists_cons
  refine ⟨c, more ++ ':' :: entry.content.text ++ others.flatMap Entry.text, ?_, letter⟩
  rw [List.flatMap_cons, Entry.text, shape]
  rfl

/-- A text that starts with a letter is scanned from its first character. -/
theorem tokens_of_letter {c : Char} {cs : List Char} (letter : c.isAlpha = true)
    (allowed : (c :: cs).all isAllowed = true) :
    tokens (c :: cs) =
      (Scan.outside (Cursor.start (c :: cs)) [] (Scan.mapIndents false) true).run
        ((c :: cs).length + 1) := by
  have unmarked : ((Scan.start (c :: cs)).cursor.head == '\uFEFF') = false := by
    refine beq_false_of_ne fun same => ?_
    have same : c = '\uFEFF' := same
    rw [same] at letter
    exact absurd letter (by decide)
  rw [tokens, if_pos allowed]
  simp only [unmarked]
  rfl

/-- A map of texts is scanned as the tokens of a block map. -/
theorem tokens_entries {entries : List Entry} (nonempty : entries ≠ [])
    (isOpen : ∀ entry ∈ entries, entry.IsOpen)
    (allowed : (entries.flatMap Entry.text).all isAllowed = true) :
    tokens (entries.flatMap Entry.text) =
      .ok (.blockMap :: (entries.flatMap Entry.tokens ++ [.blockEnd])) := by
  have whole : (Cursor.start (entries.flatMap Entry.text)).rest =
      entries.flatMap Entry.text ++ [] := (List.append_nil _).symm
  obtain ⟨last, shape, start, leads⟩ :=
    Scan.reaches_entries [] isOpen whole rfl (.done (by decide)) false (.inr nonempty)
  obtain ⟨less, enough, same⟩ := leads _ (Nat.lt_succ_self _)
  obtain ⟨fuel, rfl⟩ := Nat.exists_eq_add_one_of_ne_zero (Nat.ne_zero_of_lt enough)
  have scanned := same.trans (Scan.run_nil shape start fuel)
  obtain ⟨c, more, begin, letter⟩ := exists_letter nonempty
  rw [begin] at allowed scanned ⊢
  rw [tokens_of_letter letter allowed]
  refine scanned.trans ?_
  simp [Scan.starting]

end EditorPlugins.Yaml
