import EditorPlugins.Proofs.Yaml.Kept
import EditorPlugins.Proofs.Yaml.Loaded

/-! # Maps of texts that are refused

A key that is too long is none, a plain text may not start with a comma, and one that is a value may
not start with the mark of an explicit key. The first such line refuses the whole text, whatever
stands below it: the tokens up to it are settled, and no document starts with them.
-/

namespace EditorPlugins.Yaml

namespace Item

/-- A plain text that starts with a comma. -/
def IsComma (item : Item) : Prop := item.plain = true ∧ item.text.head? = some ','

/-- A plain text that starts with the mark of an explicit key. -/
def IsMarked (item : Item) : Prop :=
  item.plain = true ∧ item.text.head? = some '?' ∧
    isBlankOrEnd (item.text.tail.head?.getD '\n') = true

/-- A plain form is the text with its first character. -/
theorem form_of_head {item : Item} {c : Char} (plain : item.plain = true)
    (first : item.text.head? = some c) : item.form = c :: item.text.tail := by
  obtain ⟨rest, shape⟩ := List.head?_eq_some_iff.mp first
  rw [form, if_pos plain, shape]
  rfl

end Item

/-- The items of a list. -/
def Content.listed : Content → List Item
  | .line _ => []
  | .list first rest => first :: rest

namespace Scan

variable {cursor : Cursor} {tokens ahead : List Token} {indents : List Nat} {keyAllowed : Bool}
  {rest : List Char} {fuel : Nat}

private theorem scanToken_comma {scan : Scan} (head : scan.cursor.head = ',') :
    scan.scanToken = scan.scanFlowEntry := by
  have noMarker (mark : Char) (differs : ',' ≠ mark) : scan.cursor.startsMarker mark = false :=
    Cursor.startsMarker_eq_false (by rwa [head])
  simp [scanToken, head, noMarker]

private theorem scanToken_mark {scan : Scan} (head : scan.cursor.head = '?')
    (blank : isBlankOrEnd (scan.cursor.peek 1) = true) : scan.scanToken = scan.scanKey := by
  have noMarker (mark : Char) (differs : '?' ≠ mark) : scan.cursor.startsMarker mark = false :=
    Cursor.startsMarker_eq_false (by rwa [head])
  simp [scanToken, head, blank, noMarker]

/-- Outside brackets a comma is a token of its own, and stays one. -/
theorem isPrefix_run_of_comma (shape : cursor.rest = ' ' :: ',' :: rest)
    (further : indents.head?.getD 0 ≤ cursor.column)
    (ran : (outside cursor tokens indents keyAllowed).run fuel = .ok ahead) :
    tokens.reverse ++ [.flowEntry] <+: ahead := by
  cases fuel with
  | zero => cases ran
  | succ fuel =>
  have along := Cursor.along_step shape rfl
  have prepared : (outside cursor tokens indents keyAllowed).prepare = _ :=
    prepare_space shape rfl (by decide) (by decide) rfl further
  have token : (outside cursor.step tokens indents keyAllowed).scanToken =
      .ok (outside cursor.step.step (.flowEntry :: tokens) indents true) :=
    scanToken_comma (Cursor.head_of_cons along.rest)
  have inside : cursor.step.rest ≠ [] := by
    rw [along.rest]
    exact List.cons_ne_nil _ _
  rw [run_of_prepare prepared inside token] at ran
  have keeps : Keeps (.flowEntry :: tokens)
      (outside cursor.step.step (.flowEntry :: tokens) indents true) :=
    ⟨List.suffix_refl _, fun _ absent => absurd absent List.not_mem_nil⟩
  rw [← List.reverse_cons]
  exact isPrefix_run keeps ran

/-- Where a value starts there is no mark of a key. -/
theorem run_of_mark (shape : cursor.rest = ' ' :: '?' :: rest)
    (blank : isBlankOrEnd (rest.head?.getD endMark) = true)
    (further : indents.head?.getD 0 ≤ cursor.column) (fuel : Nat) :
    (outside cursor tokens indents false).run fuel = .error .malformed := by
  cases fuel with
  | zero => rfl
  | succ fuel =>
  have along := Cursor.along_step shape rfl
  have alone : isBlankOrEnd (cursor.step.peek 1) = true := by
    rw [← blank, Cursor.peek, along.rest]
    cases rest <;> rfl
  have token : (outside cursor.step tokens indents false).scanToken = .error .malformed :=
    scanToken_mark (Cursor.head_of_cons along.rest) alone
  rw [run_succ, prepare_space shape rfl (by decide) (by decide) rfl further]
  change proceed fuel (outside cursor.step tokens indents false) = _
  rw [proceed, token]
  change (if cursor.step.rest.isEmpty then _ else _) = _
  rw [along.rest]
  rfl

end Scan

namespace Reader

variable {anchors : List (String × Option Node)} {handles : List (String × String)}
  {ahead : List Token}

/-- No item of a list is a comma. -/
theorem readBlockItems_comma (items : List Item) {fuel : Nat} (enough : items.length + 2 ≤ fuel) :
    readBlockItems fuel ⟨items.flatMap (fun item => [.blockEntry, item.token]) ++
      .blockEntry :: .flowEntry :: ahead, anchors, handles⟩ = .error .malformed := by
  obtain ⟨spare, rfl⟩ := Nat.exists_eq_add_of_le enough
  have size : items.length + 2 + spare = items.length + (spare + 2) := by omega
  have refused : readUnless .block [.blockEntry, .blockEnd] (spare + 1)
      ⟨.flowEntry :: ahead, anchors, handles⟩ = .error .malformed :=
    (readUnless_of_other rfl _).trans (readNode_comma _ _)
  rw [size, readBlockItems_items, readBlockItems]
  change behind _ (readUnless .block [.blockEntry, .blockEnd] (spare + 1)
    ⟨.flowEntry :: ahead, anchors, handles⟩ >>= _) = _
  rw [refused]
  rfl

/-- Tokens that start a value, but none that could be read. -/
structure IsRefused (ahead : List Token) : Prop where
  starts : sees ⟨ahead, [], standardHandles⟩ [.key, .value, .blockEnd] = false
  refused : ∀ fuel, ahead.length ≤ fuel →
    readNode .value fuel ⟨ahead, [], standardHandles⟩ = .error .malformed

theorem isRefused_comma : IsRefused (.flowEntry :: ahead) :=
  ⟨rfl, fun fuel _ => readNode_comma _ fuel⟩

private theorem isRefused_items (items : List Item) :
    IsRefused (.blockList :: (items.flatMap (fun item => [.blockEntry, item.token]) ++
      .blockEntry :: .flowEntry :: ahead)) := by
  refine ⟨rfl, fun fuel long => ?_⟩
  rw [List.length_cons, List.length_append] at long
  obtain ⟨fuel, rfl⟩ := Nat.exists_eq_add_one_of_ne_zero (Nat.ne_zero_of_lt long)
  have count := length_items items
  rw [readNode_blockList, readBlockItems_comma items]
  · rfl
  · simp only [List.length_cons] at long
    omega

/-- No document starts with some entries and a value that cannot be read. -/
theorem readOnly_of_isRefused (entries : List Entry) (word : String) (value : IsRefused ahead) :
    readOnly (.blockMap :: (entries.flatMap Entry.tokens ++
      .key :: .scalar true word :: .value :: ahead)) = .error .malformed := by
  obtain ⟨fuel, long, root⟩ := @readRoot_entries standardHandles entries
    (.key :: .scalar true word :: .value :: ahead)
  obtain ⟨spare, rfl⟩ := Nat.exists_eq_add_of_le long
  have size : (Token.key :: .scalar true word :: .value :: ahead).length + spare + 2 =
      ahead.length + spare + 2 + 3 := by
    simp only [List.length_cons]
    omega
  rw [size, readBlockEntries_key word _ value.starts, value.refused _ (by omega)] at root
  change (readRoot standardHandles _ >>= fun _ => _) = _
  rw [root]
  rfl

end Reader

/-- Of entries that are not all open some are open up to one that is not. -/
theorem exists_first {α : Type} {holds : α → Prop} {items : List α}
    (closed : ¬∀ item ∈ items, holds item) :
    ∃ before item after, items = before ++ item :: after ∧ (∀ other ∈ before, holds other) ∧
      ¬holds item := by
  induction items with
  | nil => exact absurd (fun _ absent => absurd absent List.not_mem_nil) closed
  | cons item items ih =>
    by_cases first : holds item
    · have later : ¬∀ other ∈ items, holds other := fun all =>
        closed (List.forall_mem_cons.mpr ⟨first, all⟩)
      obtain ⟨before, other, after, rfl, all, fails⟩ := ih later
      exact ⟨item :: before, other, after, rfl, List.forall_mem_cons.mpr ⟨first, all⟩, fails⟩
    · exact ⟨[], item, items, rfl, fun _ absent => absurd absent List.not_mem_nil, first⟩

namespace Scan

variable {cursor : Cursor} {rest : List Char}

/-- Open items lead to what stands below them, be it in their list or in front of it. -/
theorem exists_reaches_items (tokens : List Token) {items : List Item}
    (isOpen : ∀ item ∈ items, item.IsOpen)
    (shape : cursor.rest = items.flatMap Item.line ++ rest) (start : cursor.column = 0)
    (resumes : Resumes 3 rest) :
    ∃ started before, Reaches (outside cursor tokens (listIndents false) true) rest before
      (listIndents started) ∧ starting started .blockList before =
        (items.flatMap fun item => [.blockEntry, item.token]).reverse ++ .blockList :: tokens := by
  by_cases empty : items = []
  · subst empty
    exact ⟨false, tokens, .refl shape start, rfl⟩
  · exact ⟨true, _, reaches_items tokens isOpen shape start resumes false (.inr empty), rfl⟩

/-- Open entries lead to what stands below them, be it in their map or in front of it. -/
theorem exists_reaches_entries {entries : List Entry} (isOpen : ∀ entry ∈ entries, entry.IsOpen)
    (shape : cursor.rest = entries.flatMap Entry.text ++ rest) (start : cursor.column = 0)
    (resumes : Resumes 1 rest) :
    ∃ started before, Reaches (outside cursor [] (mapIndents false) true) rest before
      (mapIndents started) ∧ starting started .blockMap before =
        (entries.flatMap Entry.tokens).reverse ++ [.blockMap] := by
  by_cases empty : entries = []
  · subst empty
    exact ⟨false, [], .refl shape start, rfl⟩
  · exact ⟨true, _, reaches_entries [] isOpen shape start resumes false (.inr empty), rfl⟩

/-- An item that starts with a comma, below open items. -/
theorem isPrefix_run_of_item {items : List Item} (isOpen : ∀ item ∈ items, item.IsOpen)
    {item : Item} (comma : item.IsComma) {tokens ahead : List Token} {fuel : Nat}
    (shape : cursor.rest = '\n' :: (items.flatMap Item.line ++ (item.line ++ rest)))
    (enough : cursor.rest.length < fuel)
    (ran : (outside cursor tokens (mapIndents true) false).run fuel = .ok ahead) :
    tokens.reverse ++ .blockList :: (items.flatMap (fun item => [.blockEntry, item.token]) ++
      [.blockEntry, .flowEntry]) <+: ahead := by
  have next := Cursor.step_feed shape
  have inside : cursor.step.rest = items.flatMap Item.line ++ (item.line ++ rest) := by rw [next]
  have start : cursor.step.column = 0 := by rw [next]
  have below : Resumes 3 (item.line ++ rest) := .item (by decide)
  obtain ⟨started, before, reached, same⟩ :=
    exists_reaches_items tokens isOpen inside start below
  obtain ⟨last, inside, column, leads⟩ := reached
  have line : last.rest = ' ' :: ' ' :: '-' :: ' ' :: ',' :: (item.text.tail ++ '\n' :: rest) := by
    rw [inside, Item.line, Item.form_of_head comma.1 comma.2]
    simp
  obtain ⟨-, dash, two, -⟩ := Cursor.dropWhile_indent line (by decide) column
  have along := Cursor.along_step dash rfl
  have further : 3 ≤ (last.skip 3).column := by
    have := Cursor.column_step dash rfl (by decide)
    rw [two] at this
    exact Nat.le_of_eq this.symm
  have all := (leads_feed shape (resumes_items items below)).trans
    (leads.trans (leads_dash line column started))
  obtain ⟨less, -, equal⟩ := all fuel enough
  rw [equal] at ran
  have first := isPrefix_run_of_comma (show (last.skip 3).rest = _ from along.rest)
    (show ([3, 1] : List Nat).head?.getD 0 ≤ _ from further) ran
  rw [same] at first
  simpa using first

/-- The value of a key whose texts are not all open cannot be read, whatever stands below it: the
first of them starts with a comma, or in the line of the key with the mark of one. -/
theorem isRefused_of_content {content : Content} (closed : ¬∀ item ∈ content.items, item.IsOpen)
    (written : ∀ item ∈ content.items, item.IsOpen ∨ item.IsComma ∨ item.IsMarked)
    (unmarked : ∀ item ∈ content.listed, ¬item.IsMarked)
    {tokens ahead : List Token} {fuel : Nat} (shape : cursor.rest = content.text ++ rest)
    (inside : 1 ≤ cursor.column) (enough : cursor.rest.length < fuel)
    (ran : (outside cursor tokens (mapIndents true) false).run fuel = .ok ahead) :
    ∃ value, ahead = tokens.reverse ++ value ∧ Reader.IsRefused value := by
  cases content with
  | line item =>
    have closed : ¬item.IsOpen := fun isOpen => closed (List.forall_mem_singleton.mpr isOpen)
    have further : (mapIndents true).head?.getD 0 ≤ cursor.column := inside
    have line {c : Char} (plain : item.plain = true) (first : item.text.head? = some c) :
        cursor.rest = ' ' :: c :: (item.text.tail ++ '\n' :: rest) := by
      rw [shape, Content.text, Item.form_of_head plain first]
      simp
    rcases (List.forall_mem_singleton.mp written).resolve_left closed with comma | marked
    · obtain ⟨more, whole⟩ := isPrefix_run_of_comma (line comma.1 comma.2) further ran
      rw [List.append_assoc] at whole
      exact ⟨_, whole.symm, Reader.isRefused_comma⟩
    · have blank : isBlankOrEnd ((item.text.tail ++ '\n' :: rest).head?.getD endMark) = true := by
        rw [← marked.2.2]
        cases item.text.tail <;> rfl
      rw [run_of_mark (line marked.1 marked.2.1) blank further] at ran
      cases ran
  | list first others =>
    obtain ⟨items, item, after, whole, isOpen, closed⟩ := exists_first closed
    have member : item ∈ (Content.list first others).items := by
      rw [whole]
      exact List.mem_append_right _ List.mem_cons_self
    have comma := (written item member).resolve_left closed
    have comma := comma.resolve_right (unmarked item member)
    have lines : cursor.rest = '\n' ::
        (items.flatMap Item.line ++ (item.line ++ (after.flatMap Item.line ++ rest))) := by
      have split : first :: others = items ++ item :: after := whole
      rw [shape, Content.text, split]
      simp
    obtain ⟨more, whole⟩ := isPrefix_run_of_item isOpen comma lines enough ran
    simp only [List.append_assoc, List.cons_append, List.nil_append] at whole
    exact ⟨_, whole.symm, Reader.isRefused_items items⟩

/-- The entry that refuses a text: no tokens at all come from a key that is too long, and from a key
with such a value come those of a value that cannot be read. -/
theorem isRefused_of_entry {entry : Entry} (closed : ¬entry.IsOpen)
    (written : ∀ item ∈ entry.content.items, item.IsOpen ∨ item.IsComma ∨ item.IsMarked)
    (unmarked : ∀ item ∈ entry.content.listed, ¬item.IsMarked) (started : Bool)
    {tokens ahead : List Token} {fuel : Nat} (shape : cursor.rest = entry.text ++ rest)
    (start : cursor.column = 0) (enough : cursor.rest.length < fuel)
    (ran : (outside cursor tokens (mapIndents started) true).run fuel = .ok ahead) :
    ∃ value, ahead = (starting started .blockMap tokens).reverse ++
      .key :: .scalar true (String.ofList entry.word) :: .value :: value ∧
        Reader.IsRefused value := by
  have line : cursor.rest = entry.word ++ ':' :: (entry.content.text ++ rest) := by
    rw [shape, Entry.text, List.append_assoc]
    rfl
  have ends : isBlankOrEnd ((entry.content.text ++ rest).head?.getD endMark) = true := by
    cases entry.content <;> rfl
  have along := Cursor.along_skip line (inLine_of_isInner entry.isKey.inner)
  by_cases short : entry.word.length ≤ 1024
  · have closed : ¬∀ item ∈ entry.content.items, item.IsOpen := fun all => closed ⟨short, all⟩
    have key : Leads (outside cursor tokens (mapIndents started) true) _ :=
      leads_key entry.isKey short line start ends started
    obtain ⟨less, enough, same⟩ := key fuel enough
    rw [same] at ran
    have inside : 1 ≤ (cursor.skip entry.word.length).step.column := by
      rw [Cursor.column_step along.rest rfl (by decide)]
      exact Nat.le_add_left 1 _
    obtain ⟨value, rfl, refused⟩ := isRefused_of_content closed written unmarked
      (Cursor.along_step along.rest rfl).rest inside enough ran
    exact ⟨value, by simp, refused⟩
  · have word : Leads (outside cursor tokens (mapIndents started) true) _ :=
      leads_word entry.isKey line ends started
    obtain ⟨less, -, same⟩ := word fuel enough
    rw [same, run_behindWord along (Nat.not_le.mp short) start ends] at ran
    cases ran

end Scan

private theorem allowed_of_tokens {cs : List Char} {ahead : List Token}
    (scanned : tokens cs = .ok ahead) :
    cs.all isAllowed = true := by
  by_contra refused
  rw [tokens, if_neg refused] at scanned
  cases scanned

/-- Entries that are not all open cannot be read: the first that is not refuses the text. -/
theorem read_ne_ok {entries : List Entry} (closed : ¬∀ entry ∈ entries, entry.IsOpen)
    (written : ∀ entry ∈ entries, ∀ item ∈ entry.content.items,
      item.IsOpen ∨ item.IsComma ∨ item.IsMarked)
    (unmarked : ∀ entry ∈ entries, ∀ item ∈ entry.content.listed, ¬item.IsMarked)
    (value : Value) : read (String.ofList (entries.flatMap Entry.text)) ≠ .ok value := by
  intro found
  rw [read, String.toList_ofList] at found
  obtain ⟨ahead, scanned, found⟩ := Outcome.bind_eq_ok_iff.mp found
  obtain ⟨before, entry, after, whole, isOpen, closed⟩ := exists_first closed
  have member : entry ∈ entries := by
    rw [whole]
    exact List.mem_append_right _ List.mem_cons_self
  obtain ⟨c, more, begin, letter⟩ := exists_letter (List.ne_nil_of_mem member)
  have allowed := allowed_of_tokens scanned
  rw [begin] at allowed
  rw [begin, tokens_of_letter letter allowed, ← begin] at scanned
  have shape : (Cursor.start (entries.flatMap Entry.text)).rest =
      before.flatMap Entry.text ++ (entry.text ++ after.flatMap Entry.text) := by
    rw [whole]
    simp [Cursor.start]
  obtain ⟨d, others, key, first⟩ := entry.isKey.exists_cons
  have resumes : Resumes 1 (entry.text ++ after.flatMap Entry.text) := by
    rw [Entry.text, key]
    exact .key (by decide) first
  obtain ⟨started, tokens, reached, same⟩ :=
    Scan.exists_reaches_entries isOpen shape rfl resumes
  obtain ⟨last, inside, start, leads⟩ := reached
  obtain ⟨fuel, enough, equal⟩ := leads _ (Nat.lt_succ_self _)
  have scanned := equal.symm.trans scanned
  obtain ⟨value, rfl, refused⟩ := Scan.isRefused_of_entry closed (written entry member)
    (unmarked entry member) started inside start enough scanned
  rw [same] at found
  simp only [List.reverse_append, List.reverse_reverse, List.reverse_cons, List.reverse_nil,
    List.nil_append, List.cons_append] at found
  rw [Reader.readOnly_of_isRefused _ _ refused] at found
  cases found

/-- The entries of a map of texts are read as what they stand for just when there are any, and each
of them is open, has allowed characters only, and spells nothing else. -/
theorem read_eq_ok_iff {entries : List Entry}
    (written : ∀ entry ∈ entries, ∀ item ∈ entry.content.items,
      item.IsOpen ∨ item.IsComma ∨ item.IsMarked)
    (unmarked : ∀ entry ∈ entries, ∀ item ∈ entry.content.listed, ¬item.IsMarked)
    (texts : ∀ entry ∈ entries, Kind.ofText (String.ofList entry.word) = .text)
    (distinct : (Entries.keys (entries.map Entry.value)).Nodup) :
    read (String.ofList (entries.flatMap Entry.text)) = .ok (.map (entries.map Entry.value)) ↔
      entries ≠ [] ∧ ∀ entry ∈ entries, entry.word.length ≤ 1024 ∧
        ∀ item ∈ entry.content.items, item.form.all isAllowed = true ∧ item.IsOpen ∧ item.IsText := by
  have allowed_iff : (entries.flatMap Entry.text).all isAllowed = true ↔
      ∀ entry ∈ entries, ∀ item ∈ entry.content.items, item.form.all isAllowed = true := by
    simp only [List.all_flatMap, Entry.all_isAllowed_text, List.all_eq_true]
  constructor
  · intro found
    have nonempty : entries ≠ [] := by
      rintro rfl
      have nothing : read (String.ofList (([] : List Entry).flatMap Entry.text)) = .ok .null := rfl
      rw [nothing] at found
      cases found
    have isOpen : ∀ entry ∈ entries, entry.IsOpen := by
      by_contra closed
      exact read_ne_ok closed written unmarked _ found
    have allowed : (entries.flatMap Entry.text).all isAllowed = true := by
      have scanned := found
      rw [read, String.toList_ofList] at scanned
      obtain ⟨ahead, scanned, -⟩ := Outcome.bind_eq_ok_iff.mp scanned
      exact allowed_of_tokens scanned
    have isText := (read_entries_iff nonempty isOpen allowed texts distinct).mp found
    exact ⟨nonempty, fun entry member => ⟨(isOpen entry member).short, fun item present =>
      ⟨allowed_iff.mp allowed entry member item present, (isOpen entry member).items item present,
        isText entry member item present⟩⟩⟩
  · rintro ⟨nonempty, each⟩
    have isOpen : ∀ entry ∈ entries, entry.IsOpen := fun entry member =>
      ⟨(each entry member).1, fun item present => ((each entry member).2 item present).2.1⟩
    have allowed := allowed_iff.mpr fun entry member item present =>
      ((each entry member).2 item present).1
    exact (read_entries_iff nonempty isOpen allowed texts distinct).mpr
      fun entry member item present => ((each entry member).2 item present).2.2

end EditorPlugins.Yaml
