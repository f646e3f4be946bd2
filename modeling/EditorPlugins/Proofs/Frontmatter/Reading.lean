import EditorPlugins.Frontmatter.Reader
import EditorPlugins.Proofs.Entries
import EditorPlugins.Proofs.Frontmatter.Line

/-! # Reading written lines one by one

The lines of an entry move the reader through its states in a fixed way. The line of a name closes
the block that was open, and either sets a value or opens a block; the indented lines below it add
their item or their entry to that block and leave the rest of the state alone.
-/

namespace EditorPlugins.Frontmatter

open Text Number

/-- A text that does not stand between quotes of a kind. -/
def IsUnquoted (quote : Char) (cs : List Char) : Prop :=
  2 ≤ cs.length → cs.head? = some quote → cs.getLast? ≠ some quote

instance (quote : Char) : DecidablePred (IsUnquoted quote) := fun _ =>
  inferInstanceAs (Decidable (_ → _ → _ ≠ _))

private theorem between?_eq_none_of_isUnquoted {quote : Char} {cs : List Char}
    (unquoted : IsUnquoted quote cs) : between? quote cs = none := by
  cases cs with
  | nil => rfl
  | cons first rest =>
    simp only [between?]
    split
    · next ends =>
      simp only [Bool.and_eq_true, decide_eq_true_eq] at ends
      obtain ⟨rfl, last⟩ := ends
      obtain ⟨before, rfl⟩ := List.getLast?_eq_some_iff.mp last
      have ending : (first :: (before ++ [first])).getLast? = some first :=
        List.getLast?_concat (l := first :: before)
      exact absurd ending (unquoted (by simp) rfl)
    · rfl

/-- A name that can stand in front of a colon as it is. -/
structure IsName (name : String) : Prop extends IsInline name.toList where
  noColon : ':' ∉ name.toList
  notComment : name.toList.head? ≠ some '#'
  notItem : name.toList.head? ≠ some '-'
  notDoubleQuoted : IsUnquoted '"' name.toList
  notSingleQuoted : IsUnquoted '\'' name.toList

instance : DecidablePred IsName := fun name =>
  decidable_of_iff
    (IsInline name.toList ∧ ':' ∉ name.toList ∧ name.toList.head? ≠ some '#' ∧
      name.toList.head? ≠ some '-' ∧ IsUnquoted '"' name.toList ∧ IsUnquoted '\'' name.toList)
    ⟨fun ⟨inline, noColon, notComment, notItem, notDouble, notSingle⟩ =>
      ⟨inline, noColon, notComment, notItem, notDouble, notSingle⟩,
    fun isName => ⟨isName.toIsInline, isName.noColon, isName.notComment, isName.notItem,
      isName.notDoubleQuoted, isName.notSingleQuoted⟩⟩

/-- A name that can stand in front of a colon below a key, where a dash alone makes no item. -/
structure IsInnerName (name : String) : Prop extends IsInline name.toList where
  noColon : ':' ∉ name.toList
  notComment : name.toList.head? ≠ some '#'
  notItem : ¬['-', ' '] <+: name.toList
  notDoubleQuoted : IsUnquoted '"' name.toList
  notSingleQuoted : IsUnquoted '\'' name.toList

instance : DecidablePred IsInnerName := fun name =>
  decidable_of_iff
    (IsInline name.toList ∧ ':' ∉ name.toList ∧ name.toList.head? ≠ some '#' ∧
      ¬['-', ' '] <+: name.toList ∧ IsUnquoted '"' name.toList ∧ IsUnquoted '\'' name.toList)
    ⟨fun ⟨inline, noColon, notComment, notItem, notDouble, notSingle⟩ =>
      ⟨inline, noColon, notComment, notItem, notDouble, notSingle⟩,
    fun isName => ⟨isName.toIsInline, isName.noColon, isName.notComment, isName.notItem,
      isName.notDoubleQuoted, isName.notSingleQuoted⟩⟩

namespace IsInnerName

variable {name : String}

theorem unquote?_eq_none (isName : IsInnerName name) : unquote? name.toList = none := by
  rw [unquote?, between?_eq_none_of_isUnquoted isName.notDoubleQuoted,
    between?_eq_none_of_isUnquoted isName.notSingleQuoted]
  rfl

/-- A name is kept as it is where a key is read. -/
theorem itemText_eq (isName : IsInnerName name) : itemText name.toList = name.toList := by
  simp [itemText, isName.trimmed, isName.unquote?_eq_none]

/-- The first character of a name shows that its line is neither blank nor a comment. -/
theorem exists_cons (isName : IsInnerName name) : ∃ c cs, name.toList = c :: cs ∧
    isBlank c = false ∧ c ≠ '#' := by
  obtain ⟨c, cs, shape⟩ := List.exists_cons_of_ne_nil isName.nonempty
  have notComment := isName.notComment
  have plain := (trim_eq_self_iff.mp isName.trimmed).1
  simp only [shape, List.head?_cons, ne_eq, Option.some.injEq, Option.mem_def, forall_eq']
    at notComment plain
  exact ⟨c, cs, shape, plain, notComment⟩

/-- A name with a colon behind it is no item. -/
theorem isItem_append (isName : IsInnerName name) (after : List Char) :
    isItem (name.toList ++ ':' :: after) = false := by
  have notItem := isName.notItem
  have nonempty := isName.nonempty
  rw [isItem, Bool.or_eq_false_iff, decide_eq_false_iff_not, Bool.eq_false_iff, ne_eq,
    List.isPrefixOf_iff_prefix]
  generalize name.toList = cs at notItem nonempty
  match cs with
  | [] => exact absurd rfl nonempty
  | [c] => simp
  | first :: second :: cs => simpa using notItem

end IsInnerName

namespace IsName

variable {name : String}

/-- A name that can stand at the start of a line can stand below a key. -/
theorem inner (isName : IsName name) : IsInnerName name where
  toIsInline := isName.toIsInline
  noColon := isName.noColon
  notComment := isName.notComment
  notItem start := by
    obtain ⟨rest, shape⟩ := start
    exact isName.notItem (by rw [← shape]; rfl)
  notDoubleQuoted := isName.notDoubleQuoted
  notSingleQuoted := isName.notSingleQuoted

/-- The first character of a name shows that its line is neither indented, a comment nor an item. -/
theorem exists_cons (isName : IsName name) : ∃ c cs, name.toList = c :: cs ∧ isBlank c = false ∧
    c ≠ '#' ∧ c ≠ '-' := by
  obtain ⟨c, cs, shape, notBlank, notComment⟩ := isName.inner.exists_cons
  have notItem := isName.notItem
  simp only [shape, List.head?_cons, ne_eq, Option.some.injEq] at notItem
  exact ⟨c, cs, shape, notBlank, notComment, notItem⟩

end IsName

theorem isItem_cons {c : Char} (cs : List Char) (other : c ≠ '-') : isItem (c :: cs) = false := by
  simp [isItem, List.isPrefixOf, other, Ne.symm other]

/-- A line that starts with an ordinary character ends the open block. -/
theorem readLine_of_start (dialect : Dialect) (reading : Reading) {c : Char} (cs : List Char)
    (notBlank : isBlank c = false) (notComment : c ≠ '#') (notItem : c ≠ '-') :
    readLine dialect reading (c :: cs) = readTop dialect reading.close (c :: cs) := by
  have trimmed := trim_cons_of_keep cs notBlank
  have kept : isSkippable (c :: cs) = false := by simp [isSkippable, trimmed, notComment]
  have noItem : isItem (trim (c :: cs)) = false := by rw [trimmed, isItem_cons _ notItem]
  -- With a block open the line goes through the reader of blocks, which closes it first.
  rcases reading with ⟨read, _ | ⟨key, block⟩⟩
  · simp [readLine, kept, Reading.close]
  · simp [readLine, kept, readBelow, noItem, isIndented, notBlank]

/-- A line that starts with a name sets its value or opens its block. -/
theorem readLine_name {name : String} (isName : IsName name) (dialect : Dialect)
    (reading : Reading) (after : List Char) :
    readLine dialect reading (name.toList ++ ':' :: after) =
      if isBlankText (dialect.uncomment after) then
        .ok ⟨reading.close.read, some (name, .undecided)⟩
      else (readScalar dialect.typing (dialect.uncomment after)).map fun value =>
        ⟨Mapping.setField reading.close.read name value, none⟩ := by
  obtain ⟨c, cs, shape, notBlank, notComment, notItem⟩ := isName.exists_cons
  have start : name.toList ++ ':' :: after = c :: (cs ++ ':' :: after) := by
    rw [shape, List.cons_append]
  have top : (isIndented (c :: (cs ++ ':' :: after)) ||
      decide ((c :: (cs ++ ':' :: after)).head? = some '-')) = false := by
    simp [isIndented, notBlank, notItem]
  rw [start, readLine_of_start dialect reading _ notBlank notComment notItem, readTop, top, ← start,
    cutAt_append after isName.noColon]
  have named : (name.toList).isEmpty = false := List.isEmpty_eq_false_iff.mpr isName.nonempty
  simp only [isName.inner.itemText_eq, named, String.ofList_toList, Bool.false_eq_true, if_false]
  rfl

private theorem readScalar_trim (typing : Typing) (cs : List Char) :
    readScalar typing (trim cs) = readScalar typing cs := by
  simp only [readScalar, trim_trim]

private theorem readScalar_cons_blank (typing : Typing) {c : Char} (cs : List Char)
    (blank : isBlank c = true) : readScalar typing (c :: cs) = readScalar typing cs := by
  simp only [readScalar, trim_cons_blank cs blank]

/-- A line that closes the open block and opens the block of a name. -/
def Opens (dialect : Dialect) (line : List Char) (name : String) : Prop :=
  ∀ reading, readLine dialect reading line = .ok ⟨reading.close.read, some (name, .undecided)⟩

/-- The line of a name alone opens its block, and a comment behind the colon does not matter. -/
theorem opens_name {dialect : Dialect} {name : String} {after : List Char} (isName : IsName name)
    (blank : isBlankText (dialect.uncomment after) = true) :
    Opens dialect (name.toList ++ ':' :: after) name := by
  intro reading
  rw [readLine_name isName, if_pos blank]

theorem opens_keyLine {name : String} (isName : IsName name) (dialect : Dialect) :
    Opens dialect (keyLine (.text name)) name := by
  have nothing : dialect.uncomment [] = [] := by
    unfold Dialect.uncomment
    split <;> rfl
  exact opens_name isName (by rw [nothing]; rfl)

/-- The items of a block that can take items. -/
def Block.items? : Block → Option (List String)
  | .undecided => some []
  | .items written => some written
  | .entries _ => none

/-- The entries of a block that can take entries. -/
def Block.entries? : Block → Option Mapping
  | .undecided => some []
  | .entries written => some written
  | .items _ => none

private theorem Block.eq_items {block : Block} {written : List String}
    (items : block.items? = some written) (nonempty : written ≠ []) : block = .items written := by
  cases block with
  | undecided =>
    cases items
    exact absurd rfl nonempty
  | items old =>
    cases items
    rfl
  | entries old => cases items

private theorem Block.eq_entries {block : Block} {written : Mapping}
    (entries : block.entries? = some written) (nonempty : written ≠ []) :
    block = .entries written := by
  cases block with
  | undecided =>
    cases entries
    exact absurd rfl nonempty
  | items old => cases entries
  | entries old =>
    cases entries
    rfl

/-- A block that can take entries takes those with a name, and becomes a map. -/
theorem Block.addEntry?_of_entries? {block : Block} {written : Mapping}
    (entries : block.entries? = some written) (typing : Typing) (before after : List Char) :
    block.addEntry? typing before after = some
      (if isBlankText before then .ok (.entries written)
      else (readScalar typing after).map fun value =>
        .entries (Mapping.setField written (String.ofList (itemText before)) value)) := by
  cases block with
  | items old => cases entries
  | undecided =>
    cases entries
    rfl
  | entries old =>
    cases entries
    rfl

/-- Below an open key, an indented line adds an item or an entry to the block, once its comment is
taken off. -/
theorem readLine_below {dialect : Dialect} {line trimmed content : List Char}
    (indented : isIndented line = true) (kept : isSkippable line = false)
    (same : trim line = trimmed) (uncommented : trim (dialect.uncomment trimmed) = content)
    (read : Mapping) (key : String) (block : Block) :
    readLine dialect ⟨read, some (key, block)⟩ line =
      if isItem trimmed then
        match block.addItem? content with
        | some block => .ok ⟨read, some (key, block)⟩
        | none => .ok (Reading.mk read (some (key, block))).close
      else
        match cutAt ':' content with
        | (_, none) => .ok ⟨read, some (key, block)⟩
        | (before, some after) =>
          match block.addEntry? dialect.typing before after with
          | some added => added.map fun block => ⟨read, some (key, block)⟩
          | none => .ok (Reading.mk read (some (key, block))).close := by
  simp only [readLine, kept, readBelow, same, indented, uncommented]
  rfl

/-- A line that puts an item at the end of the open list. -/
def AddsItem (dialect : Dialect) (line : List Char) (text : String) : Prop :=
  ∀ block written, Block.items? block = some written → ∀ read key,
    readLine dialect ⟨read, some (key, block)⟩ line =
      .ok ⟨read, some (key, .items (written ++ [text]))⟩

private theorem isItem_dash (rest : List Char) : isItem ('-' :: trimEnd (' ' :: rest)) = true := by
  obtain ⟨dropped, whole⟩ := isPrefix_dropEndWhile isBlank (' ' :: rest)
  rw [← trimEnd] at whole
  cases shape : trimEnd (' ' :: rest) with
  | nil => rfl
  | cons c cs =>
    rw [shape] at whole
    obtain rfl : c = ' ' := (List.cons.inj whole).1
    simp [isItem]

/-- A dash with a form of a text behind it adds the text, and a comment behind the form does not
matter. -/
theorem addsItem_of_form {dialect : Dialect} {rest form text : List Char} (nonempty : form ≠ [])
    (trimmed : trim form = form) (item : itemText form = text)
    (uncommented : trim (dialect.uncomment (trim ('-' :: ' ' :: rest))) = '-' :: ' ' :: form) :
    AddsItem dialect ("  - ".toList ++ rest) (String.ofList text) := by
  intro block written items read key
  have content : trim (' ' :: ' ' :: '-' :: ' ' :: rest) = '-' :: trimEnd (' ' :: rest) := by
    rw [trim_cons_blank _ (by decide), trim_cons_blank _ (by decide),
      trim_cons_of_keep _ (by decide)]
  rw [trim_cons_of_keep _ (by decide)] at uncommented
  have filled : form.isEmpty = false := List.isEmpty_eq_false_iff.mpr nonempty
  have inner : trim (' ' :: form) = form := by rw [trim_cons_blank _ (by decide), trimmed]
  have added : block.addItem? ('-' :: ' ' :: form) =
      some (.items (written ++ [String.ofList text])) := by
    cases block with
    | undecided =>
      cases items
      simp [Block.addItem?, inner, filled, item]
    | items old =>
      cases items
      simp [Block.addItem?, inner, filled, item]
    | entries old => cases items
  change readLine dialect _ (' ' :: ' ' :: '-' :: ' ' :: rest) = _
  have kept : isSkippable (' ' :: ' ' :: '-' :: ' ' :: rest) = false := by
    rw [isSkippable, content]
    rfl
  rw [readLine_below rfl kept content uncommented, isItem_dash, added]
  rfl

/-- A line that sets an entry in the open map. -/
def SetsInner (dialect : Dialect) (line : List Char) (entry : Scalar × Value) : Prop :=
  ∀ block written, Block.entries? block = some written → ∀ read key,
    readLine dialect ⟨read, some (key, block)⟩ line =
      .ok ⟨read, some (key, .entries (Entries.set written entry.1 entry.2))⟩

/-- A name with a form of a value behind it sets the value. -/
theorem setsInner_of_form {dialect : Dialect} {name : String} {form : List Char} {value : Value}
    (isName : IsInnerName name) (nonempty : form ≠ []) (trimmed : trim form = form)
    (read : readScalar dialect.typing form = .ok value)
    (whole : dialect.uncomment (name.toList ++ ':' :: ' ' :: form) =
      name.toList ++ ':' :: ' ' :: form) :
    SetsInner dialect ("  ".toList ++ name.toList ++ ':' :: ' ' :: form) (.text name, value) := by
  intro block written entries before key
  obtain ⟨c, cs, shape, notBlank, notComment⟩ := isName.exists_cons
  have content : trim (name.toList ++ ':' :: ' ' :: form) = name.toList ++ ':' :: ' ' :: form := by
    have start : name.toList ++ ':' :: ' ' :: form = c :: (cs ++ [':', ' ']) ++ form := by
      simp [shape]
    rw [start, trim_cons_append _ notBlank nonempty trimmed]
  have indented : trim (' ' :: ' ' :: (name.toList ++ ':' :: ' ' :: form)) =
      name.toList ++ ':' :: ' ' :: form := by
    rw [trim_cons_blank _ (by decide), trim_cons_blank _ (by decide), content]
  have kept : isSkippable (' ' :: ' ' :: (name.toList ++ ':' :: ' ' :: form)) = false := by
    rw [isSkippable, indented, shape]
    exact decide_eq_false notComment
  have added : block.addEntry? dialect.typing name.toList (' ' :: form) =
      some (.ok (.entries (Entries.set written (.text name) value))) := by
    have named := isBlankText_of_trim isName.nonempty isName.trimmed
    have value := readScalar_cons_blank dialect.typing form (by decide : isBlank ' ' = true)
    rw [Block.addEntry?_of_entries? entries, named, value, read, isName.itemText_eq,
      String.ofList_toList]
    rfl
  have cut := cutAt_append (' ' :: form) isName.noColon
  have uncommented : trim (dialect.uncomment (name.toList ++ ':' :: ' ' :: form)) =
      name.toList ++ ':' :: ' ' :: form := by rw [whole, content]
  change readLine dialect _ (' ' :: ' ' :: (name.toList ++ ':' :: ' ' :: form)) = _
  rw [readLine_below rfl kept indented uncommented, isName.isItem_append, cut]
  simp only [added]
  rfl

private theorem readLines_nil (dialect : Dialect) (reading : Reading) :
    readLines dialect reading [] = .ok reading := rfl

theorem readLines_cons {dialect : Dialect} {reading next : Reading} {line : List Char}
    (lines : List (List Char)) (step : readLine dialect reading line = .ok next) :
    readLines dialect reading (line :: lines) = readLines dialect next lines := by
  rw [readLines, List.foldlM_cons, step]
  rfl

section Runs

variable {dialect : Dialect}

/-- Items go to the end of the open list in their order. -/
theorem readLines_items {lines : List (List Char)} {texts : List String}
    (adds : List.Forall₂ (AddsItem dialect) lines texts) {block : Block} {written : List String}
    (items : block.items? = some written) (read : Mapping) (key : String) :
    ∃ last, readLines dialect ⟨read, some (key, block)⟩ lines = .ok ⟨read, some (key, last)⟩ ∧
      last.items? = some (written ++ texts) := by
  induction adds generalizing block written with
  | nil => exact ⟨block, readLines_nil _ _, by rw [items, List.append_nil]⟩
  | @cons line text lines texts add _ ih =>
    have more : (Block.items (written ++ [text])).items? = some (written ++ [text]) := rfl
    obtain ⟨last, run, result⟩ := ih more
    exact ⟨last, (readLines_cons lines (add _ _ items read key)).trans run, by simpa using result⟩

/-- Entries are set in the open map in their order. -/
theorem readLines_entries {lines : List (List Char)} {entries : Mapping}
    (sets : List.Forall₂ (SetsInner dialect) lines entries) {block : Block} {written : Mapping}
    (opened : block.entries? = some written) (read : Mapping) (key : String) :
    ∃ last, readLines dialect ⟨read, some (key, block)⟩ lines = .ok ⟨read, some (key, last)⟩ ∧
      last.entries? = some (Entries.update written entries) := by
  induction sets generalizing block written with
  | nil => exact ⟨block, readLines_nil _ _, opened⟩
  | @cons line entry lines entries set _ ih =>
    have more : (Block.entries (Entries.set written entry.1 entry.2)).entries? =
      some (Entries.set written entry.1 entry.2) := rfl
    obtain ⟨last, run, result⟩ := ih more
    exact ⟨last, (readLines_cons lines (set _ _ opened read key)).trans run, result⟩

/-- Lines that set some entries, whatever was read before them. -/
def Sets (dialect : Dialect) (lines : List (List Char)) (entries : Mapping) : Prop :=
  ∀ reading, ∃ next, readLines dialect reading lines = .ok next ∧
    next.close.read = Entries.update reading.close.read entries

namespace Sets

variable {lines more : List (List Char)} {entries others : Mapping}

theorem nil : Sets dialect [] [] := fun reading => ⟨reading, readLines_nil _ _, rfl⟩

theorem append (first : Sets dialect lines entries) (second : Sets dialect more others) :
    Sets dialect (lines ++ more) (entries ++ others) := by
  intro reading
  obtain ⟨next, run, set⟩ := first reading
  obtain ⟨last, onward, result⟩ := second next
  refine ⟨last, ?_, ?_⟩
  · rw [readLines_append, run]
    exact onward
  · rw [result, set, Entries.update_append]

/-- A name with a form of a value behind it sets the value. -/
theorem line {name : String} {after form : List Char} {value : Value} (isName : IsName name)
    (trimmed : trim (dialect.uncomment after) = form) (nonempty : form ≠ [])
    (read : readScalar dialect.typing form = .ok value) :
    Sets dialect [name.toList ++ ':' :: after] [(.text name, value)] := by
  intro reading
  have step := readLine_name isName dialect reading after
  rw [isBlankText_of_trim nonempty trimmed, ← readScalar_trim, trimmed, read] at step
  exact ⟨_, readLines_cons [] step, rfl⟩

/-- A name with nothing behind and below it has no value. -/
theorem nothing {head : List Char} {name : String} (opens : Opens dialect head name) :
    Sets dialect [head] [(.text name, .null)] :=
  fun reading => ⟨_, readLines_cons [] (opens reading), rfl⟩

/-- A name with items below it sets the list of them. -/
theorem items {head : List Char} {name : String} {texts : List String}
    (opens : Opens dialect head name) (adds : List.Forall₂ (AddsItem dialect) lines texts)
    (nonempty : texts ≠ []) : Sets dialect (head :: lines) [(.text name, Value.texts texts)] := by
  intro reading
  have start : Block.undecided.items? = some [] := rfl
  obtain ⟨last, run, items⟩ := readLines_items adds start reading.close.read name
  obtain rfl := Block.eq_items items nonempty
  exact ⟨_, (readLines_cons lines (opens reading)).trans run, rfl⟩

/-- A name with entries below it sets the map of them. -/
theorem inner {head : List Char} {name : String} (opens : Opens dialect head name)
    (sets : List.Forall₂ (SetsInner dialect) lines entries) (nonempty : entries ≠ [])
    (nodup : (Entries.keys entries).Nodup) :
    Sets dialect (head :: lines) [(.text name, .map entries)] := by
  intro reading
  have start : Block.undecided.entries? = some [] := rfl
  obtain ⟨last, run, set⟩ := readLines_entries sets start reading.close.read name
  rw [← Entries.ofPairs, Entries.ofPairs_of_nodup nodup] at set
  obtain rfl := Block.eq_entries set nonempty
  exact ⟨_, (readLines_cons lines (opens reading)).trans run, rfl⟩

theorem readMapping_eq (sets : Sets dialect lines entries) :
    readMapping dialect lines = .ok (Entries.ofPairs entries) := by
  obtain ⟨last, run, result⟩ := sets Reading.start
  rw [readMapping, run]
  exact congrArg Except.ok result

end Sets

end Runs

theorem itemLine_eq_ok_iff {value : Value} {line : List Char} :
    itemLine value = .ok line ↔
      ∃ form, formatValue value = .ok form ∧ "  - ".toList ++ form = line := by
  simp only [itemLine, Outcome.bind_eq_ok_iff, Outcome.pure_eq_ok_iff]

theorem entryLine_eq_ok_iff {indent line : List Char} {key : Scalar} {value : Value} :
    entryLine indent key value = .ok line ↔
      ∃ form, formatValue value = .ok form ∧
        indent ++ key.display.toList ++ ':' :: ' ' :: form = line := by
  simp only [entryLine, Outcome.bind_eq_ok_iff, Outcome.pure_eq_ok_iff]

private theorem itemLine_eq_ok {text : String} {line : List Char}
    (formed : itemLine (.text text) = .ok line) :
    ∃ form, WritesText form text.toList ∧ line = "  - ".toList ++ form := by
  obtain ⟨form, chosen, rfl⟩ := itemLine_eq_ok_iff.mp formed
  exact ⟨form, writesText_formatText chosen, rfl⟩

theorem entryLine_eq_ok {indent written : List Char} {name : String} {value : Value}
    (line : IsLine value) (formed : entryLine indent (.text name) value = .ok written) :
    ∃ form, WritesValue form (readBack value) ∧
      written = indent ++ name.toList ++ ':' :: ' ' :: form := by
  obtain ⟨form, chosen, rfl⟩ := entryLine_eq_ok_iff.mp formed
  exact ⟨form, writesValue_readBack line chosen, rfl⟩

/-- Written items are read in their order. -/
theorem addsItems_of_itemLines {texts : List String} {lines : List (List Char)}
    (formed : (texts.map Value.text).mapM itemLine = .ok lines) :
    List.Forall₂ (AddsItem .document) lines texts := by
  have lines := (Outcome.forall₂_of_mapM formed).flip
  rw [List.forall₂_map_right_iff] at lines
  refine lines.imp fun line text one => ?_
  obtain ⟨form, writes, rfl⟩ := itemLine_eq_ok one
  have trimmed : trim ('-' :: ' ' :: form) = '-' :: ' ' :: form :=
    trim_cons_append [' '] (by decide) writes.nonempty writes.trimmed
  have adds := @addsItem_of_form .document form form _ writes.nonempty writes.trimmed writes.item
    (by rw [trimmed]; exact trimmed)
  rwa [String.ofList_toList] at adds

/-- The keys that can be written: names. -/
inductive IsKey : Scalar → Prop where
  | text {name : String} (isName : IsName name) : IsKey (.text name)

/-- The keys that can be written below a key. -/
inductive IsInnerKey : Scalar → Prop where
  | text {name : String} (isName : IsInnerName name) : IsInnerKey (.text name)

theorem IsKey.inner {key : Scalar} (isKey : IsKey key) : IsInnerKey key := by
  rcases isKey with ⟨isName⟩
  exact .text isName.inner

/-- The entries that are read from the lines of some entries. -/
def readBackEntries (entries : Mapping) : Mapping :=
  entries.map fun entry => (entry.1, readBack entry.2)

theorem setsInner_entryLine {key : Scalar} {value : Value} {written : List Char}
    (isKey : IsInnerKey key) (line : IsLine value)
    (formed : entryLine "  ".toList key value = .ok written) :
    SetsInner .document written (key, readBack value) := by
  obtain ⟨isName⟩ := isKey
  obtain ⟨form, writes, rfl⟩ := entryLine_eq_ok line formed
  exact setsInner_of_form isName writes.nonempty writes.trimmed writes.read rfl

/-- Written entries are read in their order. -/
theorem setsInner_of_entryLines {dialect : Dialect} {entries : Mapping} {lines : List (List Char)}
    (sets : ∀ entry ∈ entries, ∀ line, entryLine "  ".toList entry.1 entry.2 = .ok line →
      SetsInner dialect line (entry.1, readBack entry.2))
    (formed : (entries.mapM fun entry => entryLine "  ".toList entry.1 entry.2) = .ok lines) :
    List.Forall₂ (SetsInner dialect) lines (readBackEntries entries) := by
  have both := (List.forall₂_and_left _ _).mpr ⟨sets, Outcome.forall₂_of_mapM formed⟩
  rw [readBackEntries, List.forall₂_map_right_iff]
  exact both.flip.imp fun line entry one => one.1 line one.2

end EditorPlugins.Frontmatter
