import EditorPlugins.Proofs.Entries
import EditorPlugins.Proofs.Frontmatter.Bare
import EditorPlugins.Proofs.Frontmatter.Reading
import EditorPlugins.Proofs.Text.Endings

/-! # Texts that are read one behind the other

What a line does depends on the block that is open and not on what was read before it. A line at the
left that is no item closes that block, so from there on a text is read as if nothing stood before
it, and its entries are set in the map that the text before it gives. Lines that mean nothing may
stand anywhere between others.
-/

namespace EditorPlugins.Frontmatter

open Text Number

/-- The effect of some lines: the entries that they set, and the block that is open behind them. -/
structure Effect where
  entries : Mapping
  pending : Option (String × Block)

namespace Effect

/-- The state after an effect behind what was read. -/
def after (effect : Effect) (read : Mapping) : Reading :=
  ⟨Entries.update read effect.entries, effect.pending⟩

/-- An effect with some entries before its own. -/
def behind (entries : Mapping) (effect : Effect) : Effect :=
  ⟨entries ++ effect.entries, effect.pending⟩

private theorem after_behind (entries : Mapping) (effect : Effect) (read : Mapping) :
    (effect.behind entries).after read = effect.after (Entries.update read entries) := by
  rw [after, behind, Entries.update_append]
  rfl

/-- All entries of an effect, that of the open block included. -/
def closed (effect : Effect) : Mapping :=
  effect.entries ++ (effect.pending.map fun block => (Scalar.text block.1, block.2.value)).toList

private theorem read_close_after (effect : Effect) (read : Mapping) :
    (effect.after read).close.read = Entries.update read effect.closed := by
  rcases effect with ⟨entries, _ | ⟨key, block⟩⟩
  · rw [closed, Option.map_none, Option.toList_none, List.append_nil]
    rfl
  · rw [closed, Entries.update_append]
    rfl

end Effect

/-- A run that does the same, or is refused for the same reason, behind everything that was read. -/
def IsUniform (run : Mapping → Except ConversionError Reading) : Prop :=
  ∃ outcome : Except ConversionError Effect, ∀ read,
    run read = outcome.map fun effect => effect.after read

namespace IsUniform

variable {run : Mapping → Except ConversionError Reading}

/-- A run that sets nothing. -/
theorem idle (pending : Option (String × Block)) : IsUniform fun read => .ok ⟨read, pending⟩ :=
  ⟨.ok ⟨[], pending⟩, fun _ => rfl⟩

/-- Entries may be set before a run. -/
theorem behind (uniform : IsUniform run) (entries : Mapping) :
    IsUniform fun read => run (Entries.update read entries) := by
  obtain ⟨outcome, same⟩ := uniform
  refine ⟨outcome.map (Effect.behind entries), fun read => (same _).trans ?_⟩
  cases outcome with
  | error cause => rfl
  | ok effect => exact congrArg Except.ok (effect.after_behind entries read).symm

/-- What is read behind a map is set in it. -/
theorem map_read (uniform : IsUniform run) (base : Mapping) :
    (run base).map (fun reading => reading.close.read) =
      ((run []).map fun reading => reading.close.read).map (Entries.update base) := by
  obtain ⟨outcome, same⟩ := uniform
  rw [same, same]
  cases outcome with
  | error cause => rfl
  | ok effect =>
    have alone : (effect.after []).close.read = Entries.ofPairs effect.closed :=
      effect.read_close_after []
    change Except.ok (effect.after base).close.read =
      .ok (Entries.update base (effect.after []).close.read)
    rw [alone, effect.read_close_after, Entries.update_ofPairs]

end IsUniform

section Lines

variable (dialect : Dialect) (line : List Char)

private theorem isUniform_readTop (pending : Option (String × Block)) :
    IsUniform fun read => readTop dialect ⟨read, pending⟩ line := by
  unfold readTop
  split
  · exact .idle pending
  split
  · exact .idle pending
  next before after cut =>
  simp only
  split
  · exact .idle pending
  split
  · exact .idle (some (_, .undecided))
  · refine ⟨(readScalar dialect.typing (dialect.uncomment after)).map fun value =>
      ⟨[(.text (String.ofList (itemText before)), value)], none⟩, fun read => ?_⟩
    cases readScalar dialect.typing (dialect.uncomment after) <;> rfl

private theorem isUniform_readBelow (key : String) (block : Block) :
    IsUniform fun read => readBelow dialect ⟨read, some (key, block)⟩ key block line := by
  -- Closing the block is setting its entry.
  have closes := (IsUniform.idle none).behind [(.text key, block.value)]
  have outside := (isUniform_readTop dialect line none).behind [(.text key, block.value)]
  unfold readBelow
  simp only
  split
  · exact outside
  split
  · split
    · exact .idle (some (key, _))
    · exact closes
  split
  · exact .idle (some (key, block))
  split
  · next added _ =>
    refine ⟨added.map fun block => ⟨[], some (key, block)⟩, fun read => ?_⟩
    cases added <;> rfl
  · exact closes

private theorem isUniform_readLine (pending : Option (String × Block)) :
    IsUniform fun read => readLine dialect ⟨read, pending⟩ line := by
  unfold readLine
  split
  · exact .idle pending
  cases pending with
  | none => exact isUniform_readTop dialect line none
  | some block => exact isUniform_readBelow dialect line block.1 block.2

private theorem readLines_cons_of_error {dialect : Dialect} {reading : Reading} {line : List Char}
    {cause : ConversionError} (lines : List (List Char))
    (step : readLine dialect reading line = .error cause) :
    readLines dialect reading (line :: lines) = .error cause := by
  rw [readLines, List.foldlM_cons, step]
  rfl

/-- What some lines do does not depend on what was read before them. -/
theorem isUniform_readLines (lines : List (List Char)) (pending : Option (String × Block)) :
    IsUniform fun read => readLines dialect ⟨read, pending⟩ lines := by
  induction lines generalizing pending with
  | nil => exact .idle pending
  | cons line lines ih =>
    obtain ⟨outcome, step⟩ := isUniform_readLine dialect line pending
    cases outcome with
    | error cause => exact ⟨.error cause, fun read => readLines_cons_of_error lines (step read)⟩
    | ok effect =>
      obtain ⟨last, run⟩ := (ih effect.pending).behind effect.entries
      exact ⟨last, fun read => (readLines_cons lines (step read)).trans (run read)⟩

end Lines

/-- Lines of which the first ends every block are read behind others as on their own. -/
theorem readLines_of_start (dialect : Dialect) (reading : Reading) {c : Char} (cs : List Char)
    (lines : List (List Char)) (notBlank : isBlank c = false) (notComment : c ≠ '#')
    (notItem : c ≠ '-') :
    (readLines dialect reading ((c :: cs) :: lines)).map (fun last => last.close.read) =
      (readMapping dialect ((c :: cs) :: lines)).map (Entries.update reading.close.read) := by
  have outside : readLines dialect reading ((c :: cs) :: lines) =
      readLines dialect reading.close ((c :: cs) :: lines) := by
    simp only [readLines, List.foldlM_cons, readLine_of_start _ _ _ notBlank notComment notItem,
      Reading.close_close]
  have closed : reading.close = ⟨reading.close.read, none⟩ := by
    rcases reading with ⟨read, _ | block⟩ <;> rfl
  rw [outside, closed]
  exact (isUniform_readLines dialect _ none).map_read reading.close.read

private theorem readLines_cons_of_isSkippable (dialect : Dialect) (reading : Reading)
    {line : List Char}
    (lines : List (List Char)) (skippable : isSkippable line = true) :
    readLines dialect reading (line :: lines) = readLines dialect reading lines :=
  readLines_cons lines (readLine_of_isSkippable dialect reading skippable)

/-- What follows a closed text is read behind it line by line. A feed that belongs to the ending
before it would be an empty line of its own, which means nothing. -/
theorem readLines_append_of_isClosed {first : List Char} (closed : IsClosed first)
    (second : List Char) (dialect : Dialect) (reading : Reading) :
    readLines dialect reading (lineBodies (first ++ second)) =
      (readLines dialect reading (lineBodies first)).bind fun next =>
        readLines dialect next (lineBodies second) := by
  obtain ⟨rest, follows, cut⟩ := exists_lineBodies_append closed second
  rw [cut, readLines_append]
  rcases follows with rfl | rfl
  · rfl
  · have empty : lineBodies ('\n' :: rest) = [] :: lineBodies rest := rfl
    simp only [empty, readLines_cons_of_isSkippable dialect _ _ (rfl : isSkippable [] = true)]

/-- A text that starts at the left, and with no comment or item, is read behind a closed text as on
its own, and its entries are set in what that text gives. Both together are refused just when one of
them is refused alone. -/
theorem read_append (dialect : Dialect) {first second : String} (closed : IsClosed first.toList)
    (starts : ∃ c ∈ second.toList.head?, isBlank c = false ∧ c ≠ '#' ∧ c ≠ '-') :
    (read dialect (first ++ second) = do
      let before ← read dialect first
      let after ← read dialect second
      return Entries.update before after) ∧
    ((∃ cause, read dialect (first ++ second) = .error cause) ↔
      (∃ cause, read dialect first = .error cause) ∨
        ∃ cause, read dialect second = .error cause) := by
  obtain ⟨c, start, notBlank, notComment, notItem⟩ := starts
  obtain ⟨cs, shape⟩ := List.head?_eq_some_iff.mp start
  have plain : isLineBreak c = false := Bool.eq_false_iff.mpr fun isBreak =>
    absurd (isBlank_of_isLineBreak isBreak) (Bool.eq_false_iff.mp notBlank)
  obtain ⟨line, lines, firstLine⟩ := exists_lineBodies_cons cs plain
  rw [← shape] at firstLine
  have whole : read dialect (first ++ second) = do
      let before ← read dialect first
      let after ← read dialect second
      return Entries.update before after := by
    simp only [read, readMapping, String.toList_append]
    rw [readLines_append_of_isClosed closed, firstLine]
    cases readLines dialect Reading.start (lineBodies first.toList) with
    | error cause => rfl
    | ok reading =>
      exact readLines_of_start dialect reading line lines notBlank notComment notItem
  refine ⟨whole, ?_⟩
  rw [whole]
  cases read dialect first with
  | error cause => simp [bind, Except.bind]
  | ok before => cases read dialect second <;> simp [bind, Except.bind, pure, Except.pure]

/-- An open list, and a line that a return ends. -/
def openText : String := "name: x\ntools:\n  - a\r"

/-- A key that closes the list, and the key of the list once more. -/
def laterText : String := "name: y # z\ntools:\n- b"

theorem openText_read_append : IsClosed openText.toList ∧
    (∃ c ∈ laterText.toList.head?, isBlank c = false ∧ c ≠ '#' ∧ c ≠ '-') ∧
    read .metadata (openText ++ laterText) =
      .ok [(.text "name", .text "y"), (.text "tools", Value.texts ["b"])] :=
  ⟨by decide, ⟨'n', by decide⟩,
    (read_append .metadata (by decide) ⟨'n', by decide⟩).1.trans rfl⟩

private theorem isSkippable_of_comment {line : List Char}
    (comment : ∀ c ∈ (line.dropWhile isBlank).head?, c = '#') : isSkippable line = true := by
  rw [isSkippable, trim, trimStart]
  cases shape : line.dropWhile isBlank with
  | nil => rfl
  | cons c cs =>
    rw [shape] at comment
    obtain rfl := comment c rfl
    rw [trimEnd, dropEndWhile_cons_of_keep isBlank cs (by decide)]
    rfl

/-- A blank line, or one that holds only a comment, changes nothing wherever it stands. -/
theorem read_insert_comment (dialect : Dialect) {above line : String} (below : String)
    (closed : IsClosed above.toList) (oneLine : IsOneLine line.toList)
    (comment : ∀ c ∈ (line.toList.dropWhile isBlank).head?, c = '#') :
    read dialect (above ++ line ++ "\n" ++ below) = read dialect (above ++ below) := by
  have inserted : lineBodies (line.toList ++ '\n' :: below.toList) =
      line.toList :: lineBodies below.toList := by
    rw [lineBodies, lines_append_feed _ oneLine, List.map_cons, lineBodies]
  have text : (above ++ line ++ "\n" ++ below).toList =
      above.toList ++ (line.toList ++ '\n' :: below.toList) := by
    simp [String.toList_append]
  have skippable := isSkippable_of_comment comment
  simp only [read, readMapping]
  rw [text, String.toList_append, readLines_append_of_isClosed closed, inserted,
    readLines_append_of_isClosed closed]
  simp only [readLines_cons_of_isSkippable dialect _ _ skippable]

/-- A comment at the left of an open list, behind a return that a feed would follow without it. -/
theorem openText_read_insert_comment : IsClosed openText.toList ∧ IsOneLine "# c: d".toList ∧
    (∀ c ∈ ("# c: d".toList.dropWhile isBlank).head?, c = '#') ∧
    read .document (openText ++ "# c: d" ++ "\n" ++ "\n- b") =
      .ok [(.text "name", .text "x"), (.text "tools", Value.texts ["a", "b"])] :=
  have comment : ∀ c ∈ ("# c: d".toList.dropWhile isBlank).head?, c = '#' :=
    fun _ first => (Option.some.inj first).symm
  ⟨by decide, by decide, comment,
    (read_insert_comment .document "\n- b" (by decide) (by decide) comment).trans rfl⟩

end EditorPlugins.Frontmatter
