import EditorPlugins.Frontmatter.Envelope
import EditorPlugins.Proofs.Frontmatter.Written

/-! # What frontmatter is read as

Whatever a text holds, the map that is read from it has distinct keys, and its values are nothing,
values of one line, or maps of such values. Every line keeps the state of the reader so.
-/

namespace EditorPlugins.Frontmatter

open Text Number

/-- The values that reading a line gives. -/
def IsLineOrNull (value : Value) : Prop := value = .null ∨ IsLine value

/-- A map with distinct keys whose values satisfy a condition. -/
structure IsMapOf (accepts : Value → Prop) (entries : Mapping) : Prop where
  distinct : (Entries.keys entries).Nodup
  values : ∀ entry ∈ entries, accepts entry.2

/-- The values that frontmatter can have. -/
inductive IsParsed : Value → Prop where
  | line {value : Value} (line : IsLineOrNull value) : IsParsed value
  | entries {entries : Mapping} (inner : IsMapOf IsLineOrNull entries) : IsParsed (.map entries)

namespace IsMapOf

variable {accepts : Value → Prop}

theorem nil : IsMapOf accepts [] := ⟨List.nodup_nil, fun _ absent => absurd absent List.not_mem_nil⟩

theorem setField {entries : Mapping} (ofEntries : IsMapOf accepts entries) (key : String)
    {value : Value} (accepted : accepts value) :
    IsMapOf accepts (Mapping.setField entries key value) := by
  refine ⟨Entries.nodup_keys_set ofEntries.distinct _ value, fun entry member => ?_⟩
  rcases Entries.mem_set member with old | rfl
  · exact ofEntries.values entry old
  · exact accepted

end IsMapOf

private theorem isLineOrNull_of_plainValue {cs : List Char} {value : Value}
    (read : plainValue cs = .ok value) : IsLineOrNull value := by
  simp only [plainValue] at read
  split at read
  · cases read
    exact .inr (.bool true)
  split at read
  · cases read
    exact .inr (.bool false)
  split at read
  · cases read
    exact .inl rfl
  split at read
  · obtain ⟨n, -, rfl⟩ := Outcome.map_eq_ok_iff.mp read
    exact .inr (.int n)
  · cases read
    exact .inr (.float _)
  · cases read
    exact .inr (.text _)

private theorem isLineOrNull_of_readScalar {typing : Typing} {cs : List Char} {value : Value}
    (read : readScalar typing cs = .ok value) : IsLineOrNull value := by
  simp only [readScalar] at read
  split at read
  · cases read
    exact .inr (.texts _)
  split at read
  · cases read
    exact .inr (.text _)
  cases typing with
  | texts =>
    cases read
    exact .inr (.text _)
  | typed => exact isLineOrNull_of_plainValue read

/-- What the reader has between lines: a map of values that frontmatter can have, and an open block
of such a value. -/
structure Reading.IsSound (reading : Reading) : Prop where
  read : IsMapOf IsParsed reading.read
  pending : ∀ key block, reading.pending = some (key, block) → IsParsed block.value

namespace Reading.IsSound

theorem start : Reading.start.IsSound := ⟨.nil, fun _ _ none => nomatch none⟩

theorem close {reading : Reading} (sound : reading.IsSound) : reading.close.IsSound := by
  unfold Reading.close
  split
  · exact sound
  · next key block open_ =>
    exact ⟨sound.read.setField key (sound.pending key block open_), fun _ _ none => nomatch none⟩

end Reading.IsSound

private theorem isSound_of_readTop {dialect : Dialect} {reading next : Reading} {line : List Char}
    (sound : reading.IsSound) (step : readTop dialect reading line = .ok next) : next.IsSound := by
  unfold readTop at step
  split at step
  · cases step
    exact sound
  split at step
  · cases step
    exact sound
  next before after _ =>
  simp only at step
  split at step
  · cases step
    exact sound
  split at step
  · cases step
    refine ⟨sound.read, fun key block opened => ?_⟩
    cases opened
    exact .line (.inl rfl)
  · simp only [Outcome.bind_eq_ok_iff, Outcome.pure_eq_ok_iff] at step
    obtain ⟨value, read, rfl⟩ := step
    refine ⟨sound.read.setField _ (.line (isLineOrNull_of_readScalar read)), fun _ _ none => ?_⟩
    cases none

private theorem isParsed_of_addedItem {block added : Block} {line : List Char}
    (step : block.addItem? line = some added) : IsParsed added.value := by
  unfold Block.addItem? at step
  split at step <;> cases step <;> exact .line (.inr (.texts _))

theorem IsParsed.inner {entries : Mapping} (parsed : IsParsed (.map entries)) :
    IsMapOf IsLineOrNull entries := by
  cases parsed with
  | line line =>
    rcases line with same | line
    · cases same
    · cases line
  | entries inner => exact inner

private theorem isParsed_of_addedEntry {typing : Typing} {block added : Block}
    {before after : List Char}
    (parsed : IsParsed block.value)
    (step : block.addEntry? typing before after = some (.ok added)) : IsParsed added.value := by
  have extended {written : Mapping} (inner : IsMapOf IsLineOrNull written)
      (step : (if isBlankText before then .ok (.entries written) else do
        let value ← readScalar typing after
        return .entries (Mapping.setField written (String.ofList (itemText before)) value)) =
          Except.ok added) : IsParsed added.value := by
    split at step
    · cases step
      exact .entries inner
    · simp only [Outcome.bind_eq_ok_iff, Outcome.pure_eq_ok_iff] at step
      obtain ⟨value, read, rfl⟩ := step
      exact .entries (inner.setField _ (isLineOrNull_of_readScalar read))
  cases block with
  | undecided => exact extended .nil (Option.some.inj step)
  | entries written => exact extended parsed.inner (Option.some.inj step)
  | items written => cases step

private theorem isSound_of_readBelow {dialect : Dialect} {reading next : Reading} {key : String}
    {block : Block} {line : List Char} (sound : reading.IsSound)
    (opened : reading.pending = some (key, block))
    (step : readBelow dialect reading key block line = .ok next) : next.IsSound := by
  have withBlock {added : Block} (parsed : IsParsed added.value) :
      Reading.IsSound ⟨reading.read, some (key, added)⟩ := by
    refine ⟨sound.read, fun _ _ same => ?_⟩
    cases same
    exact parsed
  unfold readBelow at step
  simp only at step
  split at step
  · exact isSound_of_readTop sound.close step
  split at step
  · split at step
    · next added =>
      cases step
      exact withBlock (isParsed_of_addedItem added)
    · cases step
      exact sound.close
  split at step
  · cases step
    exact sound
  split at step
  · next added =>
    obtain ⟨block, rfl, rfl⟩ := Outcome.map_eq_ok_iff.mp step
    exact withBlock (isParsed_of_addedEntry (sound.pending _ _ opened) added)
  · cases step
    exact sound.close

/-- Reading a line keeps the state sound. -/
theorem isSound_of_readLine {dialect : Dialect} {reading next : Reading} {line : List Char}
    (sound : reading.IsSound) (step : readLine dialect reading line = .ok next) :
    next.IsSound := by
  unfold readLine at step
  split at step
  · cases step
    exact sound
  split at step
  · exact isSound_of_readTop sound step
  · next key block opened => exact isSound_of_readBelow sound opened step

/-- Reading lines keeps the state sound. -/
theorem isSound_of_readLines {dialect : Dialect} {reading last : Reading}
    {lines : List (List Char)} (sound : reading.IsSound)
    (run : readLines dialect reading lines = .ok last) : last.IsSound := by
  induction lines generalizing reading with
  | nil =>
    cases run
    exact sound
  | cons line lines ih =>
    rw [readLines, List.foldlM_cons, Outcome.bind_eq_ok_iff] at run
    obtain ⟨next, step, run⟩ := run
    exact ih (isSound_of_readLine sound step) run

private theorem isMapOf_of_readMapping {dialect : Dialect} {lines : List (List Char)}
    {data : Mapping}
    (run : readMapping dialect lines = .ok data) : IsMapOf IsParsed data := by
  simp only [readMapping, Outcome.map_eq_ok_iff] at run
  obtain ⟨last, run, rfl⟩ := run
  exact (isSound_of_readLines .start run).close.read

/-- The frontmatter of every document has distinct keys and values that can be read. -/
theorem isMapOf_of_split {text : String} {document : Document}
    (read : split text = .ok document) : IsMapOf IsParsed document.frontmatter := by
  unfold split at read
  split at read
  · cases read
    exact .nil
  · simp only [Outcome.bind_eq_ok_iff, Outcome.pure_eq_ok_iff] at read
    obtain ⟨frontmatter, run, rfl⟩ := read
    exact isMapOf_of_readMapping run

end EditorPlugins.Frontmatter
