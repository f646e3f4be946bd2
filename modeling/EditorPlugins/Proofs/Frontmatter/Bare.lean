import EditorPlugins.Frontmatter.Envelope
import EditorPlugins.Proofs.Entries
import EditorPlugins.Proofs.Outcome

/-! # Documents without frontmatter

Reading gives an empty map just when no line opens an entry. Once one does, the map or the open
block holds its key, and no later line takes it away. So a text has no frontmatter unless it starts
with an envelope that holds such a line.
-/

namespace EditorPlugins.Frontmatter

open Text Number

/-- A line that opens an entry: it starts at the left, is no item, and has a key before a colon. -/
structure OpensEntry (line : List Char) : Prop where
  meaning : isSkippable line = false
  outer : isIndented line = false
  notItem : line.head? ≠ some '-'
  keyed : ∃ before after, cutAt ':' line = (before, some after) ∧ itemText before ≠ []

private theorem setField_ne_nil (entries : Mapping) (key : String) (value : Value) :
    Mapping.setField entries key value ≠ [] := by
  apply List.ne_nil_of_mem
  exact Entries.mem_of_get? (Entries.get?_set_self entries (Scalar.text key) value)

/-- The reader has nothing to give. -/
def Reading.IsBare (reading : Reading) : Prop := reading.close.read = []

theorem Reading.close_close (reading : Reading) : reading.close.close = reading.close := by
  rcases reading with ⟨read, _ | ⟨key, block⟩⟩ <;> rfl

private theorem Reading.not_isBare_pending (read : Mapping) (key : String) (block : Block) :
    ¬Reading.IsBare ⟨read, some (key, block)⟩ := setField_ne_nil _ _ _

private theorem not_isBare_of_readTop {dialect : Dialect} {reading next : Reading}
    {line : List Char}
    (held : ¬reading.IsBare) (step : readTop dialect reading line = .ok next) : ¬next.IsBare := by
  unfold readTop at step
  split at step
  · cases step
    exact held
  split at step
  · cases step
    exact held
  simp only at step
  split at step
  · cases step
    exact held
  split at step
  · cases step
    exact Reading.not_isBare_pending _ _ _
  · simp only [Outcome.bind_eq_ok_iff, Outcome.pure_eq_ok_iff] at step
    obtain ⟨value, -, rfl⟩ := step
    exact setField_ne_nil _ _ _

private theorem not_isBare_of_readBelow {dialect : Dialect} {reading next : Reading} {key : String}
    {block : Block} {line : List Char} (held : ¬reading.IsBare)
    (step : readBelow dialect reading key block line = .ok next) : ¬next.IsBare := by
  have closed : ¬reading.close.IsBare := by rwa [Reading.IsBare, Reading.close_close]
  unfold readBelow at step
  simp only at step
  split at step
  · exact not_isBare_of_readTop closed step
  split at step
  · split at step
    · cases step
      exact Reading.not_isBare_pending _ _ _
    · cases step
      exact closed
  split at step
  · cases step
    exact held
  split at step
  · obtain ⟨_, -, rfl⟩ := Outcome.map_eq_ok_iff.mp step
    exact Reading.not_isBare_pending _ _ _
  · cases step
    exact closed

/-- No line takes away what was read before it. -/
theorem not_isBare_of_readLine {dialect : Dialect} {reading next : Reading} {line : List Char}
    (held : ¬reading.IsBare) (step : readLine dialect reading line = .ok next) : ¬next.IsBare := by
  unfold readLine at step
  split at step
  · cases step
    exact held
  split at step
  · exact not_isBare_of_readTop held step
  · exact not_isBare_of_readBelow held step

private theorem not_isBare_of_readLines {dialect : Dialect} {reading last : Reading}
    {lines : List (List Char)} (held : ¬reading.IsBare)
    (run : readLines dialect reading lines = .ok last) : ¬last.IsBare := by
  induction lines generalizing reading with
  | nil =>
    cases run
    exact held
  | cons line lines ih =>
    rw [readLines, List.foldlM_cons, Outcome.bind_eq_ok_iff] at run
    obtain ⟨next, step, run⟩ := run
    exact ih (not_isBare_of_readLine held step) run

/-- A line that opens no entry means nothing at the start. -/
theorem readLine_start {dialect : Dialect} {line : List Char} (opens : ¬OpensEntry line) :
    readLine dialect .start line = .ok .start := by
  unfold readLine
  split
  · rfl
  next meaning =>
  simp only [Reading.start, readTop]
  split
  · rfl
  next outer =>
  simp only [Bool.or_eq_true, decide_eq_true_eq, not_or, Bool.not_eq_true] at meaning outer
  split
  · rfl
  next before after cut =>
  split
  · rfl
  next filled =>
  exact absurd ⟨meaning, outer.1, outer.2, before, after, cut,
    fun empty => filled (by rw [empty]; rfl)⟩ opens

/-- After a line that opens an entry, there is something to give. -/
theorem not_isBare_of_opensEntry {dialect : Dialect} {next : Reading} {line : List Char}
    (opens : OpensEntry line) (step : readLine dialect .start line = .ok next) : ¬next.IsBare := by
  obtain ⟨meaning, outer, notItem, before, after, cut, filled⟩ := opens
  have named : (itemText before).isEmpty = false := List.isEmpty_eq_false_iff.mpr filled
  simp only [readLine, meaning, Reading.start, readTop, outer, notItem, cut, named,
    Bool.false_eq_true, if_false, Bool.or_false, decide_false] at step
  split at step
  · cases step
    exact Reading.not_isBare_pending _ _ _
  · simp only [Outcome.bind_eq_ok_iff, Outcome.pure_eq_ok_iff] at step
    obtain ⟨value, -, rfl⟩ := step
    exact setField_ne_nil _ _ _

/-- Lines are read as an empty map just when none of them opens an entry. -/
theorem readMapping_eq_nil_iff {dialect : Dialect} {lines : List (List Char)} :
    readMapping dialect lines = .ok [] ↔ ∀ line ∈ lines, ¬OpensEntry line := by
  simp only [readMapping, Outcome.map_eq_ok_iff]
  induction lines with
  | nil => simp [readLines, Reading.start, Reading.close, pure, Except.pure]
  | cons line lines ih =>
    rw [List.forall_mem_cons, ← ih]
    constructor
    · rintro ⟨last, run, bare⟩
      rw [readLines, List.foldlM_cons, Outcome.bind_eq_ok_iff] at run
      obtain ⟨next, step, run⟩ := run
      have idle : ¬OpensEntry line := fun opens =>
        not_isBare_of_readLines (not_isBare_of_opensEntry opens step) run bare
      rw [readLine_start idle] at step
      cases step
      exact ⟨idle, last, run, bare⟩
    · rintro ⟨idle, last, run, bare⟩
      refine ⟨last, ?_, bare⟩
      rw [readLines, List.foldlM_cons, readLine_start idle]
      exact run

/-- A text starts with an envelope that holds a line which opens an entry. -/
def HasFrontmatter (text : String) : Prop :=
  ∃ cut, cut? text.toList = some cut ∧ ∃ line ∈ cut.block, OpensEntry line.body

/-- A text is split into a body alone just when it has no frontmatter. -/
theorem split_bare_iff {text : String} :
    (∃ document, split text = .ok document ∧ document.frontmatter = []) ↔
      ¬HasFrontmatter text := by
  unfold split HasFrontmatter
  cases cut? text.toList with
  | none => simp
  | some cut =>
    have lines := @readMapping_eq_nil_iff .document (cut.block.map Line.body)
    rw [List.forall_mem_map] at lines
    simp only [Option.some.injEq, exists_eq_left', not_exists, not_and, ← lines,
      Outcome.bind_eq_ok_iff, Outcome.pure_eq_ok_iff]
    constructor
    · rintro ⟨_, ⟨frontmatter, read, rfl⟩, rfl⟩
      exact read
    · intro read
      exact ⟨_, ⟨[], read, rfl⟩, rfl⟩

end EditorPlugins.Frontmatter
