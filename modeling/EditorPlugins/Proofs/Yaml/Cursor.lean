import EditorPlugins.Yaml.Cursor

/-! # Cursors that move along a line

Stepping over characters that end no line stays on the line and never goes back; behind a feed a
cursor is at the start of the next line.
-/

namespace EditorPlugins.Yaml

/-- Characters that end no line. -/
def InLine (cs : List Char) : Prop := ∀ c ∈ cs, isBreak c = false

theorem InLine.append {first second : List Char} (one : InLine first) (two : InLine second) :
    InLine (first ++ second) :=
  List.forall_mem_append.mpr ⟨one, two⟩

namespace Cursor

/-- A cursor behind some characters on its own line. -/
structure Along (cursor : Cursor) (word rest : List Char) (next : Cursor) : Prop where
  rest : next.rest = rest
  index : next.index = cursor.index + word.length
  line : next.line = cursor.line
  column : cursor.column ≤ next.column

variable {cursor next : Cursor} {word rest : List Char} {c : Char}

theorem Along.trans {later : Cursor} {more others : List Char} (first : Along cursor word rest next)
    (second : Along next more others later) : Along cursor (word ++ more) others later where
  rest := second.rest
  index := by rw [second.index, first.index, List.length_append, Nat.add_assoc]
  line := second.line.trans first.line
  column := Nat.le_trans first.column second.column

private theorem step_of_cons (shape : cursor.rest = c :: rest) (inLine : isBreak c = false) :
    cursor.step = ⟨rest, cursor.index + 1, cursor.line,
      if c = '\uFEFF' then cursor.column else cursor.column + 1⟩ := by
  simp only [step, shape, inLine, Bool.false_and, Bool.false_eq_true, if_false, beq_iff_eq]
  split <;> rfl

theorem along_step (shape : cursor.rest = c :: rest) (inLine : isBreak c = false) :
    Along cursor [c] rest cursor.step := by
  rw [step_of_cons shape inLine]
  refine ⟨rfl, rfl, rfl, ?_⟩
  dsimp only
  split <;> omega

/-- Only the byte order mark takes no column. -/
theorem column_step (shape : cursor.rest = c :: rest) (inLine : isBreak c = false)
    (mark : c ≠ '\uFEFF') : cursor.step.column = cursor.column + 1 := by
  rw [step_of_cons shape inLine, if_neg mark]

theorem step_feed (shape : cursor.rest = '\n' :: rest) :
    cursor.step = ⟨rest, cursor.index + 1, cursor.line + 1, 0⟩ := by
  rw [step, shape]
  rfl

/-- Steps over characters of one line. -/
theorem along_skip (shape : cursor.rest = word ++ rest) (inLine : InLine word) :
    Along cursor word rest (cursor.skip word.length) := by
  induction word generalizing cursor with
  | nil => exact ⟨shape, rfl, rfl, Nat.le_refl _⟩
  | cons c word ih =>
    obtain ⟨first, later⟩ := List.forall_mem_cons.mp inLine
    have one := along_step shape first
    exact one.trans (ih one.rest later)

theorem skip_add (cursor : Cursor) (first second : Nat) :
    cursor.skip (first + second) = (cursor.skip first).skip second := by
  induction first generalizing cursor with
  | zero => rw [Nat.zero_add]; rfl
  | succ first ih => rw [Nat.add_right_comm]; exact ih cursor.step

theorem head_of_cons (shape : cursor.rest = c :: rest) : cursor.head = c := by
  rw [head, shape]
  rfl

theorem takeWhile_eq (keep : Char → Bool) (word : List Char) (shape : cursor.rest = word ++ rest)
    (kept : ∀ c ∈ word, keep c = true) (stops : ∀ c ∈ rest.head?, keep c = false) :
    cursor.takeWhile keep = (word, cursor.skip word.length) := by
  have taken : cursor.rest.takeWhile keep = word := by
    rw [shape, List.takeWhile_append_of_pos kept]
    cases rest with
    | nil => simp
    | cons c rest => simp [stops c rfl]
  rw [takeWhile, taken]

theorem dropWhile_eq (drop : Char → Bool) (word : List Char) (shape : cursor.rest = word ++ rest)
    (dropped : ∀ c ∈ word, drop c = true) (stops : ∀ c ∈ rest.head?, drop c = false) :
    cursor.dropWhile drop = cursor.skip word.length := by
  rw [dropWhile, takeWhile_eq drop word shape dropped stops]

theorem head_of_nil (shape : cursor.rest = []) : cursor.head = endMark := by
  rw [head, shape]
  rfl

theorem dropWhile_of_head {drop : Char → Bool} (keep : drop cursor.head = false) :
    cursor.dropWhile drop = cursor := by
  cases shape : cursor.rest with
  | nil => exact dropWhile_eq drop [] shape nofun nofun
  | cons c rest =>
    rw [head_of_cons shape] at keep
    refine dropWhile_eq drop [] shape nofun ?_
    rintro _ ⟨⟩
    exact keep

/-- Two spaces in front of the content of a line. -/
theorem dropWhile_indent (shape : cursor.rest = ' ' :: ' ' :: c :: rest) (content : c ≠ ' ')
    (start : cursor.column = 0) :
    cursor.dropWhile (· == ' ') = cursor.skip 2 ∧ (cursor.skip 2).rest = c :: rest ∧
      (cursor.skip 2).column = 2 ∧ (cursor.skip 2).line = cursor.line := by
  have one := along_step shape rfl
  have two := along_step one.rest rfl
  refine ⟨?_, two.rest, ?_, two.line.trans one.line⟩
  · exact dropWhile_eq _ [' ', ' '] shape (by simp) (by simpa using content)
  · rw [skip, skip, skip, column_step one.rest rfl (by decide), column_step shape rfl (by decide),
      start]

theorem lineBreak_feed (shape : cursor.rest = '\n' :: rest) :
    cursor.lineBreak = (['\n'], cursor.step) := by
  rw [lineBreak, shape]
  rfl

/-- A separator starts with its mark. -/
theorem startsMarker_eq_false {mark : Char} (differs : cursor.head ≠ mark) :
    cursor.startsMarker mark = false := by
  cases shape : cursor.rest with
  | nil => simp [startsMarker, shape]
  | cons c rest =>
    rw [head_of_cons shape] at differs
    simp [startsMarker, shape, List.isPrefixOf, differs.symm]

theorem startsSeparator_eq_false (dash : cursor.head ≠ '-') (point : cursor.head ≠ '.') :
    cursor.startsSeparator = false := by
  rw [startsSeparator, startsMarker_eq_false dash, startsMarker_eq_false point]
  rfl

end Cursor

end EditorPlugins.Yaml
