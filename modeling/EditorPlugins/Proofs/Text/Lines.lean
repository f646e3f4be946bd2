import EditorPlugins.Proofs.Text.Pieces
import EditorPlugins.Text.Lines

/-! # Lines that are written one by one

A text without line breaks that a feed follows is a line of its own, whatever comes after the feed.
So lines that are written with feeds behind them are read back one by one.
-/

namespace EditorPlugins.Text

/-- A text without line breaks. -/
def IsOneLine (cs : List Char) : Prop := ∀ c ∈ cs, isLineBreak c = false

instance : DecidablePred IsOneLine := fun cs => List.decidableBAll (isLineBreak · = false) cs

namespace IsOneLine

variable {cs more : List Char}

theorem append (first : IsOneLine cs) (second : IsOneLine more) : IsOneLine (cs ++ more) :=
  List.forall_mem_append.mpr ⟨first, second⟩

theorem cons {c : Char} (plain : isLineBreak c = false) (rest : IsOneLine cs) :
    IsOneLine (c :: cs) :=
  List.forall_mem_cons.mpr ⟨plain, rest⟩

end IsOneLine

def written (ls : List (List Char)) : List Char := ls.flatMap (· ++ ['\n'])

theorem written_cons (line : List Char) (ls : List (List Char)) :
    written (line :: ls) = line ++ '\n' :: written ls := by
  simp [written]

theorem written_append (ls more : List (List Char)) :
    written (ls ++ more) = written ls ++ written more :=
  List.flatMap_append

theorem lines_cons {c : Char} (cs : List Char) (plain : isLineBreak c = false) :
    lines (c :: cs) = consLine c (lines cs) := by
  rw [lines, plain]
  · rfl
  · rintro rest rfl
    cases plain

theorem lines_append_feed {line : List Char} (rest : List Char) (oneLine : IsOneLine line) :
    lines (line ++ '\n' :: rest) = ⟨line, ['\n']⟩ :: lines rest := by
  induction line with
  | nil => rfl
  | cons c line ih =>
    obtain ⟨plain, later⟩ := List.forall_mem_cons.mp oneLine
    rw [List.cons_append, lines_cons _ plain, ih later]
    rfl

/-- Written lines are read back, and what follows them is read on its own. -/
theorem lines_written_append {ls : List (List Char)} (rest : List Char)
    (oneLine : ∀ line ∈ ls, IsOneLine line) :
    lines (written ls ++ rest) = ls.map (⟨·, ['\n']⟩) ++ lines rest := by
  induction ls with
  | nil => rfl
  | cons line ls ih =>
    obtain ⟨first, later⟩ := List.forall_mem_cons.mp oneLine
    rw [written, List.flatMap_cons, List.append_assoc, List.append_assoc]
    change lines (line ++ '\n' :: (written ls ++ rest)) = _
    rw [lines_append_feed _ first, ih later]
    rfl

theorem lineBodies_written {ls : List (List Char)} (oneLine : ∀ line ∈ ls, IsOneLine line) :
    lineBodies (written ls) = ls := by
  have read := lines_written_append [] oneLine
  rw [List.append_nil] at read
  rw [lineBodies, read, lines, List.append_nil, List.map_map]
  exact List.map_id ls

/-- Lines one below the other; a feed may follow the last of them. -/
def stacked (closed : Bool) (ls : List (List Char)) : List Char :=
  joinWith ['\n'] ls ++ if closed then ['\n'] else []

private theorem lines_of_oneLine {line : List Char} (nonempty : line ≠ [])
    (oneLine : IsOneLine line) :
    lines line = [⟨line, []⟩] := by
  induction line with
  | nil => exact absurd rfl nonempty
  | cons c line ih =>
    obtain ⟨plain, later⟩ := List.forall_mem_cons.mp oneLine
    rw [lines_cons _ plain]
    cases line with
    | nil => rfl
    | cons next line =>
      rw [ih (List.cons_ne_nil _ _) later]
      rfl

/-- Lines that are not empty are read back, whether the last one is closed or not. -/
theorem lineBodies_stacked (closed : Bool) {ls : List (List Char)} (some : ls ≠ [])
    (each : ∀ line ∈ ls, line ≠ [] ∧ IsOneLine line) : lineBodies (stacked closed ls) = ls := by
  induction ls with
  | nil => exact absurd rfl some
  | cons line ls ih =>
    obtain ⟨⟨nonempty, oneLine⟩, later⟩ := List.forall_mem_cons.mp each
    by_cases last : ls = []
    · rw [last, stacked, joinWith]
      cases closed with
      | false =>
        simp [lineBodies, lines_of_oneLine nonempty oneLine]
      | true =>
        simp [lineBodies, lines_append_feed [] oneLine, lines]
    · have split : stacked closed (line :: ls) = line ++ '\n' :: stacked closed ls := by
        simp [stacked, joinWith_cons _ _ last]
      rw [split, lineBodies, lines_append_feed _ oneLine, List.map_cons, ← lineBodies,
        ih last later]

end EditorPlugins.Text
