import EditorPlugins.Text.Basic
import Mathlib.Data.List.TakeWhile

/-! # Trimming and cutting

A text is trimmed exactly when it neither starts nor ends with a blank, and whatever blanks stand
before such a text fall away. Cutting at a character finds its first occurrence, so a text without
the character can be put in front of it and is cut off again.
-/

namespace EditorPlugins.Text

private theorem dropWhile_eq_self {drop : Char → Bool} {cs : List Char}
    (keep : ∀ c ∈ cs.head?, drop c = false) : cs.dropWhile drop = cs := by
  cases cs with
  | nil => rfl
  | cons c cs => simp [keep c rfl]

theorem dropEndWhile_cons_of_keep (drop : Char → Bool) {c : Char} (cs : List Char)
    (keep : drop c = false) : dropEndWhile drop (c :: cs) = c :: dropEndWhile drop cs := by
  rw [dropEndWhile, List.reverse_cons, List.dropWhile_append]
  split
  · next dropped =>
    simp [dropEndWhile, keep, List.isEmpty_iff.mp dropped]
  · simp [dropEndWhile]

/-- What is dropped at the end stood there, and all of it is to be dropped. -/
theorem exists_dropped (drop : Char → Bool) (cs : List Char) :
    ∃ dropped, dropEndWhile drop cs ++ dropped = cs ∧ ∀ c ∈ dropped, drop c = true := by
  refine ⟨(cs.reverse.takeWhile drop).reverse, ?_, fun c member => ?_⟩
  · rw [dropEndWhile, ← List.reverse_append, List.takeWhile_append_dropWhile, List.reverse_reverse]
  · exact List.all_eq_true.mp List.all_takeWhile c (List.mem_reverse.mp member)

theorem isPrefix_dropEndWhile (drop : Char → Bool) (cs : List Char) :
    dropEndWhile drop cs <+: cs := by
  obtain ⟨dropped, whole, -⟩ := exists_dropped drop cs
  exact ⟨dropped, whole⟩

/-- Where something is kept behind a text, nothing of the text is dropped. -/
theorem dropEndWhile_append {drop : Char → Bool} {cs : List Char} (before : List Char)
    (kept : dropEndWhile drop cs ≠ []) :
    dropEndWhile drop (before ++ cs) = before ++ dropEndWhile drop cs := by
  have some : ¬(cs.reverse.dropWhile drop).isEmpty := by
    rw [List.isEmpty_iff]
    exact fun none => kept (by rw [dropEndWhile, none, List.reverse_nil])
  rw [dropEndWhile, List.reverse_append, List.dropWhile_append, if_neg some, List.reverse_append,
    List.reverse_reverse]
  rfl

private theorem length_dropEndWhile_le (drop : Char → Bool) (cs : List Char) :
    (dropEndWhile drop cs).length ≤ cs.length :=
  (isPrefix_dropEndWhile drop cs).length_le

theorem length_trim_le (cs : List Char) : (trim cs).length ≤ cs.length :=
  Nat.le_trans (length_dropEndWhile_le isBlank _) (List.dropWhile_sublist isBlank).length_le

theorem trim_cons_blank {c : Char} (cs : List Char) (blank : isBlank c = true) :
    trim (c :: cs) = trim cs := by
  simp [trim, trimStart, blank]

private theorem head?_of_trim_eq_self {cs : List Char} (trimmed : trim cs = cs) :
    ∀ c ∈ cs.head?, isBlank c = false := by
  intro c first
  obtain ⟨rest, rfl⟩ := List.head?_eq_some_iff.mp first
  apply Bool.eq_false_iff.mpr
  intro blank
  rw [trim_cons_blank rest blank] at trimmed
  have shorter := length_trim_le rest
  rw [trimmed, List.length_cons] at shorter
  omega

private theorem getLast?_of_trim_eq_self {cs : List Char} (trimmed : trim cs = cs) :
    ∀ c ∈ cs.getLast?, isBlank c = false := by
  intro c last
  have start : trimStart cs = cs := dropWhile_eq_self (head?_of_trim_eq_self trimmed)
  rw [trim, start, trimEnd] at trimmed
  obtain ⟨before, rfl⟩ := List.getLast?_eq_some_iff.mp last
  apply Bool.eq_false_iff.mpr
  intro blank
  rw [dropEndWhile_append_of_drop isBlank before blank] at trimmed
  have shorter := length_dropEndWhile_le isBlank before
  rw [trimmed, List.length_append, List.length_singleton] at shorter
  omega

/-- A text is trimmed when no blank stands at either end. -/
theorem trim_eq_self_iff {cs : List Char} : trim cs = cs ↔
    (∀ c ∈ cs.head?, isBlank c = false) ∧ (∀ c ∈ cs.getLast?, isBlank c = false) := by
  constructor
  · intro trimmed
    exact ⟨head?_of_trim_eq_self trimmed, getLast?_of_trim_eq_self trimmed⟩
  · rintro ⟨first, last⟩
    rw [trim, trimStart, dropWhile_eq_self first, trimEnd, dropEndWhile, dropWhile_eq_self,
      List.reverse_reverse]
    simpa only [List.head?_reverse] using last

theorem keep_of_head?_dropWhile {drop : Char → Bool} {cs : List Char} :
    ∀ c ∈ (cs.dropWhile drop).head?, drop c = false := by
  intro c first
  have kept := List.head?_dropWhile_not drop cs
  rwa [Option.mem_def.mp first] at kept

/-- What is dropped at the end leaves nothing there that is to be dropped. -/
theorem keep_of_getLast?_dropEndWhile {drop : Char → Bool} {cs : List Char} :
    ∀ c ∈ (dropEndWhile drop cs).getLast?, drop c = false := by
  intro c last
  rw [dropEndWhile, List.getLast?_reverse] at last
  exact keep_of_head?_dropWhile c last

@[simp] theorem trim_trim (cs : List Char) : trim (trim cs) = trim cs := by
  rw [trim_eq_self_iff]
  constructor
  · intro c first
    obtain ⟨rest, whole⟩ := isPrefix_dropEndWhile isBlank (trimStart cs)
    refine keep_of_head?_dropWhile c (?_ : (trimStart cs).head? = some c)
    rw [← whole, List.head?_append, ← trimEnd, ← trim, Option.mem_def.mp first, Option.some_or]
  · exact keep_of_getLast?_dropEndWhile

/-- A character that is no blank stays in front. -/
theorem trim_cons_of_keep {c : Char} (cs : List Char) (keep : isBlank c = false) :
    trim (c :: cs) = c :: trimEnd cs := by
  rw [trim, trimStart, dropWhile_eq_self (by simpa using keep), trimEnd,
    dropEndWhile_cons_of_keep isBlank cs keep, trimEnd]

/-- A trimmed text stays trimmed when something that starts without a blank is put in front. -/
theorem trim_cons_append {c : Char} {form : List Char} (before : List Char)
    (keep : isBlank c = false) (nonempty : form ≠ []) (trimmed : trim form = form) :
    trim (c :: before ++ form) = c :: before ++ form := by
  have last : (c :: before ++ form).getLast? = form.getLast? := by
    rw [List.getLast?_append, List.getLast?_eq_some_getLast nonempty, Option.some_or]
  rw [trim_eq_self_iff, last]
  exact ⟨by simpa using keep, (trim_eq_self_iff.mp trimmed).2⟩

/-- Characters that are no blanks keep what stands between them. -/
theorem trim_enclosed {first last : Char} (inner : List Char) (opens : isBlank first = false)
    (closes : isBlank last = false) : trim (first :: inner ++ [last]) = first :: inner ++ [last] :=
  trim_cons_append inner opens (List.cons_ne_nil _ _)
    (trim_eq_self_iff.mpr ⟨by simpa using closes, by simpa using closes⟩)

/-- Nothing goes at the start where a trimmed text stands there. -/
theorem trimStart_append {cs : List Char} (more : List Char) (nonempty : cs ≠ [])
    (trimmed : trim cs = cs) : trimStart (cs ++ more) = cs ++ more := by
  obtain ⟨c, cs, rfl⟩ := List.exists_cons_of_ne_nil nonempty
  have plain : isBlank c = false := (trim_eq_self_iff.mp trimmed).1 c rfl
  simp [trimStart, plain]

/-- A blank at the end goes. -/
theorem trim_append_blank {cs : List Char} {c : Char} (nonempty : cs ≠ []) (trimmed : trim cs = cs)
    (blank : isBlank c = true) : trim (cs ++ [c]) = cs := by
  have start := trimStart_append [] nonempty trimmed
  rw [List.append_nil] at start
  rw [trim, start] at trimmed
  rw [trim, trimStart_append _ nonempty (by rwa [trim, start]), trimEnd,
    dropEndWhile_append_of_drop isBlank cs blank]
  exact trimmed

/-- A text that does not end in a blank is only trimmed at its start. -/
theorem trim_of_unblank {cs : List Char} (unblank : ∀ c ∈ cs.getLast?, isBlank c = false) :
    trim cs = trimStart cs := by
  have whole : cs.takeWhile isBlank ++ trimStart cs = cs := List.takeWhile_append_dropWhile
  rw [trim, trimEnd, dropEndWhile, dropWhile_eq_self, List.reverse_reverse]
  intro c last
  rw [List.head?_reverse] at last
  refine unblank c ?_
  rw [← whole, List.getLast?_append, Option.mem_def.mp last, Option.some_or]
  rfl

/-- Nothing is trimmed of what follows a text that has more than blanks, if it has no blank at its
end. -/
theorem trim_append {cs more : List Char} (nonempty : trimStart cs ≠ []) (also : more ≠ [])
    (unblank : ∀ c ∈ more.getLast?, isBlank c = false) :
    trim (cs ++ more) = trimStart cs ++ more := by
  rw [trim_of_unblank, trimStart, List.dropWhile_append, if_neg]
  · rfl
  · rwa [List.isEmpty_iff]
  · rw [List.getLast?_append, List.getLast?_eq_some_getLast also, Option.some_or,
      ← List.getLast?_eq_some_getLast also]
    exact unblank

/-- The blanks at the start go with everything before what is kept. -/
theorem trim_blank_append {cs : List Char} (more : List Char) (blank : trimStart cs = []) :
    trim (cs ++ more) = trim more := by
  rw [trimStart] at blank
  rw [trim, trimStart, List.dropWhile_append, if_pos (List.isEmpty_iff.mpr blank)]
  rfl

/-- What starts with something that is kept is trimmed at its end alone, behind a text that does so
too. -/
theorem trim_append_of_kept {c : Char} {more : List Char} (cs : List Char)
    (keep : isBlank c = false) (starts : ∃ d ∈ more.head?, isBlank d = false) :
    trim (c :: cs ++ more) = c :: cs ++ trim more := by
  obtain ⟨d, start, kept⟩ := starts
  obtain ⟨rest, rfl⟩ := List.head?_eq_some_iff.mp start
  have some : dropEndWhile isBlank (d :: rest) ≠ [] := by
    rw [dropEndWhile_cons_of_keep isBlank rest kept]
    exact List.cons_ne_nil _ _
  rw [List.cons_append, trim_cons_of_keep _ keep, trim_cons_of_keep _ kept, trimEnd,
    dropEndWhile_append cs some, dropEndWhile_cons_of_keep isBlank rest kept]
  rfl

/-- Trimming leaves nothing of blanks alone. -/
theorem isBlankText_of_trim {cs form : List Char} (nonempty : form ≠ []) (trimmed : trim cs = form) :
    isBlankText cs = false := by
  apply Bool.eq_false_iff.mpr
  intro blank
  have nothing : trimStart cs = [] := List.dropWhile_eq_nil_iff.mpr (List.all_eq_true.mp blank)
  rw [trim, nothing] at trimmed
  exact nonempty trimmed.symm

theorem cutAt_of_not_mem {sep : Char} {cs : List Char} (absent : sep ∉ cs) :
    cutAt sep cs = (cs, none) := by
  induction cs with
  | nil => rfl
  | cons c cs ih =>
    simp only [List.mem_cons, not_or] at absent
    simp [cutAt, Ne.symm absent.1, ih absent.2]

/-- Cutting takes a text without the separator off again. -/
theorem cutAt_append {sep : Char} {before : List Char} (after : List Char)
    (absent : sep ∉ before) : cutAt sep (before ++ sep :: after) = (before, some after) := by
  induction before with
  | nil => simp [cutAt]
  | cons c before ih =>
    simp only [List.mem_cons, not_or] at absent
    simp [cutAt, Ne.symm absent.1, ih absent.2]

theorem eq_append_of_cutAt {sep : Char} {cs before after : List Char}
    (cut : cutAt sep cs = (before, some after)) : cs = before ++ sep :: after := by
  induction cs generalizing before with
  | nil => simp [cutAt] at cut
  | cons c cs ih =>
    by_cases same : c = sep
    · simp only [cutAt, if_pos same, Prod.mk.injEq, Option.some.injEq] at cut
      rw [← cut.1, ← cut.2, same, List.nil_append]
    · simp only [cutAt, if_neg same, Prod.mk.injEq] at cut
      rw [← cut.1, List.cons_append, ← ih (Prod.ext rfl cut.2)]

end EditorPlugins.Text
