import EditorPlugins.Frontmatter.Writer
import EditorPlugins.Proofs.Text.Lines
import EditorPlugins.Proofs.Text.Trim

/-! # Quoted texts

A quoted text is read as the text it quotes, whatever characters the text has. Line breaks are
escaped, so it stays on one line.
-/

namespace EditorPlugins.Frontmatter

open Text Number

/-- A line break is escaped by its number, and the number stands for it. -/
theorem numberedChar_hexDigits {c : Char} (isBreak : isLineBreak c = true) :
    numberedChar (hexDigits 4 c.toNat) = [c] := by
  have known : c.toNat = 0x0A ∨ c.toNat = 0x0B ∨ c.toNat = 0x0C ∨ c.toNat = 0x0D ∨
      c.toNat = 0x1C ∨ c.toNat = 0x1D ∨ c.toNat = 0x1E ∨ c.toNat = 0x85 ∨ c.toNat = 0x2028 ∨
      c.toNat = 0x2029 := by
    simp only [isLineBreak, Bool.or_eq_true, Bool.and_eq_true, decide_eq_true_eq, beq_iff_eq]
      at isBreak
    omega
  rw [← Char.ofNat_toNat c]
  rcases known with n | n | n | n | n | n | n | n | n | n <;> rw [n] <;> rfl

private theorem unescape_cons {c : Char} (cs : List Char) (plain : c ≠ '\\') :
    unescape (c :: cs) = c :: unescape cs := by
  rw [unescape.eq_def]
  split <;> simp_all

/-- Reading undoes the escape of a character. -/
theorem unescape_quotedChar (c : Char) (rest : List Char) :
    unescape (quotedChar c ++ rest) = c :: unescape rest := by
  unfold quotedChar
  split
  · next same => subst same; rfl
  split
  · next same => subst same; rfl
  split
  · next same => subst same; rfl
  split
  · next same => subst same; rfl
  split
  · next isBreak =>
    have read := numberedChar_hexDigits isBreak
    simp only [hexDigits, List.nil_append, List.cons_append] at read ⊢
    rw [unescape, read]
    rfl
  · next notBackslash _ _ _ _ => exact unescape_cons rest notBackslash

private theorem unescape_flatMap_quotedChar (cs : List Char) :
    unescape (cs.flatMap quotedChar) = cs := by
  induction cs with
  | nil => rfl
  | cons c cs ih => rw [List.flatMap_cons, unescape_quotedChar, ih]

theorem between?_quoted (quote : Char) (inner : List Char) :
    between? quote (quote :: inner ++ [quote]) = some inner := by
  simp [between?]

/-- A quoted text is read as the text. -/
theorem unquote?_quoted (cs : List Char) : unquote? (quoted cs) = some cs := by
  rw [unquote?, quoted, between?_quoted]
  exact congrArg some (unescape_flatMap_quotedChar cs)

/-- What holds of all digits holds of every character of a number. -/
theorem forall_mem_hexDigits {holds : Char → Prop} (each : ∀ digit < 16, holds (hexChar digit))
    (width n : Nat) : ∀ c ∈ hexDigits width n, holds c := by
  induction width generalizing n with
  | zero => exact fun _ absent => absurd absent List.not_mem_nil
  | succ width ih =>
    intro c member
    rcases List.mem_append.mp member with before | last
    · exact ih (n / 16) c before
    · obtain rfl := List.mem_singleton.mp last
      exact each _ (Nat.mod_lt n (by decide))

private theorem isLineBreak_hexChar : ∀ digit < 16, isLineBreak (hexChar digit) = false := by
  decide

private theorem isOneLine_hexDigits (width n : Nat) : IsOneLine (hexDigits width n) :=
  forall_mem_hexDigits isLineBreak_hexChar width n

theorem isOneLine_quotedChar (c : Char) : IsOneLine (quotedChar c) := by
  unfold quotedChar
  split
  · decide
  split
  · decide
  split
  · decide
  split
  · decide
  split
  · exact ((isOneLine_hexDigits 4 c.toNat).cons (by decide)).cons (by decide)
  · next plain => exact List.forall_mem_singleton.mpr (Bool.eq_false_iff.mpr plain)

/-- Quotes keep a text on one line. -/
theorem isOneLine_quoted (cs : List Char) : IsOneLine (quoted cs) := by
  have inner : IsOneLine (cs.flatMap quotedChar) := by
    intro c member
    obtain ⟨source, -, present⟩ := List.mem_flatMap.mp member
    exact isOneLine_quotedChar source c present
  exact (inner.cons (by decide)).append (List.forall_mem_singleton.mpr (by decide))

theorem trim_quoted (cs : List Char) : trim (quoted cs) = quoted cs :=
  trim_enclosed _ (by decide) (by decide)

end EditorPlugins.Frontmatter
