import EditorPlugins.Json.Reader
import EditorPlugins.Json.Writer

/-! # Texts between quotes

A text is read as the text that was quoted. Each of its characters is written in a form that is read
as one part, and no part is half of a pair, so putting the parts together changes nothing.
-/

namespace EditorPlugins.Json

/-- The part that the written form of a character is read as. -/
def partOf (c : Char) : Part :=
  if c.toNat < 0x20 ∧ c ≠ '\n' ∧ c ≠ '\r' ∧ c ≠ '\t' ∧ c ≠ '\x08' ∧ c ≠ '\x0c' then .unit c.toNat
  else .char c

private theorem unit?_hexDigits : ∀ n < 0x20,
    unit? (Text.hexChar (n / 16 / 16 / 16 % 16)) (Text.hexChar (n / 16 / 16 % 16))
      (Text.hexChar (n / 16 % 16)) (Text.hexChar (n % 16)) = some n := by
  decide

private theorem readParts_plain (left : Nat) {c : Char} (cs : List Char) (quote : c ≠ '"')
    (backslash : c ≠ '\\') (printed : ¬c.toNat < 0x20) :
    readParts left (c :: cs) = consPart (.char c) (readParts left cs) := by
  rw [readParts, if_neg printed]
  · exact quote
  · exact fun last => absurd last backslash
  · exact fun _ _ _ _ _ same => absurd same backslash
  · exact fun _ same => absurd same backslash
  · exact fun _ _ same => absurd same backslash

/-- The written form of a character is read as its part. Something has to follow, as the closing
quote does. -/
theorem readParts_escapeChar (left : Nat) (c : Char) {cs : List Char} (nonempty : cs ≠ []) :
    readParts left (escapeChar c ++ cs) = consPart (partOf c) (readParts left cs) := by
  unfold escapeChar
  split
  · next same => subst same; rfl
  split
  · next same => subst same; rfl
  split
  · next same => subst same; rfl
  split
  · next same => subst same; rfl
  split
  · next same => subst same; rfl
  split
  · next same => subst same; rfl
  split
  · next same => subst same; rfl
  next quote backslash feed ret tab back form =>
  split
  · next control =>
    have part : partOf c = .unit c.toNat := if_pos ⟨control, feed, ret, tab, back, form⟩
    have filled : cs.isEmpty = false := List.isEmpty_eq_false_iff.mpr nonempty
    simp only [Text.hexDigits, List.nil_append, List.cons_append, readParts, filled,
      unit?_hexDigits c.toNat control, part]
  · next printed =>
    have part : partOf c = .char c := if_neg fun control => printed control.1
    rw [part]
    exact readParts_plain left cs quote backslash printed

private theorem readParts_flatMap_escapeChar (left : Nat) (cs rest : List Char) :
    readParts left (cs.flatMap escapeChar ++ '"' :: rest) = .ok (cs.map partOf, rest) := by
  induction cs with
  | nil => simp [readParts]
  | cons c cs ih =>
    rw [List.flatMap_cons, List.append_assoc, readParts_escapeChar left c (by simp), ih]
    rfl

private theorem joinParts_cons_partOf (c : Char) (parts : List Part) :
    joinParts (partOf c :: parts) = c :: joinParts parts := by
  unfold partOf
  split
  · next control =>
    have notHigh : isHighUnit c.toNat = false := by simp [isHighUnit]; omega
    have notLow : isLowUnit c.toNat = false := by simp [isLowUnit]; omega
    have alone : unitChar c.toNat = c := by simp [unitChar, notHigh, notLow, Char.ofNat_toNat]
    rw [joinParts.eq_def]
    split <;> simp_all
  · simp [joinParts]

private theorem joinParts_map_partOf (cs : List Char) : joinParts (cs.map partOf) = cs := by
  induction cs with
  | nil => rfl
  | cons c cs ih => rw [List.map_cons, joinParts_cons_partOf, ih]

/-- A quoted text is read as the text, whatever follows it. -/
theorem readText_quoted (left : Nat) (cs rest : List Char) :
    readText left (cs.flatMap escapeChar ++ '"' :: rest) = .ok (cs, rest) := by
  rw [readText, readParts_flatMap_escapeChar]
  simp [Except.map, joinParts_map_partOf]

end EditorPlugins.Json
