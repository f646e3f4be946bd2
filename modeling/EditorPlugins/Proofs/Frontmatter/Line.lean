import EditorPlugins.Proofs.Frontmatter.Float

/-! # What the lines of values are read as

Texts, truth values, whole numbers and finite decimals are read from their lines as they are. A list
that has to stand on one line, and a number that is not finite, have no form of their own: they are
written as the text that displays them and come back as that text.
-/

namespace EditorPlugins.Frontmatter

open Text Number

/-- The values that reading a line can give, but for nothing. -/
inductive IsLine : Value → Prop where
  | bool (truth : Bool) : IsLine (.bool truth)
  | int (n : Int) : IsLine (.int n)
  | float (x : Double) : IsLine (.float x)
  | text (text : String) : IsLine (.text text)
  | texts (texts : List String) : IsLine (Value.texts texts)

theorem IsLeaf.line {value : Value} (leaf : IsLeaf value) : IsLine value := by
  cases leaf with
  | bool truth => exact .bool truth
  | int n => exact .int n
  | text text => exact .text text

/-- The value that is read from the line of a value. -/
def readBack : Value → Value
  | .float x => if x.isFinite then .float x else .text (x.text displayNames)
  | .list items => .text (Value.list items).literalText
  | other => other

/-- Whether the line of a value is read as the value. -/
def IsFaithfulLine : Value → Prop
  | .float x => x.isFinite
  | .list _ => False
  | _ => True

theorem IsLeaf.faithful {value : Value} (leaf : IsLeaf value) : IsFaithfulLine value := by
  cases leaf <;> trivial

theorem readBack_eq_self_iff {value : Value} : readBack value = value ↔ IsFaithfulLine value := by
  unfold readBack IsFaithfulLine
  split
  · next x =>
    split
    · next finite => simp [finite]
    · next infinite => simp [infinite]
  · simp
  · simp

theorem formatValue_float (x : Double) :
    formatValue (.float x) = .ok (x.text displayNames).toList := rfl

/-- The names of numbers that are not finite are texts. -/
theorem writesValue_special {x : Double} (infinite : x.isFinite = false) :
    WritesValue (x.text displayNames).toList (.text (x.text displayNames)) := by
  have names : x.text displayNames = "nan" ∨ x.text displayNames = "inf" ∨
      x.text displayNames = "-inf" := by
    unfold Double.text
    split
    · exact .inl rfl
    · simp only [infinite, Bool.not_false, if_true]
      split
      · exact .inr (.inr rfl)
      · exact .inr (.inl rfl)
  rcases names with same | same | same <;> rw [same] <;> exact ⟨by decide, rfl⟩

/-- Whatever form is chosen for a value of one line, it is read as the value, or as the text that
displays it when the value has no form of its own. -/
theorem writesValue_readBack {value : Value} {form : List Char} (line : IsLine value)
    (formed : formatValue value = .ok form) : WritesValue form (readBack value) := by
  cases line with
  | bool truth => exact writesValue_formatValue (.bool truth) formed
  | int n => exact writesValue_formatValue (.int n) formed
  | text text => exact writesValue_formatValue (.text text) formed
  | float x =>
    rw [formatValue_float] at formed
    cases formed
    cases finite : x.isFinite with
    | true =>
      rw [readBack, if_pos finite]
      exact writesValue_text finite displayNames
    | false =>
      rw [readBack, if_neg (Bool.eq_false_iff.mp finite)]
      exact writesValue_special finite
  | texts texts =>
    have formed : (Value.texts texts).display >>= (fun text => formatText text.toList) =
      .ok form := formed
    simp only [Value.display, Outcome.bind_eq_ok_iff] at formed
    obtain ⟨text, ⟨_, _, shown⟩, formed⟩ := formed
    cases shown
    have writes := writesText_formatText formed
    have read := writes.read .typed
    rw [String.ofList_toList] at read
    exact ⟨writes.toIsInline, read⟩

/-- The form of a value has no line breaks, whatever kind the value is of. -/
theorem isOneLine_formatValue {value : Value} {form : List Char}
    (formed : formatValue value = .ok form) : IsOneLine form := by
  unfold formatValue at formed
  split at formed
  · next truth => exact (writesValue_formatValue (.bool truth) formed).oneLine
  · next n => exact (writesValue_formatValue (.int n) formed).oneLine
  · next x => exact (writesValue_readBack (.float x) formed).oneLine
  · obtain ⟨text, -, formed⟩ := Outcome.bind_eq_ok_iff.mp formed
    exact (writesText_formatText formed).oneLine

end EditorPlugins.Frontmatter
