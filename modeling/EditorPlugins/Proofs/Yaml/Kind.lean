import EditorPlugins.Proofs.Outcome
import EditorPlugins.Proofs.Text.Pieces
import EditorPlugins.Proofs.Text.Trim
import EditorPlugins.Proofs.Yaml.Lines
import EditorPlugins.Yaml.Scalar

/-! # Kinds of words

Only a scalar of the text kind stands for a text. A word of letters and hyphens is of that kind,
unless it is one of the words for truth values and for nothing: numbers and dates need a digit or a
point, and the marks of merges and defaults are no letters.
-/

namespace EditorPlugins.Yaml

open Text Number

variable {word : List Char} {kind : Kind} {text : String}

/-- Of all kinds only texts stand for texts. -/
theorem scalarValue_eq_text_iff {other : String} :
    scalarValue kind text = .ok (.text other) ↔ kind = .text ∧ text = other := by
  cases kind with
  | text => simp [scalarValue]
  | bool | int | float | date | binary => simp [scalarValue, Outcome.map_eq_ok_iff]
  | _ => simp [scalarValue]

private theorem not_mem_of_isKeyWord (isKey : Scan.IsKeyWord word) {c : Char}
    (letter : c.isAlpha = false)
    (hyphen : c ≠ '-') : c ∉ word := by
  intro member
  rcases isKey.letters c member with other | other
  · rw [letter] at other
    cases other
  · exact hyphen other

private theorem isDigit_ascii : ∀ n < 128, (Char.ofNat n).isAlpha = true →
    (Char.ofNat n).isDigit = false := by
  decide

private theorem isDigit_of_isAlpha {c : Char} (letter : c.isAlpha = true) : c.isDigit = false := by
  have plain := isDigit_ascii c.toNat (toNat_lt_of_isAlpha letter)
  rw [Char.ofNat_toNat] at plain
  exact plain letter

private theorem splitSign_of_isKeyWord (isKey : Scan.IsKeyWord word) : splitSign word =
    (false, word) := by
  obtain ⟨c, rest, rfl, letter⟩ := isKey.exists_cons
  rw [splitSign.eq_def]
  split
  · next same =>
    cases same
    exact absurd letter (by decide)
  · next same =>
    cases same
    exact absurd letter (by decide)
  · rfl

private theorem spellsFloat_of_isKeyWord (isKey : Scan.IsKeyWord word) :
    spellsFloat word = false := by
  have noPoint : '.' ∉ word := not_mem_of_isKeyWord isKey rfl (by decide)
  have pointed : ∀ name ∈ infinityWords ++ nanWords, '.' ∈ name.toList := by decide
  have unnamed : ∀ name ∈ infinityWords ++ nanWords, String.ofList word ≠ name := by
    rintro name member rfl
    have inside := pointed _ member
    rw [String.toList_ofList] at inside
    exact noPoint inside
  have noNumber : infinityWords.contains (String.ofList word) = false ∧
      nanWords.contains (String.ofList word) = false := by
    simp only [List.contains_eq_mem, decide_eq_false_iff_not]
    exact ⟨fun member => unnamed _ (List.mem_append_left _ member) rfl,
      fun member => unnamed _ (List.mem_append_right _ member) rfl⟩
  simp only [spellsFloat, splitSign_of_isKeyWord isKey, noNumber, cutAt_of_not_mem noPoint]
  rfl

private theorem spellsInt_of_isKeyWord (isKey : Scan.IsKeyWord word) : spellsInt word = false := by
  have noColon : ':' ∉ word := not_mem_of_isKeyWord isKey rfl (by decide)
  have single := pieces_of_not_mem noColon
  obtain ⟨c, rest, rfl, letter⟩ := isKey.exists_cons
  have notDigit := isDigit_of_isAlpha letter
  have notZero : c ≠ '0' := by
    rintro rfl
    cases notDigit
  rw [spellsInt.eq_def]
  split
  · next same => exact absurd (List.cons.inj same).1 notZero
  · next same => exact absurd (List.cons.inj same).1 notZero
  · next same => exact absurd (List.cons.inj same).1 notZero
  · simp [isWhole, isSexagesimal, single, notDigit]

private theorem writtenDate?_of_isKeyWord (isKey : Scan.IsKeyWord word) :
    writtenDate? word = none := by
  obtain ⟨c, rest, rfl, letter⟩ := isKey.exists_cons
  have noYear : fixedNumber? 4 (c :: rest) = none := by
    simp [fixedNumber?, isDigit_of_isAlpha letter]
  rw [writtenDate?, plainDay?, timedDay?, noYear]
  rfl

/-- A word of letters and hyphens has no kind of its own but the words that have one. -/
theorem ofText_of_isKeyWord (isKey : Scan.IsKeyWord word)
    (notBool : Kind.ofText (String.ofList word) ≠ .bool)
    (notNull : Kind.ofText (String.ofList word) ≠ .null) :
    Kind.ofText (String.ofList word) = .text := by
  have differs {name : String} (c : Char) (inside : c ∈ name.toList) (letter : c.isAlpha = false)
      (hyphen : c ≠ '-') : String.ofList word ≠ name := by
    rintro rfl
    rw [String.toList_ofList] at inside
    exact not_mem_of_isKeyWord isKey letter hyphen inside
  have notMerge : String.ofList word ≠ "<<" := differs '<' (by decide) rfl (by decide)
  have notDefault : String.ofList word ≠ "=" := differs '=' (by decide) rfl (by decide)
  have notMark : String.ofList word ≠ "!" ∧ String.ofList word ≠ "&" ∧ String.ofList word ≠ "*" :=
    ⟨differs '!' (by decide) rfl (by decide), differs '&' (by decide) rfl (by decide),
      differs '*' (by decide) rfl (by decide)⟩
  simp only [Kind.ofText, String.toList_ofList, spellsFloat_of_isKeyWord isKey,
    splitSign_of_isKeyWord isKey, spellsInt_of_isKeyWord isKey, writtenDate?_of_isKeyWord isKey,
    notMerge, notDefault, notMark, decide_false, Bool.or_self, Option.isSome_none,
    Bool.false_eq_true, if_false] at notBool notNull ⊢
  split at notBool
  · exact absurd rfl notBool
  next ordinary =>
  rw [if_neg ordinary] at notNull ⊢
  split at notNull
  · exact absurd rfl notNull
  next filled => rw [if_neg filled]

end EditorPlugins.Yaml
