import EditorPlugins.Proofs.Frontmatter.Quoted
import EditorPlugins.Proofs.Number.Decimal
import EditorPlugins.Proofs.Outcome

/-! # Scalars that are read as they were written

A text is left unquoted only where its plain form is read as that text, and the plain forms of
truth values and whole numbers are read as these. Only numbers with too many digits have no form.
-/

namespace EditorPlugins.Frontmatter

open Text Number

/-- A text that can fill a part of a line: it is not empty, trimming leaves it alone, and it has no
line breaks. -/
structure IsInline (cs : List Char) : Prop where
  nonempty : cs ≠ []
  trimmed : trim cs = cs
  oneLine : IsOneLine cs

instance : DecidablePred IsInline := fun cs =>
  decidable_of_iff (cs ≠ [] ∧ trim cs = cs ∧ IsOneLine cs)
    ⟨fun ⟨nonempty, trimmed, oneLine⟩ => ⟨nonempty, trimmed, oneLine⟩,
    fun inline => ⟨inline.nonempty, inline.trimmed, inline.oneLine⟩⟩

/-- A written form of a text, which is read as the text wherever a value or an item can stand. -/
structure WritesText (form cs : List Char) : Prop extends IsInline form where
  read : ∀ typing, readScalar typing form = .ok (.text (String.ofList cs))
  item : itemText form = cs

private theorem writesText_quoted (cs : List Char) : WritesText (quoted cs) cs where
  nonempty := List.cons_ne_nil _ _
  trimmed := trim_quoted cs
  oneLine := isOneLine_quoted cs
  read typing := by
    have noBrackets : bracketed? (quoted cs) = none := rfl
    simp [readScalar, trim_quoted, noBrackets, unquote?_quoted]
  item := by simp [itemText, trim_quoted, unquote?_quoted]

theorem bracketed?_eq_none {cs : List Char} (plain : ∀ c ∈ cs.head?, c ≠ '[') :
    bracketed? cs = none := by
  unfold bracketed?
  split
  · exact absurd rfl (plain '[' rfl)
  · rfl

theorem between?_eq_none {quote : Char} {cs : List Char} (plain : ∀ c ∈ cs.head?, c ≠ quote) :
    between? quote cs = none := by
  cases cs with
  | nil => rfl
  | cons c cs => simp [between?, plain c rfl]

theorem unquote?_eq_none {cs : List Char} (plain : ∀ c ∈ cs.head?, isIndicator c = false) :
    unquote? cs = none := by
  have noQuote : ∀ quote, isIndicator quote = true → between? quote cs = none := by
    intro quote indicator
    apply between?_eq_none
    rintro c first rfl
    exact absurd indicator (Bool.eq_false_iff.mp (plain c first))
  rw [unquote?, noQuote '"' rfl, noQuote '\'' rfl]
  rfl

private theorem readsAsText_eq_true {cs : List Char} (same : readsAsText cs = .ok true) :
    readScalar .typed cs = .ok (.text (String.ofList cs)) := by
  simp only [readsAsText, Outcome.map_eq_ok_iff] at same
  obtain ⟨value, read, same⟩ := same
  split at same
  · next text =>
    rw [read, ← of_decide_eq_true same, String.ofList_toList]
  · cases same

/-- A text that has no marks where they would mean something, and is read as itself. -/
structure IsPlain (cs : List Char) : Prop where
  nonempty : cs ≠ []
  trimmed : trim cs = cs
  ordinary : ∀ c ∈ cs, isLineBreak c = false ∧ isSpecial c = false
  start : ∀ c ∈ cs.head?, isIndicator c = false
  noDash : cs ≠ ['-'] ∧ ¬['-', ' '] <+: cs
  reads : readsAsText cs = .ok true

/-- Only plain texts need no quotes. -/
theorem isPlain_of_needsQuotes {cs : List Char} (plain : needsQuotes cs = .ok false) :
    IsPlain cs := by
  unfold needsQuotes at plain
  split at plain
  · cases plain
  next usual =>
  split at plain
  · cases plain
  next start =>
  simp only [Outcome.map_eq_ok_iff, Bool.not_eq_false'] at plain
  simp only [Bool.or_eq_true, not_or, Bool.not_eq_true, List.isEmpty_eq_false_iff,
    decide_eq_true_eq, Decidable.not_not, List.any_eq_false, List.isPrefixOf_iff_prefix]
    at usual start
  obtain ⟨⟨nonempty, trimmed⟩, ordinary⟩ := usual
  obtain ⟨_, same, rfl⟩ := plain
  exact ⟨nonempty, trimmed.symm, ordinary, (Option.any_eq_false _ _).mp start.1.1,
    ⟨start.1.2, start.2⟩, same⟩

/-- A text that needs no quotes writes itself. -/
theorem writesText_plain {cs : List Char} (plain : needsQuotes cs = .ok false) :
    WritesText cs cs := by
  obtain ⟨nonempty, trimmed, ordinary, start, -, same⟩ := isPlain_of_needsQuotes plain
  -- The text starts with no mark of its own, so its plain form is neither a list nor quoted.
  have noBrackets : bracketed? cs = none := by
    apply bracketed?_eq_none
    rintro c first rfl
    exact absurd (ordinary '[' (List.mem_of_head? first)).2 (by decide)
  have noQuotes : unquote? cs = none := unquote?_eq_none start
  refine ⟨⟨nonempty, trimmed, fun c member => (ordinary c member).1⟩, ?_, ?_⟩
  · intro typing
    cases typing with
    | typed => exact readsAsText_eq_true same
    | texts => simp [readScalar, trimmed, noBrackets, noQuotes]
  · simp [itemText, trimmed, noQuotes]

/-- Whatever form is chosen for a text writes the text. -/
theorem writesText_formatText {cs form : List Char} (formed : formatText cs = .ok form) :
    WritesText form cs := by
  simp only [formatText, Outcome.map_eq_ok_iff] at formed
  obtain ⟨quotes, decided, rfl⟩ := formed
  cases quotes with
  | true => exact writesText_quoted cs
  | false => exact writesText_plain decided

/-- A text with no more digits than can be converted, if it is a number with or without a sign. -/
def IsShort (cs : List Char) : Prop :=
  (splitSign cs).2.all isDigit → (splitSign cs).2.length ≤ digitLimit

instance : DecidablePred IsShort := fun _ => inferInstanceAs (Decidable (_ → _))

theorem digits_of_mapM_digitValue? {cs : List Char} {digits : List Nat}
    (read : cs.mapM digitValue? = some digits) : cs.all isDigit ∧ digits.length = cs.length := by
  induction cs generalizing digits with
  | nil =>
    cases read
    exact ⟨rfl, rfl⟩
  | cons c cs ih =>
    simp only [List.mapM_cons, Option.bind_eq_bind, Option.bind_eq_some_iff] at read
    obtain ⟨digit, first, rest, later, same⟩ := read
    cases same
    obtain ⟨all, length⟩ := ih later
    exact ⟨by simp [isDigit, first, all], by simp [length]⟩

private theorem exists_readInt? {cs : List Char} {outcome : Except ConversionError Int}
    (short : IsShort cs) (read : readInt? cs = some outcome) : ∃ n, outcome = .ok n := by
  simp only [readInt?, Option.map_eq_some_iff] at read
  obtain ⟨digits, found, rfl⟩ := read
  obtain ⟨all, length⟩ :
      (splitSign cs).2.all isDigit ∧ digits.length = (splitSign cs).2.length := by
    unfold digitsOnly? at found
    split at found
    · cases found
    · exact digits_of_mapM_digitValue? found
  rw [readNat, if_pos (length ▸ short all)]
  exact ⟨_, rfl⟩

theorem exists_plainValue {cs : List Char} (short : IsShort cs) :
    ∃ value, plainValue cs = .ok value := by
  simp only [plainValue]
  split
  · exact ⟨_, rfl⟩
  split
  · exact ⟨_, rfl⟩
  split
  · exact ⟨_, rfl⟩
  split
  · next read =>
    obtain ⟨n, rfl⟩ := exists_readInt? short read
    exact ⟨_, rfl⟩
  · exact ⟨_, rfl⟩
  · exact ⟨_, rfl⟩

private theorem exists_readScalar {cs : List Char} (typing : Typing) (short : IsShort (trim cs)) :
    ∃ value, readScalar typing cs = .ok value := by
  simp only [readScalar]
  split
  · exact ⟨_, rfl⟩
  split
  · exact ⟨_, rfl⟩
  cases typing with
  | texts => exact ⟨_, rfl⟩
  | typed => exact exists_plainValue short

/-- Every text has a written form, but for numbers with too many digits. -/
theorem exists_formatText {cs : List Char} (short : IsShort cs) :
    ∃ form, formatText cs = .ok form := by
  have decided : ∃ quotes, needsQuotes cs = .ok quotes := by
    unfold needsQuotes
    split
    · exact ⟨_, rfl⟩
    next usual =>
    split
    · exact ⟨_, rfl⟩
    have trimmed : cs = trim cs := by
      simp only [Bool.or_eq_true, not_or, decide_eq_true_eq, Decidable.not_not] at usual
      exact usual.1.2
    obtain ⟨value, read⟩ := exists_readScalar .typed (trimmed ▸ short)
    rw [readsAsText, read]
    exact ⟨_, rfl⟩
  obtain ⟨quotes, decided⟩ := decided
  rw [formatText, decided]
  exact ⟨_, rfl⟩

/-- A written form of a value, which is read as the value. -/
structure WritesValue (form : List Char) (value : Value) : Prop extends IsInline form where
  read : readScalar .typed form = .ok value

/-- The values that fill a line of their own and have content. -/
inductive IsLeaf : Value → Prop where
  | bool (truth : Bool) : IsLeaf (.bool truth)
  | int (n : Int) : IsLeaf (.int n)
  | text (text : String) : IsLeaf (.text text)

/-- A value whose digits can be converted, as it is or from its text. -/
def IsShortValue : Value → Prop
  | .int n => withinLimit n
  | .text text => IsShort text.toList
  | _ => True

private theorem plain_of_digit : ∀ digit < 10, isBlank (digitChar digit) = false ∧
    isIndicator (digitChar digit) = false ∧ (digitChar digit).toLower = digitChar digit := by
  decide

theorem plain_of_isNumeral {c : Char} (numeral : IsNumeral c) :
    isBlank c = false ∧ isIndicator c = false ∧ c.toLower = c := by
  rcases numeral with rfl | ⟨digit, bound, rfl⟩
  · decide
  · exact plain_of_digit digit bound

/-- The characters that numbers are written with. -/
def IsFigure (c : Char) : Prop := IsNumeral c ∨ c = '.' ∨ c = 'e' ∨ c = '+'

instance : DecidablePred IsFigure := fun c =>
  inferInstanceAs (Decidable (IsNumeral c ∨ c = '.' ∨ c = 'e' ∨ c = '+'))

private theorem plain_of_isFigure {c : Char} (figure : IsFigure c) :
    isBlank c = false ∧ isIndicator c = false ∧ c ≠ '[' := by
  rcases figure with numeral | rfl | rfl | rfl
  · obtain ⟨notBlank, notIndicator, -⟩ := plain_of_isNumeral numeral
    refine ⟨notBlank, notIndicator, ?_⟩
    rintro rfl
    exact absurd numeral (by decide)
  all_goals decide

/-- A written number fills a part of a line, and is neither a list nor quoted. -/
theorem writesValue_of_figures {form : List Char} {value : Value} (nonempty : form ≠ [])
    (figures : ∀ c ∈ form, IsFigure c) (read : plainValue form = .ok value) :
    WritesValue form value := by
  have trimmed : trim form = form := trim_eq_self_iff.mpr
    ⟨fun c first => (plain_of_isFigure (figures c (List.mem_of_head? first))).1,
      fun c last => (plain_of_isFigure (figures c (List.mem_of_getLast? last))).1⟩
  have oneLine : IsOneLine form := by
    intro c member
    apply Bool.eq_false_iff.mpr
    intro isBreak
    exact absurd (isBlank_of_isLineBreak isBreak)
      (Bool.eq_false_iff.mp (plain_of_isFigure (figures c member)).1)
  have noBrackets : bracketed? form = none := bracketed?_eq_none fun c first =>
    (plain_of_isFigure (figures c (List.mem_of_head? first))).2.2
  have noQuotes : unquote? form = none := unquote?_eq_none fun c first =>
    (plain_of_isFigure (figures c (List.mem_of_head? first))).2.1
  refine ⟨⟨nonempty, trimmed, oneLine⟩, ?_⟩
  simp only [readScalar, trimmed, noBrackets, noQuotes]
  exact read

/-- A text that starts like a number spells no name. -/
theorem plainValue_of_numeral {c : Char} {cs : List Char} (numeral : IsNumeral c) :
    plainValue (c :: cs) =
      match readInt? (c :: cs), readFloat? (c :: cs) with
      | some read, _ => read.map Value.int
      | none, some x => .ok (.float x)
      | none, none => .ok (.text (String.ofList (c :: cs))) := by
  have notName {first : Char} {rest : List Char} (other : ¬IsNumeral first) :
      lower (c :: cs) ≠ first :: rest := by
    intro same
    apply other
    rwa [← (List.cons.inj same).1, (plain_of_isNumeral numeral).2.2]
  have notTrue : lower (c :: cs) ≠ "true".toList := notName (by decide)
  have notFalse : lower (c :: cs) ≠ "false".toList := notName (by decide)
  have notNull : lower (c :: cs) ≠ "null".toList := notName (by decide)
  have notTilde : c :: cs ≠ ['~'] := by
    rintro same
    cases same
    exact absurd numeral (by decide)
  simp only [plainValue, if_neg notTrue, if_neg notFalse, notNull, notTilde, List.isEmpty_cons]
  rfl

private theorem plainValue_intDigits {n : Int} (within : withinLimit n = true) :
    plainValue (intDigits n) = .ok (.int n) := by
  obtain ⟨c, cs, shape⟩ := List.exists_cons_of_ne_nil (intDigits_ne_nil n)
  have numeral : IsNumeral c := isNumeral_of_mem_intDigits (shape ▸ List.mem_cons_self)
  have read := readInt?_intDigits within
  rw [shape] at read ⊢
  rw [plainValue_of_numeral numeral, read]
  rfl

/-- A whole number is read as itself. -/
theorem writesValue_intDigits {n : Int} (within : withinLimit n = true) :
    WritesValue (intDigits n) (.int n) :=
  writesValue_of_figures (intDigits_ne_nil n)
    (fun _ member => .inl (isNumeral_of_mem_intDigits member)) (plainValue_intDigits within)

private theorem formatValue_int {n : Int} (within : withinLimit n = true) :
    formatValue (.int n) = .ok (intDigits n) := by
  have fits : (Value.int n).fits = true := within
  rw [formatValue, Value.display, Value.guardDigits, if_pos fits]
  change Except.ok (intText n).toList = _
  rw [intText, String.toList_ofList]

/-- Numbers with too many digits have no written form. -/
theorem within_of_formatValue {n : Int} {form : List Char}
    (formed : formatValue (.int n) = .ok form) : withinLimit n = true := by
  cases fits : (Value.int n).fits with
  | true => exact fits
  | false =>
    rw [formatValue, Value.display, Value.guardDigits, if_neg (Bool.eq_false_iff.mp fits)] at formed
    cases formed

/-- Whatever form is chosen for a value of one line is read as the value. -/
theorem writesValue_formatValue {value : Value} {form : List Char} (leaf : IsLeaf value)
    (formed : formatValue value = .ok form) : WritesValue form value := by
  cases leaf with
  | bool truth =>
    cases formed
    cases truth with
    | true => exact ⟨by decide, by rfl⟩
    | false => exact ⟨by decide, by rfl⟩
  | int n =>
    have within := within_of_formatValue formed
    rw [formatValue_int within] at formed
    cases formed
    exact writesValue_intDigits within
  | text text =>
    have writes := writesText_formatText formed
    have read := writes.read .typed
    rw [String.ofList_toList] at read
    exact ⟨writes.toIsInline, read⟩

/-- A value of one line has a form when its digits can be converted. -/
theorem exists_formatValue {value : Value} (leaf : IsLeaf value) (short : IsShortValue value) :
    ∃ form, formatValue value = .ok form := by
  cases leaf with
  | bool truth => exact ⟨_, rfl⟩
  | int n => exact ⟨_, formatValue_int short⟩
  | text text => exact exists_formatText short

end EditorPlugins.Frontmatter
