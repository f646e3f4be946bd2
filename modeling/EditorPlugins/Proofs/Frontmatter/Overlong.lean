import EditorPlugins.Frontmatter.Envelope
import EditorPlugins.Proofs.Frontmatter.Reading

/-! # What frontmatter cannot be read

Lines that mean nothing are dropped, so reading fails only where a line gives a value and the value
is a whole number with too many digits. Which value a line gives depends on the block that is open
above it.
-/

namespace EditorPlugins.Frontmatter

open Text Number

/-- A whole number with more digits than can be converted, with or without blanks around it. -/
def IsOverlong (cs : List Char) : Prop := ¬IsShort (trim cs)

private theorem mapM_digitValue?_of_all {cs : List Char} (digits : cs.all isDigit) :
    ∃ values, cs.mapM digitValue? = some values ∧ values.length = cs.length := by
  induction cs with
  | nil => exact ⟨[], rfl, rfl⟩
  | cons c cs ih =>
    simp only [List.all_cons, Bool.and_eq_true] at digits
    obtain ⟨value, first⟩ := Option.isSome_iff_exists.mp digits.1
    obtain ⟨values, later, length⟩ := ih digits.2
    exact ⟨value :: values, by simp [List.mapM_cons, first, later], by simp [length]⟩

/-- A number with too many digits is refused for them. -/
theorem readInt?_of_not_isShort {cs : List Char} (long : ¬IsShort cs) :
    ∃ cause, readInt? cs = some (.error cause) := by
  obtain ⟨digits, count⟩ := Classical.not_imp.mp long
  obtain ⟨values, read, length⟩ := mapM_digitValue?_of_all digits
  have nonempty : (splitSign cs).2.isEmpty = false := by
    cases shape : (splitSign cs).2 with
    | nil =>
      rw [shape] at count
      exact absurd (Nat.zero_le _) count
    | cons => rfl
  have only : digitsOnly? (splitSign cs).2 = some values := by
    simp only [digitsOnly?, nonempty, read, Bool.false_eq_true, if_false]
  have refused : readNat values = .error (.tooManyDigits values.length) := by
    rw [readNat, if_neg (length ▸ count)]
  refine ⟨.tooManyDigits values.length, ?_⟩
  simp only [readInt?, only, Option.map_some, refused]
  rfl

private theorem lt_length_of_not_isShort {cs : List Char} (long : ¬IsShort cs) :
    digitLimit < cs.length := by
  have count := Nat.lt_of_not_le (Classical.not_imp.mp long).2
  have shorter : (splitSign cs).2.length ≤ cs.length := by
    unfold splitSign
    split <;> simp
  omega

private theorem exists_plainValue_iff {cs : List Char} :
    (∃ value, plainValue cs = .ok value) ↔ IsShort cs := by
  refine ⟨fun ⟨value, read⟩ => Decidable.not_not.mp fun long => ?_, exists_plainValue⟩
  obtain ⟨cause, refused⟩ := readInt?_of_not_isShort long
  have many := lt_length_of_not_isShort long
  -- The names of values are much shorter.
  have other {name : List Char} (few : name.length ≤ 5) : cs ≠ name := by
    rintro rfl
    exact absurd many (Nat.not_lt.mpr (Nat.le_trans few (by decide)))
  have unnamed {name : List Char} (few : name.length ≤ 5) : lower cs ≠ name := by
    rintro rfl
    rw [lower, List.length_map] at few
    exact other few rfl
  have nonempty : cs.isEmpty = false := List.isEmpty_eq_false_iff.mpr (other (by decide))
  have notTrue : lower cs ≠ "true".toList := unnamed (by decide)
  have notFalse : lower cs ≠ "false".toList := unnamed (by decide)
  have notNull : lower cs ≠ "null".toList := unnamed (by decide)
  have notTilde : cs ≠ ['~'] := other (by decide)
  simp only [plainValue, notTrue, notFalse, notNull, notTilde, nonempty, refused, if_false,
    Bool.or_false, decide_false, Bool.false_eq_true] at read
  cases read

/-- A text between brackets or quotes is no number. -/
theorem isShort_of_head? {c : Char} {cs : List Char} (other : isDigit c = false)
    (unsigned : c ≠ '-' ∧ c ≠ '+') : IsShort (c :: cs) := by
  have whole : splitSign (c :: cs) = (false, c :: cs) := by
    unfold splitSign
    split
    · next same => exact absurd (List.cons.inj same).1 unsigned.1
    · next same => exact absurd (List.cons.inj same).1 unsigned.2
    · rfl
  intro digits
  rw [whole, List.all_cons, other] at digits
  cases digits

private theorem isShort_of_bracketed? {cs inner : List Char} (found : bracketed? cs = some inner) :
    IsShort cs := by
  unfold bracketed? at found
  split at found
  · exact isShort_of_head? (by decide) (by decide)
  · cases found

private theorem isShort_of_between? {quote : Char} (isQuote : quote = '"' ∨ quote = '\'')
    {cs inner : List Char} (found : between? quote cs = some inner) : IsShort cs := by
  unfold between? at found
  split at found
  · next first rest =>
    split at found
    · next same =>
      simp only [Bool.and_eq_true, decide_eq_true_eq] at same
      rw [same.1]
      rcases isQuote with rfl | rfl <;> exact isShort_of_head? (by decide) (by decide)
    · cases found
  · cases found

private theorem isShort_of_unquote? {cs content : List Char} (found : unquote? cs = some content) :
    IsShort cs := by
  unfold unquote? at found
  split at found
  · next inner => exact isShort_of_between? (.inl rfl) inner
  · obtain ⟨inner, found, -⟩ := Option.map_eq_some_iff.mp found
    exact isShort_of_between? (.inr rfl) found

/-- A scalar is refused just when it is to be typed and has too many digits. -/
theorem exists_readScalar_iff {typing : Typing} {cs : List Char} :
    (∃ value, readScalar typing cs = .ok value) ↔ ¬(typing = .typed ∧ IsOverlong cs) := by
  unfold IsOverlong
  simp only [readScalar]
  split
  · next found => simp [isShort_of_bracketed? found]
  split
  · next found => simp [isShort_of_unquote? found]
  cases typing with
  | texts => simp
  | typed => simp [exists_plainValue_iff]

/-- A line gives the reader a value to be read: behind the name at its start, or, below an open key,
behind the name of an entry. -/
inductive Gives (dialect : Dialect) (reading : Reading) (line : List Char) : List Char → Prop where
  | top {before after : List Char} (meaning : isSkippable line = false)
      (outer : isIndented line = false) (notItem : line.head? ≠ some '-')
      (cut : cutAt ':' line = (before, some after)) (named : itemText before ≠ [])
      (filled : isBlankText (dialect.uncomment after) = false) :
      Gives dialect reading line (dialect.uncomment after)
  | below {key : String} {block : Block} {before after : List Char}
      (meaning : isSkippable line = false) (open_ : reading.pending = some (key, block))
      (indented : isIndented line = true) (notItem : isItem (trim line) = false)
      (noItems : ∀ items, block ≠ .items items)
      (cut : cutAt ':' (trim (dialect.uncomment (trim line))) = (before, some after))
      (named : isBlankText before = false) : Gives dialect reading line after

section Lines

variable {dialect : Dialect} {reading : Reading} {line : List Char}

private theorem exists_readTop_iff :
    (∃ next, readTop dialect reading line = .ok next) ↔
      ∀ before after, isIndented line = false → line.head? ≠ some '-' →
        cutAt ':' line = (before, some after) → itemText before ≠ [] →
        isBlankText (dialect.uncomment after) = false →
        ∃ value, readScalar dialect.typing (dialect.uncomment after) = .ok value := by
  unfold readTop
  split
  · next outside =>
    refine iff_of_true ⟨_, rfl⟩ fun before after outer notItem => ?_
    simp [outer, notItem] at outside
  next inside =>
  simp only [Bool.or_eq_true, decide_eq_true_eq, not_or, Bool.not_eq_true] at inside
  split
  · next cut =>
    refine iff_of_true ⟨_, rfl⟩ fun before after _ _ same => ?_
    rw [cut] at same
    cases same
  next before after cut =>
  simp only [cut, Prod.mk.injEq, Option.some.injEq]
  split
  · next unnamed =>
    refine iff_of_true ⟨_, rfl⟩ ?_
    rintro _ _ - - ⟨rfl, rfl⟩ named
    exact absurd (List.isEmpty_iff.mp unnamed) named
  next named =>
  split
  · next blank =>
    refine iff_of_true ⟨_, rfl⟩ ?_
    rintro _ _ - - ⟨rfl, rfl⟩ - filled
    rw [blank] at filled
    cases filled
  next filled =>
  simp only [Outcome.bind_eq_ok_iff, Outcome.pure_eq_ok_iff]
  constructor
  · rintro ⟨_, value, read, -⟩ _ _ - - ⟨rfl, rfl⟩ - -
    exact ⟨value, read⟩
  · intro each
    obtain ⟨value, read⟩ := each before after inside.1 inside.2 ⟨rfl, rfl⟩
      (fun empty => named (List.isEmpty_iff.mpr empty)) (Bool.eq_false_iff.mpr filled)
    exact ⟨_, value, read, rfl⟩

private theorem exists_addedEntry_iff {typing : Typing} {block : Block} {before after : List Char}
    {added : Except ConversionError Block} (step : block.addEntry? typing before after = some added) :
    (∃ next, added = .ok next) ↔
      (isBlankText before = false → ∃ value, readScalar typing after = .ok value) := by
  have extended (written : Mapping) :
      (∃ next, (if isBlankText before then .ok (.entries written) else do
        let value ← readScalar typing after
        return .entries (Mapping.setField written (String.ofList (itemText before)) value)) =
          (Except.ok next : Except ConversionError Block)) ↔
        (isBlankText before = false → ∃ value, readScalar typing after = .ok value) := by
    split
    · next blank => simp [blank]
    · next named =>
      simp only [Bool.eq_false_iff.mpr named, forall_true_left]
      exact Outcome.exists_bind_pure_iff
  cases block with
  | undecided => exact Option.some.inj step ▸ extended []
  | entries written => exact Option.some.inj step ▸ extended written
  | items written => cases step

private theorem readBelow_of_outer {key : String} {block : Block} (outer : isIndented line = false)
    (notItem : isItem (trim line) = false) :
    readBelow dialect reading key block line = readTop dialect reading.close line := by
  simp [readBelow, outer, notItem]

private theorem exists_readBelow_of_isItem {key : String} {block : Block}
    (item : isItem (trim line)) :
    ∃ next, readBelow dialect reading key block line = .ok next := by
  simp only [readBelow, item, Bool.not_true, Bool.and_false, Bool.false_eq_true, if_false, if_true]
  split <;> exact ⟨_, rfl⟩

private theorem exists_readBelow_iff {key : String} {block : Block}
    (indented : isIndented line = true)
    (notItem : isItem (trim line) = false) :
    (∃ next, readBelow dialect reading key block line = .ok next) ↔
      ∀ before after, cutAt ':' (trim (dialect.uncomment (trim line))) = (before, some after) →
        isBlankText before = false → (∀ items, block ≠ .items items) →
        ∃ value, readScalar dialect.typing after = .ok value := by
  simp only [readBelow, indented, notItem, Bool.not_true, Bool.false_and, Bool.false_eq_true,
    if_false]
  split
  · next cut =>
    refine iff_of_true ⟨_, rfl⟩ fun before after same => ?_
    rw [cut] at same
    cases same
  next before after cut =>
  simp only [cut, Prod.mk.injEq, Option.some.injEq]
  split
  · next added step =>
    have noItems : ∀ items, block ≠ .items items := by
      rintro items rfl
      cases step
    rw [Outcome.exists_map_iff, exists_addedEntry_iff step]
    constructor
    · rintro each _ _ ⟨rfl, rfl⟩ named -
      exact each named
    · intro each named
      exact each before after ⟨rfl, rfl⟩ named noItems
  · next step =>
    refine iff_of_true ⟨_, rfl⟩ fun _ _ _ _ noItems => ?_
    cases block with
    | undecided => cases step
    | entries => cases step
    | items items => exact absurd rfl (noItems items)

private theorem exists_readLine_of_dash (dash : line.head? = some '-') :
    ∃ next, readLine dialect reading line = .ok next := by
  have top (reading : Reading) : ∃ next, readTop dialect reading line = .ok next :=
    exists_readTop_iff.mpr fun _ _ _ notItem => absurd dash notItem
  have outer : isIndented line = false := by
    cases line with
    | nil => cases dash
    | cons c cs =>
      cases dash
      rfl
  unfold readLine
  split
  · exact ⟨_, rfl⟩
  split
  · exact top reading
  · next key block _ =>
    cases item : isItem (trim line) with
    | true => exact exists_readBelow_of_isItem item
    | false =>
      rw [readBelow_of_outer outer item]
      exact top reading.close

private theorem exists_readLine_of_outer_iff (meaning : isSkippable line = false)
    (outer : isIndented line = false) (notItem : line.head? ≠ some '-') :
    (∃ next, readLine dialect reading line = .ok next) ↔
      ∃ next, readTop dialect reading.close line = .ok next := by
  cases line with
  | nil => cases meaning
  | cons c cs =>
    have notComment : c ≠ '#' := by
      rintro rfl
      simp [isSkippable, trim_cons_of_keep cs (by decide : isBlank '#' = false)] at meaning
    rw [readLine_of_start dialect reading cs outer notComment fun same =>
      notItem (congrArg some same)]

/-- A line is read just when the value that it gives can be read. -/
theorem exists_readLine_iff :
    (∃ next, readLine dialect reading line = .ok next) ↔
      ∀ text, Gives dialect reading line text →
        ∃ value, readScalar dialect.typing text = .ok value := by
  by_cases skippable : isSkippable line = true
  · refine iff_of_true ⟨reading, readLine_of_isSkippable _ _ skippable⟩ fun text gives => ?_
    cases gives with
    | top meaning => simp [skippable] at meaning
    | below meaning => simp [skippable] at meaning
  have meaning := Bool.eq_false_iff.mpr skippable
  cases indented : isIndented line with
  | false =>
    by_cases dash : line.head? = some '-'
    · refine iff_of_true (exists_readLine_of_dash dash) fun text gives => ?_
      cases gives with
      | top _ _ notItem => exact absurd dash notItem
      | below _ _ inside => simp [indented] at inside
    rw [exists_readLine_of_outer_iff meaning indented dash, exists_readTop_iff]
    constructor
    · intro each text gives
      cases gives with
      | top _ outer notItem cut named filled => exact each _ _ outer notItem cut named filled
      | below _ _ inside => simp [indented] at inside
    · intro each before after outer notItem cut named filled
      exact each _ (.top meaning outer notItem cut named filled)
  | true =>
    cases opened : reading.pending with
    | none =>
      have top : ∃ next, readTop dialect reading line = .ok next :=
        exists_readTop_iff.mpr fun _ _ outer => by simp [indented] at outer
      simp only [readLine, meaning, opened, Bool.false_eq_true, if_false]
      refine iff_of_true top fun text gives => ?_
      cases gives with
      | top _ outer => simp [indented] at outer
      | below _ same => simp [opened] at same
    | some open_ =>
      obtain ⟨key, block⟩ := open_
      simp only [readLine, meaning, opened, Bool.false_eq_true, if_false]
      by_cases item : isItem (trim line) = true
      · refine iff_of_true (exists_readBelow_of_isItem item) fun text gives => ?_
        cases gives with
        | top _ outer => simp [indented] at outer
        | below _ _ _ notItem => simp [item] at notItem
      have notItem := Bool.eq_false_iff.mpr item
      rw [exists_readBelow_iff indented notItem]
      constructor
      · intro each text gives
        cases gives with
        | top _ outer => simp [indented] at outer
        | below _ same _ _ noItems cut named =>
          rw [opened] at same
          cases same
          exact each _ _ cut named noItems
      · intro each before after cut named noItems
        exact each after (.below meaning opened indented notItem noItems cut named)

end Lines

/-- Reading some lines comes to one that gives a number with too many digits. -/
def ComesToOverlong (dialect : Dialect) (lines : List (List Char)) : Prop :=
  ∃ before line after reading text, lines = before ++ line :: after ∧
    readLines dialect .start before = .ok reading ∧ Gives dialect reading line text ∧
    IsOverlong text

/-- Lines are read unless they are typed and reading comes to a number with too many digits. -/
theorem exists_readMapping_iff {dialect : Dialect} {lines : List (List Char)} :
    (∃ data, readMapping dialect lines = .ok data) ↔
      ¬(dialect.typing = .typed ∧ ComesToOverlong dialect lines) := by
  have run : (∃ data, readMapping dialect lines = .ok data) ↔
      ∃ last, readLines dialect .start lines = .ok last := Outcome.exists_map_iff
  rw [run, readLines, Outcome.exists_foldlM_iff]
  simp only [exists_readLine_iff, exists_readScalar_iff]
  constructor
  · rintro each ⟨typed, before, line, after, reading, text, shape, reached, gives, long⟩
    exact each before line after reading shape reached text gives ⟨typed, long⟩
  · rintro none before line after reading shape reached text gives ⟨typed, long⟩
    exact none ⟨typed, before, line, after, reading, text, shape, reached, gives, long⟩

/-- Metadata is read, whatever its text. -/
theorem exists_read {dialect : Dialect} (texts : dialect.typing = .texts) (text : String) :
    ∃ data, read dialect text = .ok data :=
  exists_readMapping_iff.mpr fun ⟨typed, _⟩ => nomatch texts.symm.trans typed

/-- A document is split unless it starts with an envelope in which reading comes to a number with
too many digits. -/
theorem exists_split_iff {text : String} :
    (∃ document, split text = .ok document) ↔
      ¬∃ cut, cut? text.toList = some cut ∧
        ComesToOverlong .document (cut.block.map Line.body) := by
  unfold split
  cases cut? text.toList with
  | none => simp
  | some cut =>
    have lines := @exists_readMapping_iff .document (cut.block.map Line.body)
    have typed : Dialect.document.typing = .typed := rfl
    simp only [typed, true_and] at lines
    simp only [Option.some.injEq, exists_eq_left', ← lines]
    exact Outcome.exists_bind_pure_iff

end EditorPlugins.Frontmatter
