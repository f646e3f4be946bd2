import EditorPlugins.Proofs.Frontmatter.RoundTrip
import EditorPlugins.Proofs.Yaml.Refused

/-! # Texts for YAML readers

The writer leaves a text without quotes where its own reader takes the plain form for the text. A
YAML reader takes more forms for something else: some marks mean something only there, and more
words spell truth values, numbers and dates.
-/

namespace EditorPlugins.Frontmatter

open Text Number

/-- The codes that control devices. -/
def isControlCode (c : Char) : Bool := c.toNat < 0x20 || (0x7F ≤ c.toNat && c.toNat < 0xA0)

/-- A text without control codes, and with no more digits than can be converted. -/
structure IsPrintable (text : String) : Prop where
  visible : ∀ c ∈ text.toList, isControlCode c = false
  short : IsShort text.toList

instance : DecidablePred IsPrintable := fun text =>
  decidable_of_iff ((text.toList.all fun c => !isControlCode c) = true ∧ IsShort text.toList)
    ⟨fun ⟨visible, short⟩ => ⟨by simpa using visible, short⟩,
      fun ⟨visible, short⟩ => ⟨by simpa using visible, short⟩⟩

/-- Whether a text starts with the mark of a key: a question mark, with a space or nothing behind
it. -/
def StartsMarked (cs : List Char) : Prop := cs.head? = some '?' ∧ cs.tail.head?.getD ' ' = ' '

instance : DecidablePred StartsMarked := fun cs =>
  inferInstanceAs (Decidable (cs.head? = some '?' ∧ cs.tail.head?.getD ' ' = ' '))

/-- A text that a YAML reader takes for itself in the form that is chosen for it. -/
structure IsLegible (text : String) : Prop where
  allowed : text.toList.all Yaml.isAllowed = true
  noComma : needsQuotes text.toList = .ok false → text.toList.head? ≠ some ','
  noMark : needsQuotes text.toList = .ok false → ¬StartsMarked text.toList
  isText : needsQuotes text.toList = .ok false → Yaml.Kind.ofText text = .text

private theorem isLegible_iff_plain {text : String} : IsLegible text ↔
    text.toList.all Yaml.isAllowed = true ∧ (needsQuotes text.toList = .ok false →
      (text.toList.head? ≠ some ',' ∧ ¬StartsMarked text.toList) ∧
        Yaml.Kind.ofText text = .text) :=
  ⟨fun ⟨allowed, noComma, noMark, isText⟩ =>
      ⟨allowed, fun plain => ⟨⟨noComma plain, noMark plain⟩, isText plain⟩⟩,
    fun ⟨allowed, stands⟩ => ⟨allowed, fun plain => (stands plain).1.1,
      fun plain => (stands plain).1.2, fun plain => (stands plain).2⟩⟩

instance : DecidablePred IsLegible := fun _ => decidable_of_iff _ isLegible_iff_plain.symm

section Marks

variable {c : Char} {cs : List Char}

/-- Of the blanks only the space stands in a line of visible characters. -/
theorem isBlankOrEnd_iff (visible : isControlCode c = false) (inLine : isLineBreak c = false) :
    Yaml.isBlankOrEnd c = true ↔ c = ' ' := by
  have other {code : Char} (control : isControlCode code = true) : c ≠ code := by
    rintro rfl
    rw [visible] at control
    cases control
  have noBreak : Yaml.isBreak c = false := Bool.eq_false_iff.mpr fun ends =>
    absurd (Yaml.isLineBreak_of_isBreak ends) (Bool.eq_false_iff.mp inLine)
  have noTab : c ≠ '\t' := other rfl
  have noEnd : c ≠ Yaml.endMark := other rfl
  simp [Yaml.isBlankOrEnd, Yaml.isGap, Yaml.isLineEnd, noBreak, noTab, noEnd]

/-- A plain text is words. -/
theorem words_of_isPlain (isPlain : IsPlain cs) (visible : ∀ c ∈ cs, isControlCode c = false) :
    Yaml.Words cs := by
  obtain ⟨first, last⟩ := trim_eq_self_iff.mp isPlain.trimmed
  have notSpace {c : Char} (unblank : isBlank c = false) : c ≠ ' ' := by
    rintro rfl
    cases unblank
  refine Yaml.words_of_trimmed isPlain.nonempty (fun c member => ?_)
    (fun c member => notSpace (first c member)) (fun c member => notSpace (last c member))
  obtain ⟨inLine, ordinary⟩ := isPlain.ordinary c member
  have noSpecial {mark : Char} (special : isSpecial mark = true) : c ≠ mark := by
    rintro rfl
    rw [ordinary] at special
    cases special
  by_cases space : c = ' '
  · exact .inl space
  · refine .inr (Yaml.isInner_iff.mpr ⟨?_, noSpecial rfl, noSpecial rfl⟩)
    rw [Bool.eq_false_iff, ne_eq, isBlankOrEnd_iff (visible c member) inLine]
    exact space

/-- The marks that the writer knows are those of a YAML reader but for the comma, the dash and the
question mark. -/
theorem isIndicator_of_marks (visible : isControlCode c = false) (inLine : isLineBreak c = false)
    (filled : c ≠ ' ') (ordinary : isSpecial c = false) (start : isIndicator c = false)
    (others : c ≠ ',' ∧ c ≠ '-' ∧ c ≠ '?') : Yaml.Scan.isIndicator c = false := by
  have unblank : Yaml.isBlankOrEnd c = false := by
    rw [Bool.eq_false_iff, ne_eq, isBlankOrEnd_iff visible inLine]
    exact filled
  simp only [isSpecial, isIndicator, List.contains_eq_mem, decide_eq_false_iff_not, List.mem_cons,
    List.not_mem_nil, or_false, not_or] at ordinary start
  simp [Yaml.Scan.isIndicator, Yaml.isFlowMark, unblank, ordinary, start, others]

/-- Behind the first character of a plain text, a blank is a space or the end. -/
theorem isBlankOrEnd_tail_iff (isPlain : IsPlain cs)
    (visible : ∀ c ∈ cs, isControlCode c = false) :
    Yaml.isBlankOrEnd (cs.tail.head?.getD '\n') = true ↔ cs.tail.head?.getD ' ' = ' ' := by
  cases next : cs.tail.head? with
  | none => exact iff_of_true rfl rfl
  | some d =>
    have member : d ∈ cs := List.mem_of_mem_tail (List.mem_of_head? next)
    exact isBlankOrEnd_iff (visible d member) (isPlain.ordinary d member).1

/-- A plain text can be scanned as a scalar, unless it starts with a comma or the mark of a key. -/
theorem opens_iff (isPlain : IsPlain cs) (visible : ∀ c ∈ cs, isControlCode c = false) :
    Yaml.Scan.Opens (cs.head?.getD Yaml.endMark) (cs.tail.head?.getD '\n') ↔
      cs.head? ≠ some ',' ∧ ¬StartsMarked cs := by
  have blank := isBlankOrEnd_tail_iff isPlain visible
  obtain ⟨c, rest, rfl⟩ := List.exists_cons_of_ne_nil isPlain.nonempty
  have noDash : c = '-' → rest.head?.getD ' ' ≠ ' ' := by
    rintro rfl
    obtain ⟨alone, apart⟩ := isPlain.noDash
    cases rest with
    | nil => exact absurd rfl alone
    | cons d rest =>
      rintro rfl
      exact apart (List.prefix_append ['-', ' '] rest)
  simp only [StartsMarked, List.head?_cons, List.tail_cons, Option.getD_some, Option.some.injEq,
    Yaml.Scan.Opens, Bool.eq_false_iff, ne_eq] at blank ⊢
  rw [blank]
  constructor
  · rintro (plain | ⟨mark, next⟩)
    · exact ⟨fun same => plain (same ▸ rfl), fun marked => plain (marked.1 ▸ rfl)⟩
    · refine ⟨?_, fun marked => next marked.2⟩
      rcases mark with rfl | rfl <;> decide
  · rintro ⟨noComma, noMark⟩
    by_cases dash : c = '-'
    · exact .inr ⟨.inl dash, noDash dash⟩
    by_cases mark : c = '?'
    · exact .inr ⟨.inr mark, fun next => noMark ⟨mark, next⟩⟩
    · obtain ⟨inLine, ordinary⟩ := isPlain.ordinary c List.mem_cons_self
      have filled : c ≠ ' ' := by
        rintro rfl
        exact absurd ((trim_eq_self_iff.mp isPlain.trimmed).1 ' ' rfl) (by decide)
      exact .inl (Bool.eq_false_iff.mp (isIndicator_of_marks (visible c List.mem_cons_self) inLine
        filled ordinary (isPlain.start c rfl) ⟨noComma, dash, mark⟩))

private theorem isAllowed_hexChar : ∀ digit < 16, Yaml.isAllowed (hexChar digit) = true := by
  decide

/-- Quotes neither hide nor add a character that is not allowed. -/
theorem all_isAllowed_quotedChar (visible : isControlCode c = false) :
    (quotedChar c).all Yaml.isAllowed = Yaml.isAllowed c := by
  unfold quotedChar
  split
  · next same => subst same; rfl
  split
  · next same => subst same; rfl
  split
  · next same => subst same; rfl
  split
  · next same => subst same; rfl
  split
  · next ends =>
    have number : (hexDigits 4 c.toNat).all Yaml.isAllowed = true :=
      List.all_eq_true.mpr (forall_mem_hexDigits isAllowed_hexChar 4 c.toNat)
    have code : 0x2028 ≤ c.toNat ∧ c.toNat ≤ 0x2029 := by
      simp only [isLineBreak, isControlCode, Bool.or_eq_true, Bool.or_eq_false_iff,
        Bool.and_eq_true, Bool.and_eq_false_iff, decide_eq_true_eq, decide_eq_false_iff_not,
        beq_iff_eq] at ends visible
      omega
    have allowed : Yaml.isAllowed c = true := by
      simp [Yaml.isAllowed]
      omega
    rw [List.all_cons, List.all_cons, number, allowed]
    rfl
  · exact Bool.and_true _

private theorem all_isAllowed_quoted (visible : ∀ c ∈ cs, isControlCode c = false) :
    (quoted cs).all Yaml.isAllowed = cs.all Yaml.isAllowed := by
  have inner : (cs.flatMap quotedChar).all Yaml.isAllowed = cs.all Yaml.isAllowed := by
    rw [List.all_flatMap, Bool.eq_iff_iff, List.all_eq_true, List.all_eq_true]
    exact forall₂_congr fun c member => by rw [all_isAllowed_quotedChar (visible c member)]
  rw [quoted, List.cons_append, List.all_cons, List.all_append, inner]
  exact Bool.and_true _

end Marks

/-- How a text stands in a line. -/
structure Stands (item : Yaml.Item) (text : String) : Prop where
  printable : IsPrintable text
  whole : item.text = text.toList
  plain : item.plain = true ↔ needsQuotes text.toList = .ok false
  formed : formatText text.toList = .ok item.form

theorem exists_stands {text : String} (printable : IsPrintable text) :
    ∃ item, Stands item text := by
  obtain ⟨form, formed⟩ := exists_formatText printable.short
  obtain ⟨quotes, decided, same⟩ := Outcome.map_eq_ok_iff.mp formed
  have noEnd : Yaml.endMark ∉ text.toList := fun member =>
    absurd (printable.visible _ member) (by decide)
  rw [← same] at formed
  cases quotes with
  | true => exact ⟨⟨false, text.toList, nofun, noEnd⟩, printable, rfl, by simp [decided], formed⟩
  | false =>
    have words := words_of_isPlain (isPlain_of_needsQuotes decided) printable.visible
    exact ⟨⟨true, text.toList, fun _ => words, noEnd⟩, printable, rfl, by simp [decided], formed⟩

namespace Stands

variable {item : Yaml.Item} {text : String}

theorem value (stands : Stands item text) : item.value = .text text := by
  rw [Yaml.Item.value, stands.whole, String.ofList_toList]

private theorem isOpen_iff (stands : Stands item text) : item.IsOpen ↔
    (needsQuotes text.toList = .ok false →
      text.toList.head? ≠ some ',' ∧ ¬StartsMarked text.toList) := by
  rw [Yaml.Item.IsOpen, stands.plain, stands.whole]
  exact forall_congr' fun plain =>
    opens_iff (isPlain_of_needsQuotes plain) stands.printable.visible

private theorem isText_iff (stands : Stands item text) : item.IsText ↔
    (needsQuotes text.toList = .ok false → Yaml.Kind.ofText text = .text) := by
  rw [Yaml.Item.IsText, stands.plain, stands.whole, String.ofList_toList]

private theorem all_isAllowed (stands : Stands item text) :
    item.form.all Yaml.isAllowed = text.toList.all Yaml.isAllowed := by
  rw [Yaml.Item.form, stands.whole]
  split
  · rfl
  · exact all_isAllowed_quoted stands.printable.visible

/-- A text is legible just when its item is read as the text. -/
theorem isLegible_iff (stands : Stands item text) :
    IsLegible text ↔ item.form.all Yaml.isAllowed = true ∧ item.IsOpen ∧ item.IsText := by
  rw [isLegible_iff_plain, stands.all_isAllowed, stands.isOpen_iff, stands.isText_iff, forall_and]

private theorem isComma_iff (stands : Stands item text) : item.IsComma ↔
    needsQuotes text.toList = .ok false ∧ text.toList.head? = some ',' := by
  rw [Yaml.Item.IsComma, stands.plain, stands.whole]

theorem isMarked_iff (stands : Stands item text) : item.IsMarked ↔
    needsQuotes text.toList = .ok false ∧ StartsMarked text.toList := by
  rw [Yaml.Item.IsMarked, stands.plain, stands.whole, StartsMarked]
  exact and_congr_right fun plain => and_congr_right fun _ =>
    isBlankOrEnd_tail_iff (isPlain_of_needsQuotes plain) stands.printable.visible

/-- An item that is not open starts with a comma or the mark of a key. -/
theorem isOpen_or (stands : Stands item text) :
    item.IsOpen ∨ item.IsComma ∨ item.IsMarked := by
  rw [stands.isOpen_iff, stands.isComma_iff, stands.isMarked_iff]
  tauto

end Stands

end EditorPlugins.Frontmatter
