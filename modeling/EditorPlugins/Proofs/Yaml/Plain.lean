import EditorPlugins.Proofs.Yaml.Cursor
import EditorPlugins.Yaml.Lexeme

/-! # Plain scalars of one line

A plain scalar is words with spaces between them. It ends with its line when the next line is
indented less than the scalar would need to be for going on.
-/

namespace EditorPlugins.Yaml

/-- A character inside a plain word: no blank, and none that can end the scalar. -/
def isInner (c : Char) : Bool := !isBlankOrEnd c && c != ':' && c != '#'

/-- Plain words with spaces between them. -/
inductive Words : List Char → Prop where
  | word {word : List Char} (nonempty : word ≠ []) (inner : ∀ c ∈ word, isInner c = true) :
      Words word
  | more {word spaces rest : List Char} (nonempty : word ≠ [])
      (inner : ∀ c ∈ word, isInner c = true) (apart : spaces ≠ [])
      (blank : ∀ c ∈ spaces, c = ' ') (later : Words rest) : Words (word ++ (spaces ++ rest))

/-- What may stand on the next line where a scalar with some indentation ends: nothing, a key, or an
item of a list. -/
inductive Resumes (indent : Nat) : List Char → Prop where
  | done (positive : 0 < indent) : Resumes indent []
  | key {c : Char} {rest : List Char} (positive : 0 < indent) (letter : c.isAlpha = true) :
      Resumes indent (c :: rest)
  | item {rest : List Char} (deep : 2 < indent) : Resumes indent (' ' :: ' ' :: '-' :: rest)

variable {cursor : Cursor} {c : Char} {cs word rest : List Char} {fuel indent : Nat}

theorem isInner_iff : isInner c = true ↔ isBlankOrEnd c = false ∧ c ≠ ':' ∧ c ≠ '#' := by
  simp [isInner, and_assoc]

theorem isInner_ne (inner : isInner c = true) : c ≠ ' ' ∧ c ≠ '#' ∧ isBreak c = false := by
  obtain ⟨blank, -, comment⟩ := isInner_iff.mp inner
  simp only [isBlankOrEnd, isGap, isLineEnd, Bool.or_eq_false_iff, beq_eq_false_iff_ne] at blank
  exact ⟨blank.2.1, comment, blank.2.2.2⟩

theorem inLine_of_isInner (inner : ∀ c ∈ word, isInner c = true) : InLine word :=
  fun c member => (isInner_ne (inner c member)).2.2

private theorem inLine_spaces {spaces : List Char} (blank : ∀ c ∈ spaces, c = ' ') :
    InLine spaces := by
  intro c member
  rw [blank c member]
  rfl

theorem Words.exists_cons (words : Words cs) : ∃ c rest, cs = c :: rest ∧ isInner c = true := by
  cases words with
  | word nonempty inner =>
    obtain ⟨c, rest, rfl⟩ := List.exists_cons_of_ne_nil nonempty
    exact ⟨c, rest, rfl, inner c List.mem_cons_self⟩
  | more nonempty inner _ _ _ =>
    obtain ⟨c, rest, rfl⟩ := List.exists_cons_of_ne_nil nonempty
    exact ⟨c, _, rfl, inner c List.mem_cons_self⟩

theorem Words.inLine (words : Words cs) : InLine cs := by
  induction words with
  | word nonempty inner => exact inLine_of_isInner inner
  | more nonempty inner apart blank later ih =>
    exact (inLine_of_isInner inner).append ((inLine_spaces blank).append ih)

theorem Words.cons (inner : isInner c = true) (words : Words cs) : Words (c :: cs) := by
  cases words with
  | word nonempty others =>
    exact .word (List.cons_ne_nil _ _) (List.forall_mem_cons.mpr ⟨inner, others⟩)
  | more nonempty others apart blank later =>
    rw [← List.cons_append]
    exact .more (List.cons_ne_nil _ _) (List.forall_mem_cons.mpr ⟨inner, others⟩) apart blank later

/-- Spaces and inner characters that do not end with a space are words behind some spaces. -/
theorem exists_words (nonempty : cs ≠ []) (known : ∀ c ∈ cs, c = ' ' ∨ isInner c = true)
    (last : ∀ c ∈ cs.getLast?, c ≠ ' ') :
    ∃ spaces words, cs = spaces ++ words ∧ (∀ c ∈ spaces, c = ' ') ∧ Words words := by
  induction cs with
  | nil => exact absurd rfl nonempty
  | cons c cs ih =>
    obtain ⟨first, others⟩ := List.forall_mem_cons.mp known
    cases cs with
    | nil =>
      have inner := first.resolve_left (last c rfl)
      exact ⟨[], [c], rfl, nofun, .word (List.cons_ne_nil _ _) (by simpa using inner)⟩
    | cons d cs =>
      obtain ⟨spaces, words, whole, blank, later⟩ := ih (List.cons_ne_nil _ _) others last
      rcases first with rfl | inner
      · exact ⟨' ' :: spaces, words, by rw [whole]; rfl, by simpa using blank, later⟩
      · refine ⟨[], c :: (spaces ++ words), by rw [whole]; rfl, nofun, ?_⟩
        by_cases apart : spaces = []
        · subst apart
          exact later.cons inner
        · exact .more (List.cons_ne_nil c []) (by simpa using inner) apart blank later

/-- A text of spaces and inner characters with no space at its ends is words. -/
theorem words_of_trimmed (nonempty : cs ≠ []) (known : ∀ c ∈ cs, c = ' ' ∨ isInner c = true)
    (first : ∀ c ∈ cs.head?, c ≠ ' ') (last : ∀ c ∈ cs.getLast?, c ≠ ' ') : Words cs := by
  obtain ⟨spaces, words, rfl, blank, later⟩ := exists_words nonempty known last
  cases spaces with
  | nil => exact later
  | cons c spaces => exact absurd (blank c List.mem_cons_self) (first c rfl)

private theorem plain_of_ascii : ∀ n < 128, (Char.ofNat n).isAlpha = true →
    isInner (Char.ofNat n) = true ∧ Char.ofNat n ≠ '-' ∧ Char.ofNat n ≠ '.' := by
  decide

theorem toNat_lt_of_isAlpha (letter : c.isAlpha = true) : c.toNat < 128 := by
  unfold Char.isAlpha Char.isUpper Char.isLower at letter
  simp only [Bool.or_eq_true, Bool.and_eq_true, decide_eq_true_eq, UInt32.le_iff_toNat_le]
    at letter
  change c.val.toNat < 128
  rcases letter with ⟨-, upper⟩ | ⟨-, lower⟩
  · exact Nat.lt_of_le_of_lt upper (by decide)
  · exact Nat.lt_of_le_of_lt lower (by decide)

theorem plain_of_isAlpha (letter : c.isAlpha = true) : isInner c = true ∧ c ≠ '-' ∧ c ≠ '.' := by
  have plain := plain_of_ascii c.toNat (toNat_lt_of_isAlpha letter)
  rw [Char.ofNat_toNat] at plain
  exact plain letter

/-- Behind the spaces of a line: neither the end of the line nor a comment, and less indented than a
scalar would need to be. -/
structure Landed (indent : Nat) (cursor next : Cursor) : Prop where
  inLine : isBreak next.head = false
  noSpace : next.head ≠ ' '
  noComment : next.head ≠ '#'
  column : next.column < indent
  line : next.line = cursor.line

theorem Resumes.landed (resumes : Resumes indent cursor.rest) (start : cursor.column = 0) :
    Landed indent cursor (cursor.dropWhile (· == ' ')) := by
  generalize shape : cursor.rest = rest at resumes
  cases resumes with
  | done positive =>
    have head := Cursor.head_of_nil shape
    rw [Cursor.dropWhile_of_head (by rw [head]; rfl)]
    exact ⟨by rw [head]; rfl, by rw [head]; decide, by rw [head]; decide, start ▸ positive, rfl⟩
  | key positive letter =>
    obtain ⟨space, comment, inLine⟩ := isInner_ne (plain_of_isAlpha letter).1
    rw [← Cursor.head_of_cons shape] at space comment inLine
    rw [Cursor.dropWhile_of_head (by simpa using space)]
    exact ⟨inLine, space, comment, start ▸ positive, rfl⟩
  | item deep =>
    obtain ⟨moved, next, column, line⟩ := Cursor.dropWhile_indent shape (by decide) start
    have head := Cursor.head_of_cons next
    rw [moved]
    exact ⟨by rw [head]; rfl, by rw [head]; decide, by rw [head]; decide,
      by rw [column]; exact deep, line⟩

theorem Resumes.positive (resumes : Resumes indent rest) : 0 < indent := by
  cases resumes with
  | done positive => exact positive
  | key positive _ => exact positive
  | item deep => omega

theorem Resumes.mono {deeper : Nat} (resumes : Resumes indent rest) (le : indent ≤ deeper) :
    Resumes deeper rest := by
  cases resumes with
  | done positive => exact .done (Nat.lt_of_lt_of_le positive le)
  | key positive letter => exact .key (Nat.lt_of_lt_of_le positive le) letter
  | item deep => exact .item (Nat.lt_of_lt_of_le deep le)

private theorem Resumes.noSeparator (resumes : Resumes indent cursor.rest) :
    cursor.startsSeparator = false := by
  generalize shape : cursor.rest = rest at resumes
  cases resumes with
  | done _ =>
    have head : cursor.head = endMark := by rw [Cursor.head, shape]; rfl
    exact Cursor.startsSeparator_eq_false (by rw [head]; decide) (by rw [head]; decide)
  | key _ letter =>
    obtain ⟨-, dash, point⟩ := plain_of_isAlpha letter
    rw [← Cursor.head_of_cons shape] at dash point
    exact Cursor.startsSeparator_eq_false dash point
  | item _ =>
    have head := Cursor.head_of_cons shape
    exact Cursor.startsSeparator_eq_false (by rw [head]; decide) (by rw [head]; decide)

private theorem plainLength_append (inner : ∀ c ∈ word, isInner c = true)
    (stops : plainLength false rest = 0) : plainLength false (word ++ rest) = word.length := by
  induction word with
  | nil => exact stops
  | cons c word ih =>
    obtain ⟨first, others⟩ := List.forall_mem_cons.mp inner
    obtain ⟨blank, colon, -⟩ := isInner_iff.mp first
    rw [List.cons_append, plainLength]
    simp [blank, colon, ih others]

/-- A word is read, and then the gap behind it decides. -/
theorem readPlain_word (indent fuel : Nat) (nonempty : word ≠ [])
    (inner : ∀ c ∈ word, isInner c = true) (shape : cursor.rest = word ++ rest)
    (stops : plainLength false rest = 0) :
    readPlain false indent (fuel + 1) cursor =
      let gap := readPlainGap (cursor.skip word.length)
      if gap.text.isEmpty || gap.cursor.head == '#' || gap.cursor.column < indent then
        ⟨word, gap.newLine, gap.cursor⟩
      else
        let next := readPlain false indent fuel gap.cursor
        if next.text.isEmpty then ⟨word, gap.newLine, gap.cursor⟩
        else ⟨word ++ gap.text ++ next.text, next.newLine, next.cursor⟩ := by
  have positive : word.length ≠ 0 := fun none => nonempty (List.length_eq_zero_iff.mp none)
  have length : (if cursor.head == '#' then 0 else plainLength false cursor.rest) =
      word.length := by
    obtain ⟨c, more, rfl⟩ := List.exists_cons_of_ne_nil nonempty
    have head : cursor.head = c := Cursor.head_of_cons shape
    have noComment := (isInner_iff.mp (inner c List.mem_cons_self)).2.2
    rw [head, if_neg (by simpa using noComment), shape, plainLength_append inner stops]
  have taken : cursor.rest.take word.length = word := by rw [shape]; exact List.take_left
  rw [readPlain]
  simp only [length, positive, taken, if_false, Bool.not_false, Bool.true_and]

theorem readPlainGap_spaces {spaces : List Char} (blank : ∀ c ∈ spaces, c = ' ')
    (shape : cursor.rest = spaces ++ c :: rest) (content : c ≠ ' ') (inLine : isBreak c = false) :
    readPlainGap cursor = ⟨spaces, false, cursor.skip spaces.length⟩ := by
  have taken := Cursor.takeWhile_eq (· == ' ') spaces shape (by simpa using blank)
    (by simpa using content)
  have head := Cursor.head_of_cons (Cursor.along_skip shape (inLine_spaces blank)).rest
  simp only [readPlainGap, taken, head, inLine, Bool.false_eq_true, if_false]

/-- The gap at the end of a line reaches the content of the next one. -/
theorem readPlainGap_feed (shape : cursor.rest = '\n' :: rest) (resumes : Resumes indent rest) :
    readPlainGap cursor = ⟨[' '], true, cursor.step.dropWhile (· == ' ')⟩ := by
  have next := Cursor.step_feed shape
  have later : Resumes indent cursor.step.rest := by rw [next]; exact resumes
  have landed := later.landed (by rw [next])
  have taken := Cursor.takeWhile_eq (· == ' ') [] shape nofun (by simp)
  have head : cursor.head = '\n' := Cursor.head_of_cons shape
  have ends : isBreak '\n' = true := rfl
  simp only [readPlainGap, taken, List.length_nil, Cursor.skip, head, ends, if_true,
    Cursor.lineBreak_feed shape, later.noSeparator, Bool.false_eq_true, if_false, skipPlainBreaks,
    landed.inLine]
  rfl

/-- Words are read as a plain scalar up to the end of their line. -/
theorem readPlain_words (words : Words cs) (enough : cs.length < fuel)
    (shape : cursor.rest = cs ++ '\n' :: rest) (resumes : Resumes indent rest)
    (deep : indent ≤ cursor.column) :
    readPlain false indent fuel cursor =
      ⟨cs, true, (cursor.skip cs.length).step.dropWhile (· == ' ')⟩ := by
  induction words generalizing cursor fuel with
  | @word word nonempty inner =>
    obtain ⟨fuel, rfl⟩ := Nat.exists_eq_add_one_of_ne_zero (Nat.ne_zero_of_lt enough)
    have along := Cursor.along_skip shape (inLine_of_isInner inner)
    have next := Cursor.step_feed along.rest
    have later : Resumes indent (cursor.skip word.length).step.rest := by rw [next]; exact resumes
    have landed := later.landed (by rw [next])
    have filled : [' '].isEmpty = false := rfl
    rw [readPlain_word indent fuel nonempty inner shape rfl, readPlainGap_feed along.rest resumes]
    simp only [filled, Bool.false_or, Bool.or_eq_true, decide_eq_true_eq, landed.column, or_true,
      if_true]
  | @more word spaces cs nonempty inner apart blank later ih =>
    obtain ⟨fuel, rfl⟩ := Nat.exists_eq_add_one_of_ne_zero (Nat.ne_zero_of_lt enough)
    obtain ⟨c, more, rfl, first⟩ := later.exists_cons
    rw [List.append_assoc, List.append_assoc] at shape
    have along := Cursor.along_skip shape (inLine_of_isInner inner)
    have reached := Cursor.along_skip along.rest (inLine_spaces blank)
    have stops : plainLength false (spaces ++ (c :: more ++ '\n' :: rest)) = 0 := by
      obtain ⟨space, others, rfl⟩ := List.exists_cons_of_ne_nil apart
      rw [blank space List.mem_cons_self]
      rfl
    obtain ⟨space, noComment, inLine⟩ := isInner_ne first
    have column : indent ≤ ((cursor.skip word.length).skip spaces.length).column :=
      Nat.le_trans deep (Nat.le_trans along.column reached.column)
    have short : (c :: more).length < fuel := by
      have := List.length_pos_iff.mpr nonempty
      rw [List.length_append, List.length_append] at enough
      omega
    have head : ((cursor.skip word.length).skip spaces.length).head = c :=
      Cursor.head_of_cons reached.rest
    have gap := readPlainGap_spaces blank along.rest space inLine
    have open_ : (spaces.isEmpty || c == '#' ||
        decide (((cursor.skip word.length).skip spaces.length).column < indent)) = false := by
      simp [apart, noComment, column]
    rw [readPlain_word indent fuel nonempty inner shape stops, gap]
    simp only [head, open_, Bool.false_eq_true, if_false, ih short reached.rest column,
      List.isEmpty_cons]
    simp only [List.append_assoc, List.length_append, Cursor.skip_add]

end EditorPlugins.Yaml
