import EditorPlugins.Proofs.Frontmatter.Quoted
import EditorPlugins.Proofs.Yaml.Cursor
import EditorPlugins.Yaml.Lexeme

/-! # Quoted texts in a YAML text

What frontmatter quotes is a quoted scalar with the same text: both languages agree on the escapes
that are written, and line ends, which would be folded, are written as escapes.
-/

namespace EditorPlugins.Yaml

open Text Frontmatter

variable {cursor : Cursor} {c : Char} {cs rest : List Char} {fuel : Nat}

theorem isLineBreak_of_isBreak (ends : isBreak c = true) : isLineBreak c = true := by
  simp only [isBreak, Bool.or_eq_true, beq_iff_eq] at ends
  rcases ends with (((rfl | rfl) | rfl) | rfl) | rfl <;> rfl

theorem inLine_of_isOneLine (oneLine : IsOneLine cs) : InLine cs := fun c member =>
  Bool.eq_false_iff.mpr fun ends =>
    Bool.eq_false_iff.mp (oneLine c member) (isLineBreak_of_isBreak ends)

private theorem inLine_flatMap_quotedChar (cs : List Char) : InLine (cs.flatMap quotedChar) := by
  intro c member
  obtain ⟨source, -, present⟩ := List.mem_flatMap.mp member
  exact inLine_of_isOneLine (isOneLine_quotedChar source) c present

/-- A line break other than a feed and a return is escaped by four digits. -/
theorem readEscape_hexDigits (ends : isLineBreak c = true)
    (shape : cursor.rest = 'u' :: hexDigits 4 c.toNat ++ rest) :
    readEscape cursor = .ok ([c], cursor.skip 5) := by
  have width : (hexDigits 4 c.toNat).length = 4 := rfl
  have read : hexNumber? (hexDigits 4 c.toNat) = some c.toNat ∧ c.toNat < 0x110000 := by
    have known : c.toNat = 0x0A ∨ c.toNat = 0x0B ∨ c.toNat = 0x0C ∨ c.toNat = 0x0D ∨
        c.toNat = 0x1C ∨ c.toNat = 0x1D ∨ c.toNat = 0x1E ∨ c.toNat = 0x85 ∨ c.toNat = 0x2028 ∨
        c.toNat = 0x2029 := by
      simp only [isLineBreak, Bool.or_eq_true, Bool.and_eq_true, decide_eq_true_eq, beq_iff_eq]
        at ends
      omega
    rcases known with n | n | n | n | n | n | n | n | n | n <;> rw [n] <;> exact ⟨rfl, by decide⟩
  have head := Cursor.head_of_cons shape
  have along := Cursor.along_step shape rfl
  have digits : cursor.step.rest.take 4 = hexDigits 4 c.toNat := by
    rw [along.rest]
    exact List.take_left' width
  have code : escaped? 'u' = none ∧ escapeWidth? 'u' = some 4 := ⟨rfl, rfl⟩
  have fits : ¬0x80000000 ≤ c.toNat := fun large => by omega
  simp only [readEscape, head, code, digits, width, Nat.lt_irrefl, if_false, read.1, fits,
    Nat.not_le.mpr read.2, Char.ofNat_toNat]

/-- A character that is escaped is read from its escape. -/
theorem readEscape_quotedChar {code : List Char} (escape : quotedChar c = '\\' :: code)
    (shape : cursor.rest = code ++ rest) :
    readEscape cursor = .ok ([c], cursor.skip code.length) := by
  unfold quotedChar at escape
  split at escape
  · next same =>
    cases escape
    rw [readEscape, Cursor.head_of_cons shape, same]
    rfl
  split at escape
  · next same =>
    cases escape
    rw [readEscape, Cursor.head_of_cons shape, same]
    rfl
  split at escape
  · next same =>
    cases escape
    rw [readEscape, Cursor.head_of_cons shape, same]
    rfl
  split at escape
  · next same =>
    cases escape
    rw [readEscape, Cursor.head_of_cons shape, same]
    rfl
  split at escape
  · next ends =>
    cases escape
    exact readEscape_hexDigits ends shape
  · next backslash _ _ _ _ =>
    cases escape
    exact absurd rfl backslash

/-- A character is escaped, or it stands for itself and has no meaning of its own. -/
theorem quotedChar_cases (c : Char) :
    (∃ code, quotedChar c = '\\' :: code) ∨
      quotedChar c = [c] ∧ c ≠ '\\' ∧ c ≠ '"' ∧ isBreak c = false := by
  unfold quotedChar
  split
  · exact .inl ⟨_, rfl⟩
  split
  · exact .inl ⟨_, rfl⟩
  split
  · exact .inl ⟨_, rfl⟩
  split
  · exact .inl ⟨_, rfl⟩
  split
  · exact .inl ⟨_, rfl⟩
  next backslash quote _ _ plain =>
  refine .inr ⟨rfl, backslash, quote, Bool.eq_false_iff.mpr fun ends => ?_⟩
  exact plain (isLineBreak_of_isBreak ends)

private theorem isBreak_of_isSpace (space : isSpace c = true) : isBreak c = false := by
  simp only [isSpace, Bool.or_eq_true, beq_iff_eq] at space
  rcases space with rfl | rfl <;> rfl

private theorem quotedChar_of_isSpace (space : isSpace c = true) : quotedChar c = [c] := by
  simp only [isSpace, Bool.or_eq_true, beq_iff_eq] at space
  rcases space with rfl | rfl <;> rfl

/-- Behind its blanks a quoted text goes on with another character, or its closing quote. -/
theorem head?_quoted (noEnd : endMark ∉ cs) (filled : ∀ c ∈ cs.head?, isSpace c = false) :
    ∃ c, (cs.flatMap quotedChar ++ '"' :: rest).head? = some c ∧ isSpace c = false ∧
      isBreak c = false ∧ c ≠ endMark := by
  cases cs with
  | nil => exact ⟨'"', rfl, rfl, rfl, by decide⟩
  | cons c cs =>
    have known : c ≠ endMark := fun same => noEnd (same ▸ List.mem_cons_self)
    rcases quotedChar_cases c with ⟨code, escape⟩ | ⟨itself, -, -, inLine⟩
    · refine ⟨'\\', ?_, rfl, rfl, by decide⟩
      rw [List.flatMap_cons, escape]
      rfl
    · refine ⟨c, ?_, filled c rfl, inLine, known⟩
      rw [List.flatMap_cons, itself]
      rfl

private theorem flatMap_quotedChar_of_isSpace {spaces : List Char}
    (blank : ∀ c ∈ spaces, isSpace c = true) :
    spaces.flatMap quotedChar = spaces := by
  induction spaces with
  | nil => rfl
  | cons c spaces ih =>
    obtain ⟨first, later⟩ := List.forall_mem_cons.mp blank
    rw [List.flatMap_cons, quotedChar_of_isSpace first, ih later]
    rfl

/-- Blanks inside a line stand for themselves. -/
theorem readQuotedGap_spaces {spaces : List Char} (blank : ∀ c ∈ spaces, isSpace c = true)
    (shape : cursor.rest = spaces ++ rest)
    (filled : ∃ c, rest.head? = some c ∧ isSpace c = false ∧ isBreak c = false ∧ c ≠ endMark) :
    readQuotedGap cursor = .ok (spaces, cursor.skip spaces.length) := by
  obtain ⟨c, first, other, inLine, known⟩ := filled
  have stops : ∀ c ∈ rest.head?, isSpace c = false := by
    rw [first]
    rintro _ ⟨⟩
    exact other
  have head : (cursor.skip spaces.length).head = c := by
    rw [Cursor.head, (Cursor.along_skip shape fun c member =>
      isBreak_of_isSpace (blank c member)).rest, first]
    rfl
  have open_ : (c == endMark) = false := beq_false_of_ne known
  simp only [readQuotedGap, Cursor.takeWhile_eq isSpace spaces shape blank stops, head, open_, inLine,
    Bool.false_eq_true, if_false]

/-- One part of a quoted text: what stands for some characters, in front of the rest. -/
theorem readQuoted_step {next : Cursor} (fuel : Nat) (text : List Char)
    (inside : (cursor.head == '"') = false)
    (part : (if cursor.head == '\\' then readEscape cursor.step
      else if isBlankOrEnd cursor.head then readQuotedGap cursor
      else pure ([cursor.head], cursor.step)) = .ok (text, next)) :
    readQuoted true (fuel + 1) cursor =
      (readQuoted true fuel next).map fun (rest, cursor) => (text ++ rest, cursor) := by
  have later : (do
      let (rest, cursor) ← readQuoted true fuel next
      pure (text ++ rest, cursor) : Read (List Char × Cursor)) =
      (readQuoted true fuel next).map fun (rest, cursor) => (text ++ rest, cursor) := by
    cases readQuoted true fuel next <;> rfl
  rw [readQuoted]
  simp only [Bool.not_true, Bool.false_and, Bool.false_eq_true, if_false, if_true, inside,
    Bool.true_and]
  split at part
  · rw [if_pos ‹_›, part]
    exact later
  rw [if_neg ‹_›]
  split at part
  · rw [if_pos ‹_›, part]
    exact later
  · rw [if_neg ‹_›, part]
    exact later

/-- A character that is no blank is read from its own form. -/
theorem readQuoted_char (fuel : Nat) (filled : isSpace c = false) (known : c ≠ endMark)
    (shape : cursor.rest = quotedChar c ++ rest) :
    readQuoted true (fuel + 1) cursor =
      (readQuoted true fuel (cursor.skip (quotedChar c).length)).map
        fun (rest, cursor) => (c :: rest, cursor) := by
  rcases quotedChar_cases c with ⟨code, escape⟩ | ⟨itself, backslash, quote, inLine⟩
  · rw [escape] at shape ⊢
    have head : cursor.head = '\\' := Cursor.head_of_cons shape
    have after : cursor.step.rest = code ++ rest := (Cursor.along_step shape rfl).rest
    refine readQuoted_step fuel [c] (by rw [head]; rfl) ?_
    rw [head]
    exact readEscape_quotedChar escape after
  · rw [itself] at shape ⊢
    have head : cursor.head = c := Cursor.head_of_cons shape
    have ordinary : isBlankOrEnd c = false := by
      simp only [isSpace, Bool.or_eq_false_iff] at filled
      simp [isBlankOrEnd, isGap, isLineEnd, filled, inLine, known]
    refine readQuoted_step fuel [c] (by rw [head]; exact beq_false_of_ne quote) ?_
    rw [head, if_neg (by simpa using backslash), ordinary]
    rfl

/-- Blanks are read together. -/
theorem readQuoted_spaces {spaces : List Char} (fuel : Nat) (nonempty : spaces ≠ [])
    (blank : ∀ c ∈ spaces, isSpace c = true) (shape : cursor.rest = spaces ++ rest)
    (filled : ∃ c, rest.head? = some c ∧ isSpace c = false ∧ isBreak c = false ∧ c ≠ endMark) :
    readQuoted true (fuel + 1) cursor =
      (readQuoted true fuel (cursor.skip spaces.length)).map
        fun (rest, cursor) => (spaces ++ rest, cursor) := by
  obtain ⟨c, more, rfl⟩ := List.exists_cons_of_ne_nil nonempty
  have head : cursor.head = c := Cursor.head_of_cons shape
  have known : (c = ' ' ∨ c = '\t') := by
    simpa [isSpace] using blank c List.mem_cons_self
  have first : (c == '"') = false ∧ (c == '\\') = false ∧ isBlankOrEnd c = true := by
    rcases known with rfl | rfl <;> exact ⟨rfl, rfl, rfl⟩
  refine readQuoted_step fuel _ (by rw [head]; exact first.1) ?_
  simp only [head, first.2, Bool.false_eq_true, if_false, if_true]
  exact readQuotedGap_spaces blank shape filled

/-- A quoted text is read back up to its closing quote. -/
theorem readQuoted_flatMap (noEnd : endMark ∉ cs) (enough : cs.length < fuel)
    (shape : cursor.rest = cs.flatMap quotedChar ++ '"' :: rest) :
    readQuoted true fuel cursor = .ok (cs, cursor.skip ((cs.flatMap quotedChar).length + 1)) := by
  -- Blanks are read together, so the induction is on the length and not on the characters.
  induction size : cs.length using Nat.strongRecOn generalizing cs cursor fuel with
  | _ size ih =>
  obtain ⟨fuel, rfl⟩ := Nat.exists_eq_add_one_of_ne_zero (Nat.ne_zero_of_lt enough)
  have goOn (first : List Char) {later : List Char} (nonempty : first ≠ [])
      (whole : cs = first ++ later) :
      (readQuoted true fuel (cursor.skip (first.flatMap quotedChar).length)).map
        (fun (rest, cursor) => (first ++ rest, cursor)) =
          .ok (cs, cursor.skip ((cs.flatMap quotedChar).length + 1)) := by
    subst whole
    have positive := List.length_pos_iff.mpr nonempty
    rw [List.length_append] at size enough
    rw [List.flatMap_append, List.append_assoc] at shape
    have absent : endMark ∉ later := fun present => noEnd (List.mem_append_right _ present)
    have short : later.length < fuel := by omega
    have read := ih later.length (by omega) absent short
      (Cursor.along_skip shape (inLine_flatMap_quotedChar first)).rest rfl
    rw [read, ← Cursor.skip_add, List.flatMap_append, List.length_append, Nat.add_assoc]
    rfl
  cases cs with
  | nil =>
    have head : cursor.head = '"' := Cursor.head_of_cons shape
    rw [readQuoted]
    simp only [head]
    rfl
  | cons c cs =>
    cases space : isSpace c with
    | false =>
      have known : c ≠ endMark := fun same => noEnd (same ▸ List.mem_cons_self)
      have read := goOn [c] (List.cons_ne_nil _ _) rfl
      rw [List.flatMap_singleton] at read
      rw [List.flatMap_cons, List.append_assoc] at shape
      rw [readQuoted_char fuel space known shape]
      exact read
    | true =>
      -- All the blanks here, and what follows them.
      have whole : c :: cs = (c :: cs).takeWhile isSpace ++ (c :: cs).dropWhile isSpace :=
        List.takeWhile_append_dropWhile.symm
      have nonempty : (c :: cs).takeWhile isSpace ≠ [] := by
        rw [List.takeWhile_cons_of_pos space]
        exact List.cons_ne_nil _ _
      have blank : ∀ d ∈ (c :: cs).takeWhile isSpace, isSpace d = true :=
        List.all_eq_true.mp List.all_takeWhile
      have read := goOn _ nonempty whole
      have stands := flatMap_quotedChar_of_isSpace blank
      have filled : ∀ d ∈ ((c :: cs).dropWhile isSpace).head?, isSpace d = false :=
        keep_of_head?_dropWhile
      have absent : endMark ∉ (c :: cs).dropWhile isSpace := fun present =>
        noEnd (whole ▸ List.mem_append_right _ present)
      rw [whole, List.flatMap_append, List.append_assoc, stands] at shape
      rw [stands] at read
      rw [readQuoted_spaces fuel nonempty blank shape (head?_quoted absent filled)]
      exact read

/-- A quoted text is read back behind its opening quote. -/
theorem readQuoted_quoted (noEnd : endMark ∉ cs) (enough : cs.length < fuel)
    (shape : cursor.rest = quoted cs ++ rest) :
    readQuoted true fuel cursor.step = .ok (cs, cursor.skip (quoted cs).length) := by
  have size : (quoted cs).length = (cs.flatMap quotedChar).length + 1 + 1 := by simp [quoted]
  have inner : cursor.rest = '"' :: (cs.flatMap quotedChar ++ '"' :: rest) := by
    rw [shape]
    simp [quoted]
  rw [readQuoted_flatMap noEnd enough (Cursor.along_step inner rfl).rest, size]
  rfl

theorem length_le_quoted (cs : List Char) : cs.length ≤ (quoted cs).length := by
  have grows (c : Char) : 1 ≤ (quotedChar c).length := by
    rcases quotedChar_cases c with ⟨code, escape⟩ | ⟨itself, -⟩
    · rw [escape, List.length_cons]
      omega
    · rw [itself]
      exact Nat.le_refl 1
  have inner : cs.length ≤ (cs.flatMap quotedChar).length := by
    induction cs with
    | nil => exact Nat.le_refl _
    | cons c cs ih =>
      have first := grows c
      rw [List.flatMap_cons, List.length_append, List.length_cons]
      omega
  rw [quoted, List.cons_append, List.length_cons, List.length_append]
  omega

end EditorPlugins.Yaml
