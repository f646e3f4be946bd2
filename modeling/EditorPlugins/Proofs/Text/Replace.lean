import EditorPlugins.Proofs.Text.Pieces

/-! # Replacing occurrences of a text

The occurrences of a text cut another one into parts, and replacing them joins the same parts with
what takes the place of the occurrences. Where neither the text nor its replacement holds a
separator, replacing goes on in each piece between separators on its own.
-/

namespace EditorPlugins.Text

private theorem exists_parts_replaceFrom {old : List Char} (nonempty : old ≠ []) (skip : Nat)
    (cs : List Char) : ∃ parts, parts ≠ [] ∧ cs.drop skip = joinWith old parts ∧
      ∀ new, replaceFrom old new skip cs = joinWith new parts := by
  induction cs generalizing skip with
  | nil =>
    refine ⟨[[]], List.cons_ne_nil _ _, List.drop_nil, fun new => ?_⟩
    simp [replaceFrom, joinWith]
  | cons c cs ih =>
    cases skip with
    | succ skip => simpa [replaceFrom] using ih skip
    | zero =>
      by_cases found : old.isPrefixOf (c :: cs) = true
      · obtain ⟨parts, some, whole, replaced⟩ := ih (old.length - 1)
        refine ⟨[] :: parts, List.cons_ne_nil _ _, ?_, fun new => ?_⟩
        · obtain ⟨rest, same⟩ := List.isPrefixOf_iff_prefix.mp found
          have tail : cs.drop (old.length - 1) = rest := by
            obtain ⟨first, more, rfl⟩ := List.exists_cons_of_ne_nil nonempty
            simp only [List.cons_append, List.cons.injEq] at same
            simp [← same.2]
          rw [joinWith_cons _ _ some, ← whole, tail, List.drop_zero, ← same, List.nil_append]
        · rw [joinWith_cons _ _ some, ← replaced]
          simp [replaceFrom, found]
      · obtain ⟨parts, some, whole, replaced⟩ := ih 0
        obtain ⟨part, parts, rfl⟩ := List.exists_cons_of_ne_nil some
        have extended (sep : List Char) :
            c :: joinWith sep (part :: parts) = joinWith sep ((c :: part) :: parts) := by
          cases parts <;> simp [joinWith]
        refine ⟨(c :: part) :: parts, List.cons_ne_nil _ _, ?_, fun new => ?_⟩
        · rw [← extended, ← whole, List.drop_zero, List.drop_zero]
        · rw [← extended, ← replaced]
          simp [replaceFrom, found]

/-- A text is what the occurrences of another one join, and replacing these joins the same parts. -/
theorem exists_parts {old : List Char} (nonempty : old ≠ []) (cs : List Char) :
    ∃ parts, parts ≠ [] ∧ cs = joinWith old parts ∧
      ∀ new, replaceAll old new cs = joinWith new parts :=
  exists_parts_replaceFrom nonempty 0 cs

section Steps

variable {old new : List Char}

private theorem replaceFrom_length (passed cs : List Char) :
    replaceFrom old new passed.length (passed ++ cs) = replaceAll old new cs := by
  induction passed with
  | nil => rfl
  | cons c passed ih => exact ih

/-- An occurrence is replaced, and replacing goes on behind it. -/
theorem replaceAll_append (nonempty : old ≠ []) (cs : List Char) :
    replaceAll old new (old ++ cs) = new ++ replaceAll old new cs := by
  obtain ⟨c, passed, rfl⟩ := List.exists_cons_of_ne_nil nonempty
  have found : (c :: passed).isPrefixOf (c :: (passed ++ cs)) = true :=
    List.isPrefixOf_iff_prefix.mpr (List.prefix_append (c :: passed) cs)
  rw [List.cons_append, replaceAll, replaceFrom, if_pos found, List.length_cons, Nat.add_sub_cancel,
    replaceFrom_length]

/-- A character at which no occurrence starts is kept. -/
theorem replaceAll_cons_of_not {c : Char} {cs : List Char} (absent : ¬old <+: c :: cs) :
    replaceAll old new (c :: cs) = c :: replaceAll old new cs := by
  rw [replaceAll, replaceFrom, if_neg (mt List.isPrefixOf_iff_prefix.mp absent)]
  rfl

/-- A text without occurrences stays as it is. -/
theorem replaceAll_of_absent {cs : List Char} (absent : ¬old <:+: cs) :
    replaceAll old new cs = cs := by
  induction cs with
  | nil => rfl
  | cons c cs ih =>
    have start : ¬old <+: c :: cs := fun start => absent start.isInfix
    have inside : ¬old <:+: cs := fun inside => absent (List.infix_cons inside)
    rw [replaceAll_cons_of_not start, ih inside]

end Steps

section Pieces

variable {sep : Char} {old new : List Char}

/-- A text without the separator cannot reach over one. -/
private theorem isPrefix_append_sep_iff (absent : sep ∉ old) {piece cs : List Char} :
    old <+: piece ++ sep :: cs ↔ old <+: piece := by
  refine ⟨fun within => ?_, fun within => within.trans (List.prefix_append _ _)⟩
  have cut : piece ++ [sep] <+: piece ++ sep :: cs := ⟨cs, by simp⟩
  rcases List.prefix_or_prefix_of_prefix within cut with shorter | longer
  · rcases List.prefix_concat_iff.mp shorter with rfl | here
    · simp at absent
    · exact here
  · exact absurd (longer.subset (by simp)) absent

private theorem replaceFrom_append_sep (nonempty : old ≠ []) (absent : sep ∉ old)
    {piece : List Char} {skip : Nat} (short : skip ≤ piece.length) (cs : List Char) :
    replaceFrom old new skip (piece ++ sep :: cs) =
      replaceFrom old new skip piece ++ sep :: replaceFrom old new 0 cs := by
  induction piece generalizing skip with
  | nil =>
    obtain rfl := Nat.le_zero.mp short
    have other : ¬ old.isPrefixOf (sep :: cs) = true := by
      rw [List.isPrefixOf_iff_prefix]
      exact fun found => nonempty (List.prefix_nil.mp ((isPrefix_append_sep_iff absent).mp found))
    simp [replaceFrom, other]
  | cons c piece ih =>
    cases skip with
    | succ skip => simpa [replaceFrom] using ih (Nat.le_of_succ_le_succ short)
    | zero =>
      have same : old.isPrefixOf (c :: (piece ++ sep :: cs)) = old.isPrefixOf (c :: piece) := by
        rw [Bool.eq_iff_iff, List.isPrefixOf_iff_prefix, List.isPrefixOf_iff_prefix,
          ← List.cons_append, isPrefix_append_sep_iff absent]
      by_cases found : old.isPrefixOf (c :: piece) = true
      · have fits := (List.isPrefixOf_iff_prefix.mp found).length_le
        rw [List.length_cons] at fits
        simp [replaceFrom, same, found, ih (Nat.sub_le_of_le_add fits)]
      · simp [replaceFrom, same, found, ih (Nat.zero_le _)]

/-- Replacing goes on in each piece between separators on its own. -/
theorem pieces_replaceAll (nonempty : old ≠ []) (absent : sep ∉ old) (absentNew : sep ∉ new)
    (cs : List Char) :
    pieces sep (replaceAll old new cs) = (pieces sep cs).map (replaceAll old new) := by
  have clear {piece : List Char} (plain : sep ∉ piece) : sep ∉ replaceAll old new piece := by
    obtain ⟨parts, -, whole, replaced⟩ := exists_parts nonempty piece
    rw [replaced]
    intro inside
    rcases mem_joinWith inside with between | ⟨part, member, found⟩
    · exact absentNew between
    · exact plain (whole ▸ mem_joinWith_of_mem member found)
  suffices joined : ∀ texts : List (List Char), texts ≠ [] → (∀ text ∈ texts, sep ∉ text) →
      pieces sep (replaceAll old new (joinWith [sep] texts)) =
        texts.map (replaceAll old new) by
    have cut := joined (pieces sep cs) (pieces_ne_nil sep cs) fun _ => not_mem_of_mem_pieces
    rwa [joinWith_pieces] at cut
  intro texts some plain
  induction texts with
  | nil => exact absurd rfl some
  | cons text texts ih =>
    obtain ⟨first, later⟩ := List.forall_mem_cons.mp plain
    by_cases last : texts = []
    · rw [last]
      exact pieces_of_not_mem (clear first)
    · rw [joinWith_cons _ _ last, List.append_assoc, List.singleton_append, replaceAll,
        replaceFrom_append_sep nonempty absent (Nat.zero_le _)]
      exact (pieces_append _ (clear first)).trans (congrArg _ (ih last later))

end Pieces

end EditorPlugins.Text
