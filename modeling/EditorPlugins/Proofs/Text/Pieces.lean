import EditorPlugins.Text.Basic

/-! # Cutting at a separator and joining

Joining undoes cutting for every text, and cutting undoes joining for every list of texts without
the separator.
-/

namespace EditorPlugins.Text

theorem joinWith_cons (sep text : List Char) {texts : List (List Char)} (nonempty : texts ≠ []) :
    joinWith sep (text :: texts) = text ++ sep ++ joinWith sep texts := by
  obtain ⟨next, rest, rfl⟩ := List.exists_cons_of_ne_nil nonempty
  rfl

theorem mem_joinWith_of_mem {sep text : List Char} {texts : List (List Char)} {c : Char}
    (member : text ∈ texts) (inside : c ∈ text) : c ∈ joinWith sep texts := by
  induction texts with
  | nil => cases member
  | cons first texts ih =>
    cases texts with
    | nil => exact List.mem_singleton.mp member ▸ inside
    | cons next rest =>
      rw [joinWith_cons _ _ (List.cons_ne_nil _ _), List.mem_append]
      rcases List.mem_cons.mp member with rfl | later
      · exact .inl (List.mem_append_left _ inside)
      · exact .inr (ih later)

theorem mem_joinWith {sep : List Char} {texts : List (List Char)} {c : Char}
    (inside : c ∈ joinWith sep texts) : c ∈ sep ∨ ∃ text ∈ texts, c ∈ text := by
  induction texts with
  | nil => cases inside
  | cons first texts ih =>
    cases texts with
    | nil => exact .inr ⟨first, List.mem_cons_self, inside⟩
    | cons next rest =>
      rw [joinWith_cons _ _ (List.cons_ne_nil _ _), List.mem_append, List.mem_append] at inside
      rcases inside with (here | between) | later
      · exact .inr ⟨first, List.mem_cons_self, here⟩
      · exact .inl between
      · exact (ih later).imp_right fun ⟨text, member, found⟩ =>
          ⟨text, List.mem_cons_of_mem _ member, found⟩

theorem not_mem_of_mem_pieces {sep : Char} {cs piece : List Char}
    (member : piece ∈ pieces sep cs) : sep ∉ piece := by
  induction cs generalizing piece with
  | nil =>
    rw [List.mem_singleton.mp member]
    exact List.not_mem_nil
  | cons c cs ih =>
    simp only [pieces] at member
    split at member
    · rcases List.mem_cons.mp member with rfl | later
      · exact List.not_mem_nil
      · exact ih later
    · next other =>
      split at member
      · rw [List.mem_singleton.mp member]
        simpa using Ne.symm other
      · next first rest cut =>
        rw [cut] at ih
        rcases List.mem_cons.mp member with rfl | later
        · simpa using ⟨Ne.symm other, ih List.mem_cons_self⟩
        · exact ih (List.mem_cons_of_mem _ later)

theorem mem_of_mem_pieces {sep c : Char} {cs piece : List Char} (member : piece ∈ pieces sep cs)
    (inside : c ∈ piece) : c ∈ cs := by
  rw [← joinWith_pieces sep cs]
  exact mem_joinWith_of_mem member inside

theorem pieces_of_not_mem {sep : Char} {cs : List Char} (absent : sep ∉ cs) :
    pieces sep cs = [cs] := by
  induction cs with
  | nil => rfl
  | cons c cs ih =>
    simp only [List.mem_cons, not_or] at absent
    simp [pieces, Ne.symm absent.1, ih absent.2]

/-- A piece without the separator is cut off in front of one. -/
theorem pieces_append {sep : Char} {piece : List Char} (cs : List Char) (absent : sep ∉ piece) :
    pieces sep (piece ++ sep :: cs) = piece :: pieces sep cs := by
  induction piece with
  | nil => simp [pieces]
  | cons c piece ih =>
    simp only [List.mem_cons, not_or] at absent
    simp [pieces, Ne.symm absent.1, ih absent.2]

/-- Cutting undoes joining. -/
theorem pieces_joinWith {sep : Char} {texts : List (List Char)} (nonempty : texts ≠ [])
    (absent : ∀ text ∈ texts, sep ∉ text) : pieces sep (joinWith [sep] texts) = texts := by
  induction texts with
  | nil => exact absurd rfl nonempty
  | cons text texts ih =>
    obtain ⟨first, later⟩ := List.forall_mem_cons.mp absent
    cases texts with
    | nil => exact pieces_of_not_mem first
    | cons next rest =>
      have present : next :: rest ≠ [] := List.cons_ne_nil _ _
      rw [joinWith_cons _ _ present, List.append_assoc, List.singleton_append,
        pieces_append _ first, ih present later]

theorem joinWith_append (sep : List Char) {texts more : List (List Char)}
    (nonempty : texts ≠ []) (also : more ≠ []) :
    joinWith sep (texts ++ more) = joinWith sep texts ++ sep ++ joinWith sep more := by
  induction texts with
  | nil => exact absurd rfl nonempty
  | cons text texts ih =>
    cases texts with
    | nil => exact joinWith_cons sep text also
    | cons next rest =>
      have present : next :: rest ≠ [] := List.cons_ne_nil _ _
      rw [List.cons_append, joinWith_cons _ _ (List.append_ne_nil_of_left_ne_nil present _),
        joinWith_cons _ _ present, ih present]
      simp only [List.append_assoc]

theorem joinWith_append_singleton (sep : List Char) {texts : List (List Char)}
    (nonempty : texts ≠ []) (last : List Char) :
    joinWith sep (texts ++ [last]) = joinWith sep texts ++ sep ++ last :=
  joinWith_append sep nonempty (List.cons_ne_nil _ _)

/-- What is joined starts like its first text, or with the separator. -/
theorem head?_joinWith_cons (sep text : List Char) (texts : List (List Char)) {c : Char}
    (first : (joinWith sep (text :: texts)).head? = some c) (nonempty : sep ≠ []) :
    text.head? = some c ∨ c ∈ sep := by
  cases texts with
  | nil => exact .inl first
  | cons next rest =>
    rw [joinWith_cons _ _ (List.cons_ne_nil _ _), List.append_assoc] at first
    cases text with
    | cons d text => exact .inl first
    | nil =>
      obtain ⟨d, sep, rfl⟩ := List.exists_cons_of_ne_nil nonempty
      cases first
      exact .inr List.mem_cons_self

/-- What is joined ends like its last text, or with the separator. -/
theorem getLast?_joinWith_concat (sep : List Char) (texts : List (List Char)) {text : List Char}
    {c : Char} (last : (joinWith sep (texts ++ [text])).getLast? = some c) (nonempty : sep ≠ []) :
    text.getLast? = some c ∨ c ∈ sep := by
  by_cases none : texts = []
  · rw [none] at last
    exact .inl last
  · rw [joinWith_append_singleton sep none, List.getLast?_append] at last
    cases ends : text.getLast? with
    | some d =>
      rw [ends] at last
      exact .inl last
    | none =>
      rw [ends, Option.none_or, List.getLast?_append,
        List.getLast?_eq_some_getLast nonempty] at last
      cases last
      exact .inr (List.getLast_mem _)

theorem getLast?_joinWith_of_concat (sep : List Char) (texts : List (List Char))
    {text : List Char} {c : Char} (last : text.getLast? = some c) :
    (joinWith sep (texts ++ [text])).getLast? = some c := by
  by_cases none : texts = []
  · rw [none]
    exact last
  · rw [joinWith_append_singleton sep none, List.getLast?_append, last, Option.some_or]

private theorem length_joinWith_cons (sep text : List Char) (texts : List (List Char)) :
    (joinWith sep (text :: texts)).length =
      text.length + if texts = [] then 0 else sep.length + (joinWith sep texts).length := by
  cases texts <;> simp [joinWith]

/-- Leaving texts out makes what is joined no longer. -/
theorem length_joinWith_le_of_sublist (sep : List Char) {chosen texts : List (List Char)}
    (sublist : chosen.Sublist texts) :
    (joinWith sep chosen).length ≤ (joinWith sep texts).length := by
  induction sublist with
  | slnil => exact Nat.le_refl _
  | @cons chosen texts text sublist ih =>
    rw [length_joinWith_cons]
    split
    · next none =>
      rw [none, List.sublist_nil] at sublist
      simp [sublist, joinWith]
    · omega
  | @cons_cons chosen texts text sublist ih =>
    rw [length_joinWith_cons, length_joinWith_cons]
    split
    · omega
    · next present =>
      have longer : texts ≠ [] := by
        rintro rfl
        exact present (List.sublist_nil.mp sublist)
      rw [if_neg longer]
      omega

end EditorPlugins.Text
