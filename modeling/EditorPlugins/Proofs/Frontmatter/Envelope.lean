import EditorPlugins.Frontmatter.Envelope
import EditorPlugins.Proofs.Frontmatter.Written

/-! # Documents that are split as they were joined

None of the lines of written frontmatter is a delimiter. So the envelope ends at the delimiter that
was written behind them, whatever delimiters the body holds, and the body loses only the line ends
that it starts with.
-/

namespace EditorPlugins.Frontmatter

open Text Number

/-- A delimiter has no colon, so a line that has one where it starts like a delimiter is none. -/
theorem isDelimiter_eq_false {line : Line} (colon : line.body.head? = some '-' → ':' ∈ line.body) :
    isDelimiter line = false := by
  apply Bool.eq_false_iff.mpr
  intro same
  have trimmed : trimEnd line.body = delimiter := of_decide_eq_true same
  obtain ⟨dropped, whole, blank⟩ := exists_dropped isBlank line.body
  rw [← trimEnd, trimmed] at whole
  rw [← whole] at colon
  rcases List.mem_append.mp (colon rfl) with inside | outside
  · exact absurd inside (by decide)
  · exact absurd (blank ':' outside) (by decide)

/-- Lines that cannot be delimiters are cut off at the first delimiter behind them. -/
theorem cutLines?_append {block : List Line} {closing : Line} (rest : List Line)
    (inside : ∀ line ∈ block, isDelimiter line = false) (closes : isDelimiter closing = true) :
    cutLines? (block ++ closing :: rest) =
      some ⟨block, (rest.flatMap Line.whole).dropWhile isNewline⟩ := by
  induction block with
  | nil => simp [cutLines?, closes]
  | cons line block ih =>
    obtain ⟨first, later⟩ := List.forall_mem_cons.mp inside
    simp [cutLines?, first, ih later]

/-- The envelope around some lines, with a body behind it. -/
def enveloped (lines : List (List Char)) (body : List Char) : List Char :=
  written (delimiter :: lines ++ [delimiter]) ++ '\n' :: body

theorem cut?_enveloped {lines : List (List Char)} (inside : ∀ line ∈ lines, IsBlockLine line)
    (body : List Char) :
    cut? (enveloped lines body) =
      some ⟨lines.map (⟨·, ['\n']⟩), body.dropWhile isNewline⟩ := by
  have oneLine : ∀ line ∈ delimiter :: lines ++ [delimiter], IsOneLine line := by
    intro line member
    rcases List.mem_append.mp member with member | member
    · rcases List.mem_cons.mp member with rfl | member
      · decide
      · exact (inside line member).oneLine
    · rw [List.mem_singleton.mp member]
      decide
  have noDelimiter : ∀ line ∈ lines.map (Line.mk · ['\n']), isDelimiter line = false := by
    intro line member
    obtain ⟨body, present, rfl⟩ := List.mem_map.mp member
    exact isDelimiter_eq_false (inside body present).colon
  have start : (enveloped lines body).dropWhile isLeading = enveloped lines body := rfl
  rw [cut?, start, enveloped, lines_written_append _ oneLine]
  have opens : (isDelimiter ⟨delimiter, ['\n']⟩ && ['\n'].getLast? = some '\n') = true := by decide
  simp only [List.map_append, List.map_cons, List.map_nil, List.cons_append, List.append_assoc,
    List.nil_append, opens, if_true]
  rw [cutLines?_append _ noDelimiter (by decide), flatMap_whole_lines]
  rfl

/-- A document is split into what its lines write and its body, without the line ends at the start
of the body. -/
theorem split_enveloped {lines : List (List Char)} (inside : ∀ line ∈ lines, IsBlockLine line)
    (body : String) :
    split (String.ofList (enveloped lines body.toList)) =
      (readMapping .document lines).map fun frontmatter =>
        ⟨frontmatter, String.ofList (body.toList.dropWhile isNewline)⟩ := by
  rw [split, String.toList_ofList, cut?_enveloped inside]
  have bodies : (lines.map (Line.mk · ['\n'])).map Line.body = lines := by
    rw [List.map_map]
    exact List.map_id lines
  simp only [bodies]
  rfl

/-- Lines are put in an envelope in front of the body; without lines there is no envelope. -/
theorem join_of_mappingLines {data : Mapping} {order : Option (List Scalar)}
    {lines : List (List Char)} (formed : mappingLines data order = .ok lines) (body : String) :
    join data body order =
      .ok (if lines = [] then body else String.ofList (enveloped lines body.toList)) := by
  have block : write data order = .ok (String.ofList (written lines)) := by
    rw [write, formed]
    rfl
  have emptyIff : (String.ofList (written lines)).isEmpty = true ↔ lines = [] := by
    cases lines <;> simp [written]
  rw [join, block, Outcome.bind_eq_ok_iff]
  refine ⟨_, rfl, ?_⟩
  by_cases empty : lines = []
  · rw [if_pos (emptyIff.mpr empty), if_pos empty]
    rfl
  · rw [if_neg (mt emptyIff.mp empty), if_neg empty, Outcome.pure_eq_ok_iff]
    apply String.toList_inj.mp
    simp [enveloped, written, delimiter]

/-- A document is joined from an envelope and the body, or is the body alone. -/
theorem join_eq_ok {data : Mapping} {body content : String} {order : Option (List Scalar)}
    (joined : join data body order = .ok content) :
    ∃ lines, mappingLines data order = .ok lines ∧
      content = if lines = [] then body else String.ofList (enveloped lines body.toList) := by
  have formed : ∃ lines, mappingLines data order = .ok lines := by
    simp only [join, write, Outcome.bind_eq_ok_iff] at joined
    obtain ⟨text, ⟨lines, formed, -⟩, -⟩ := joined
    exact ⟨lines, formed⟩
  obtain ⟨lines, formed⟩ := formed
  rw [join_of_mappingLines formed] at joined
  exact ⟨lines, formed, (Except.ok.inj joined).symm⟩

end EditorPlugins.Frontmatter
