import EditorPlugins.Proofs.Text.Lines
import Mathlib.Data.List.Induction

/-! # Where lines end

A text that is empty or ends with a line break is closed: nothing that follows it adds to its last
line. A feed behind a return is the one case in which it adds to the ending of that line. Endings
say nothing about the lines themselves, so feeds may stand alone or each behind a return.
-/

namespace EditorPlugins.Text

/-- A text that is empty or ends with a line break. -/
def IsClosed (cs : List Char) : Prop := ∀ c ∈ cs.getLast?, isLineBreak c = true

instance : DecidablePred IsClosed := fun cs => Option.decidableForallMem cs.getLast?

/-- A closed text without its first character is closed. -/
theorem IsClosed.tail {c : Char} {cs : List Char} (closed : IsClosed (c :: cs)) : IsClosed cs := by
  intro last member
  obtain ⟨before, rfl⟩ := List.getLast?_eq_some_iff.mp member
  exact closed last (List.getLast?_concat (l := c :: before))

private theorem map_body_consLine {ls : List Line} {body : List Char} {bodies : List (List Char)}
    (c : Char)
    (shape : ls.map Line.body = body :: bodies) :
    (consLine c ls).map Line.body = (c :: body) :: bodies := by
  obtain ⟨line, ls, rfl, rfl, rfl⟩ := List.map_eq_cons_iff.mp shape
  rfl

private theorem lines_ne_nil {cs : List Char} (nonempty : cs ≠ []) : lines cs ≠ [] := by
  intro none
  apply nonempty
  rw [← flatMap_whole_lines cs, none]
  rfl

/-- A line break that no feed follows as a part of it ends an empty line. -/
theorem lines_break {c : Char} {cs : List Char} (isBreak : isLineBreak c = true)
    (apart : c = '\r' → cs.head? ≠ some '\n') : lines (c :: cs) = ⟨[], [c]⟩ :: lines cs := by
  rw [lines, if_pos isBreak]
  rintro rest rfl rfl
  exact apart rfl rfl

/-- The first line of a text that starts with no line break starts with its first character. -/
theorem exists_lineBodies_cons {c : Char} (cs : List Char) (plain : isLineBreak c = false) :
    ∃ line ls, lineBodies (c :: cs) = (c :: line) :: ls := by
  rw [lineBodies, lines_cons _ plain]
  cases lines cs with
  | nil => exact ⟨[], [], rfl⟩
  | cons line ls => exact ⟨line.body, ls.map Line.body, rfl⟩

/-- What follows a closed text is cut into lines of its own, but for a feed that belongs to the
ending of the last line. -/
theorem exists_lineBodies_append {cs : List Char} (closed : IsClosed cs) (more : List Char) :
    ∃ rest, (rest = more ∨ '\n' :: rest = more) ∧
      lineBodies (cs ++ more) = lineBodies cs ++ lineBodies rest := by
  unfold lineBodies
  fun_induction lines cs with
  | case1 => exact ⟨more, .inl rfl, rfl⟩
  | case2 cs ih =>
    obtain ⟨rest, follows, cut⟩ := ih closed.tail.tail
    exact ⟨rest, follows, by simp [lines, cut]⟩
  | case3 c cs single isBreak ih =>
    by_cases last : cs = []
    · rw [last]
      -- Behind a return at the end, a feed goes with the ending that stands there already.
      by_cases joined : c = '\r' ∧ more.head? = some '\n'
      · obtain ⟨rfl, feed⟩ := joined
        obtain ⟨rest, rfl⟩ := List.head?_eq_some_iff.mp feed
        exact ⟨rest, .inr rfl, by simp [lines]⟩
      · refine ⟨more, .inl rfl, ?_⟩
        rw [List.singleton_append, lines_break isBreak fun same feed => joined ⟨same, feed⟩]
        simp [lines]
    · obtain ⟨next, cs, rfl⟩ := List.exists_cons_of_ne_nil last
      obtain ⟨rest, follows, cut⟩ := ih closed.tail
      refine ⟨rest, follows, ?_⟩
      rw [List.cons_append, lines_break isBreak, List.map_cons, cut]
      · rfl
      · rintro rfl feed
        exact single cs rfl (by rw [Option.some.inj feed])
  | case4 c cs single plain ih =>
    -- A closed text does not end with `c`, so `c` starts a line that ends before what follows.
    have nonempty : cs ≠ [] := by
      rintro rfl
      exact plain (closed c rfl)
    obtain ⟨rest, follows, cut⟩ := ih closed.tail
    refine ⟨rest, follows, ?_⟩
    obtain ⟨line, ls, shape⟩ := List.exists_cons_of_ne_nil (lines_ne_nil nonempty)
    rw [shape, List.map_cons, List.cons_append] at cut
    rw [List.cons_append, lines_cons _ (Bool.eq_false_iff.mpr plain), map_body_consLine c cut,
      shape]
    rfl

/-- A line has no line breaks but those of its ending. -/
theorem isOneLine_of_mem_lines (cs : List Char) : ∀ line ∈ lines cs, IsOneLine line.body := by
  have nothing : IsOneLine [] := List.forall_mem_nil _
  fun_induction lines cs with
  | case1 => exact List.forall_mem_nil _
  | case2 cs ih => exact List.forall_mem_cons.mpr ⟨nothing, ih⟩
  | case3 c cs single isBreak ih => exact List.forall_mem_cons.mpr ⟨nothing, ih⟩
  | case4 c cs single plain ih =>
    have plain := Bool.eq_false_iff.mpr plain
    cases shape : lines cs with
    | nil => exact List.forall_mem_singleton.mpr (nothing.cons plain)
    | cons first rest =>
      rw [shape] at ih
      obtain ⟨here, later⟩ := List.forall_mem_cons.mp ih
      exact List.forall_mem_cons.mpr ⟨here.cons plain, later⟩

def withReturns (cs : List Char) : List Char :=
  cs.flatMap fun c => if c = '\n' then ['\r', '\n'] else [c]

private theorem withReturns_feed (cs : List Char) :
    withReturns ('\n' :: cs) = '\r' :: '\n' :: withReturns cs := rfl

private theorem withReturns_cons {c : Char} (other : c ≠ '\n') (cs : List Char) :
    withReturns (c :: cs) = c :: withReturns cs := by
  simp [withReturns, other]

theorem withReturns_append (cs more : List Char) :
    withReturns (cs ++ more) = withReturns cs ++ withReturns more := List.flatMap_append

private theorem withReturns_of_oneLine {cs : List Char} (oneLine : IsOneLine cs) :
    withReturns cs = cs := by
  induction cs with
  | nil => rfl
  | cons c cs ih =>
    obtain ⟨plain, later⟩ := List.forall_mem_cons.mp oneLine
    have other : c ≠ '\n' := by
      rintro rfl
      cases plain
    rw [withReturns_cons other, ih later]

private theorem getLast?_withReturns (cs : List Char) :
    (withReturns cs).getLast? = cs.getLast? := by
  induction cs using List.reverseRecOn with
  | nil => rfl
  | append_singleton before c _ =>
    rw [withReturns_append, List.getLast?_append, List.getLast?_concat]
    by_cases feed : c = '\n'
    · rw [feed]
      rfl
    · rw [withReturns_cons feed]
      rfl

/-- Where returns are dropped like feeds, as much is dropped with them as without them. -/
theorem dropWhile_withReturns {drop : Char → Bool} (same : drop '\r' = drop '\n')
    (cs : List Char) : (withReturns cs).dropWhile drop = withReturns (cs.dropWhile drop) := by
  induction cs with
  | nil => rfl
  | cons c cs ih =>
    by_cases feed : c = '\n'
    · rw [feed, withReturns_feed]
      cases dropped : drop '\n' <;> simp [same, dropped, ih, withReturns_feed]
    · rw [withReturns_cons feed]
      cases dropped : drop c <;> simp [dropped, ih, withReturns_cons feed]

namespace Line

/-- A line with a return before the feed that ends it. -/
def withReturn (line : Line) : Line := { line with ending := withReturns line.ending }

@[simp] theorem getLast?_ending_withReturn (line : Line) :
    line.withReturn.ending.getLast? = line.ending.getLast? := getLast?_withReturns line.ending

theorem whole_withReturn {line : Line} (oneLine : IsOneLine line.body) :
    line.withReturn.whole = withReturns line.whole := by
  rw [whole, whole, withReturns_append, withReturns_of_oneLine oneLine]
  rfl

end Line

/-- A return and a feed end the same lines as a feed alone. -/
theorem lines_withReturns {cs : List Char} (absent : '\r' ∉ cs) :
    lines (withReturns cs) = (lines cs).map Line.withReturn := by
  induction cs with
  | nil => rfl
  | cons c cs ih =>
    simp only [List.mem_cons, not_or] at absent
    obtain ⟨notReturn, later⟩ := absent
    by_cases feed : c = '\n'
    · rw [feed, withReturns_feed, lines, ih later]
      rfl
    · rw [withReturns_cons feed]
      cases isBreak : isLineBreak c with
      | true =>
        have apart (cs : List Char) : c = '\r' → cs.head? ≠ some '\n' :=
          fun same => absurd same.symm notReturn
        rw [lines_break isBreak (apart _), lines_break isBreak (apart _), ih later, List.map_cons,
          Line.withReturn, withReturns_cons feed]
        rfl
      | false =>
        rw [lines_cons _ isBreak, lines_cons _ isBreak, ih later]
        cases lines cs <;> rfl

theorem lineBodies_withReturns {cs : List Char} (absent : '\r' ∉ cs) :
    lineBodies (withReturns cs) = lineBodies cs := by
  rw [lineBodies, lines_withReturns absent, List.map_map]
  rfl

end EditorPlugins.Text
