import EditorPlugins.Proofs.Compose.Order
import EditorPlugins.Proofs.Compose.Variables
import EditorPlugins.Proofs.Frontmatter.Bare

/-! # Comments behind unquoted values

The scan for comments keeps track of quotes wherever they stand, also in a value that is not quoted.
A comment behind such a value is taken off just when the value leaves no quotes open; behind an
apostrophe it is read as a part of the value.
-/

namespace EditorPlugins.Compose

open Frontmatter Text

/-- A name of a target or of a variable, or nothing in its place. -/
def IsLabel (name : String) : Prop := name = "" ∨ IsVariableName name

instance : DecidablePred IsLabel := fun name =>
  inferInstanceAs (Decidable (name = "" ∨ IsVariableName name))

/-- A value that is not quoted, nor a list, and has no mark of a comment. -/
structure IsUnquotedValue (value : String) : Prop extends IsInline value.toList where
  noComment : '#' ∉ value.toList
  start : ∀ c ∈ value.toList.head?, c ≠ '"' ∧ c ≠ '\'' ∧ c ≠ '['

instance : DecidablePred IsUnquotedValue := fun value =>
  haveI : Decidable (∀ c ∈ value.toList.head?, c ≠ '"' ∧ c ≠ '\'' ∧ c ≠ '[') :=
    Option.decidableForallMem value.toList.head?
  decidable_of_iff
    (IsInline value.toList ∧ '#' ∉ value.toList ∧
      ∀ c ∈ value.toList.head?, c ≠ '"' ∧ c ≠ '\'' ∧ c ≠ '[')
    ⟨fun ⟨inline, noComment, start⟩ => ⟨inline, noComment, start⟩,
    fun value => ⟨value.toIsInline, value.noComment, value.start⟩⟩

/-- Blanks within a line. -/
structure Blanks where
  text : List Char
  blank : isBlankText text = true
  oneLine : IsOneLine text

private theorem Blanks.isBlank_of_mem (blanks : Blanks) : ∀ c ∈ blanks.text, isBlank c = true :=
  List.all_eq_true.mp blanks.blank

/-- A variable below its target: its name, an unquoted value and what stands around them. -/
structure Assignment where
  indent : Blanks
  name : String
  gap : Blanks
  value : String
  comment : Option Comment
  indented : indent.text ≠ []
  named : IsLabel name
  unquoted : IsUnquotedValue value

namespace Assignment

variable (assignment : Assignment)

/-- The same without its comment. -/
def bare : Assignment := { assignment with comment := none }

/-- The name up to the value. -/
def front : List Char := assignment.name.toList ++ ':' :: assignment.gap.text

/-- The value with its comment. -/
def back : List Char := assignment.value.toList ++ trailing assignment.comment

def line : List Char := assignment.indent.text ++ (assignment.front ++ assignment.back)

/-- What is left of the value and its comment once the comment is taken off. -/
def content : List Char := trim (Dialect.metadata.uncomment (trim assignment.back))

private theorem exists_value :
    ∃ c cs, assignment.value.toList = c :: cs ∧ isBlank c = false ∧ c ≠ '#' := by
  obtain ⟨c, cs, shape⟩ := List.exists_cons_of_ne_nil assignment.unquoted.nonempty
  have notBlank := (trim_eq_self_iff.mp assignment.unquoted.trimmed).1 c (by rw [shape]; rfl)
  refine ⟨c, cs, shape, notBlank, ?_⟩
  rintro rfl
  exact assignment.unquoted.noComment (by rw [shape]; exact List.mem_cons_self)

/-- A comment stands behind a value that leaves quotes open. -/
def KeepsComment : Prop :=
  assignment.comment.isSome = true ∧
    Quoting.outside.behind assignment.value.toList ≠ .outside

instance : Decidable assignment.KeepsComment := inferInstanceAs (Decidable (_ ∧ _ ≠ _))

private theorem content_of_not_keeps (drops : ¬assignment.KeepsComment) :
    assignment.content = assignment.value.toList := by
  obtain ⟨⟨nonempty, trimmed, -⟩, noComment, -⟩ := assignment.unquoted
  rw [content, uncomment_metadata, back]
  cases present : assignment.comment with
  | none =>
    rw [trailing, List.append_nil, trimmed, cutComment_of_not_mem noComment, trimmed]
  | some comment =>
    have closed : Quoting.outside.behind assignment.value.toList = .outside :=
      Decidable.not_not.mp fun open_ => drops ⟨by rw [present]; rfl, open_⟩
    rw [trailing, trim_append_comment nonempty trimmed]
    exact IsTrailing.trim_cutComment (.inr ⟨_, rfl⟩) ((hides_iff noComment).mpr closed) nonempty
      trimmed true

private theorem content_of_keeps (keeps : assignment.KeepsComment) :
    ∃ rest, assignment.content = assignment.value.toList ++ ' ' :: '#' :: rest := by
  obtain ⟨present, open_⟩ := keeps
  obtain ⟨⟨nonempty, trimmed, -⟩, noComment, -⟩ := assignment.unquoted
  obtain ⟨comment, present⟩ := Option.isSome_iff_exists.mp present
  rw [content, uncomment_metadata, back, present, trailing, trim_append_comment nonempty trimmed]
  exact exists_trim_cutComment noComment nonempty trimmed open_ true _

/-- A comment is taken off unless it stands behind open quotes. -/
theorem content_eq_value_iff :
    assignment.content = assignment.value.toList ↔ ¬assignment.KeepsComment := by
  constructor
  · intro same keeps
    obtain ⟨rest, more⟩ := assignment.content_of_keeps keeps
    rw [more] at same
    simp at same
  · exact assignment.content_of_not_keeps

private theorem ofList_content_eq_iff :
    String.ofList assignment.content = assignment.value ↔ ¬assignment.KeepsComment := by
  rw [← assignment.content_eq_value_iff]
  constructor
  · intro same
    rw [← same, String.toList_ofList]
  · intro same
    rw [same, String.ofList_toList]

/-- What is left of a value starts like the value. -/
theorem head?_content : assignment.content.head? = assignment.value.toList.head? := by
  obtain ⟨c, cs, shape⟩ := List.exists_cons_of_ne_nil assignment.unquoted.nonempty
  by_cases keeps : assignment.KeepsComment
  · obtain ⟨rest, more⟩ := assignment.content_of_keeps keeps
    rw [more, shape]
    rfl
  · rw [assignment.content_of_not_keeps keeps]

/-- What is left of a value is read as a text. -/
theorem readScalar_content :
    readScalar .texts (assignment.gap.text ++ assignment.content) =
      .ok (.text (String.ofList assignment.content)) := by
  have trimmed : trim (assignment.gap.text ++ assignment.content) = assignment.content := by
    rw [trim_blank_append _ (List.dropWhile_eq_nil_iff.mpr assignment.gap.isBlank_of_mem), content,
      trim_trim]
  have start := assignment.unquoted.start
  rw [← assignment.head?_content] at start
  have noBrackets : bracketed? assignment.content = none :=
    bracketed?_eq_none fun c first => (start c first).2.2
  have noQuotes : unquote? assignment.content = none := by
    rw [unquote?, between?_eq_none fun c first => (start c first).1,
      between?_eq_none fun c first => (start c first).2.1]
    rfl
  simp only [readScalar, trimmed, noBrackets, noQuotes]

private theorem isIndented_line : isIndented assignment.line = true := by
  obtain ⟨blank, rest, some⟩ := List.exists_cons_of_ne_nil assignment.indented
  rw [line, some]
  exact assignment.indent.isBlank_of_mem blank (by rw [some]; exact List.mem_cons_self)

/-- The name, or the colon behind nothing, shows that a line is neither blank, a comment nor an
item. -/
theorem exists_front : ∃ c cs, assignment.front = c :: cs ∧ isBlank c = false ∧ c ≠ '#' := by
  rcases assignment.named with empty | isVariable
  · exact ⟨':', assignment.gap.text, by rw [front, empty]; rfl, by decide, by decide⟩
  · obtain ⟨c, cs, shape, notBlank, notComment⟩ := isVariable.isName.inner.exists_cons
    exact ⟨c, cs ++ ':' :: assignment.gap.text, by rw [front, shape]; rfl, notBlank, notComment⟩

private theorem isItem_front (more : List Char) : isItem (assignment.front ++ more) = false := by
  rw [front, List.append_assoc, List.cons_append]
  rcases assignment.named with empty | isVariable
  · rw [empty]
    exact isItem_cons _ (by decide)
  · exact isVariable.isName.inner.isItem_append _

private theorem cutAt_front (more : List Char) : cutAt ':' (assignment.front ++ more) =
    (assignment.name.toList, some (assignment.gap.text ++ more)) := by
  have noColon : ':' ∉ assignment.name.toList := by
    rcases assignment.named with empty | isVariable
    · rw [empty]
      exact List.not_mem_nil
    · exact isVariable.isName.noColon
  rw [front, List.append_assoc, List.cons_append, cutAt_append _ noColon]

private theorem hides_front : Hides '#' .outside assignment.front := by
  refine .plain fun c member => ?_
  rcases List.mem_append.mp member with named | behind
  · rcases assignment.named with empty | isVariable
    · rw [empty] at named
      cases named
    · exact (isVariable.unmarked c named).2
  rcases List.mem_cons.mp behind with rfl | between
  · decide
  · have blank := assignment.gap.isBlank_of_mem c between
    refine ⟨?_, ?_, ?_⟩ <;> rintro rfl <;> cases blank

/-- Without the blanks before it, a line is the name and what is trimmed behind it. -/
theorem trim_line : trim assignment.line = assignment.front ++ trim assignment.back := by
  obtain ⟨c, cs, shape, notBlank, -⟩ := assignment.exists_front
  obtain ⟨d, ds, value, solid, -⟩ := assignment.exists_value
  have starts : ∃ d ∈ assignment.back.head?, isBlank d = false :=
    ⟨d, by rw [back, value]; rfl, solid⟩
  rw [line, trim_blank_append _ (List.dropWhile_eq_nil_iff.mpr assignment.indent.isBlank_of_mem),
    shape, trim_append_of_kept cs notBlank starts]

/-- The comment is taken off behind the name as it is taken off the value alone. -/
theorem trim_uncomment_line :
    trim (Dialect.metadata.uncomment (assignment.front ++ trim assignment.back)) =
      assignment.front ++ assignment.content := by
  obtain ⟨c, cs, shape, notBlank, -⟩ := assignment.exists_front
  obtain ⟨d, ds, value, solid, notComment⟩ := assignment.exists_value
  obtain ⟨rest, trimmed⟩ : ∃ rest, trim assignment.back = d :: rest :=
    ⟨_, by rw [back, value]; exact trim_cons_of_keep _ solid⟩
  have start : (trim assignment.back).head? ≠ some '#' := by
    rw [trimmed]
    exact fun same => notComment (Option.some.inj same)
  have alone : cutComment .outside false (trim assignment.back) =
      cutComment .outside true (trim assignment.back) :=
    (Hides.nil.cutComment_append start true).symm
  have starts : ∃ d ∈ (cutComment .outside true (trim assignment.back)).head?,
      isBlank d = false := by
    refine ⟨d, ?_, solid⟩
    rw [trimmed, cutComment]
    simp [notComment]
  rw [uncomment_metadata, assignment.hides_front.cutComment_append start, alone, shape,
    trim_append_of_kept cs notBlank starts]
  rfl

end Assignment

private theorem IsVariableName.ne_empty {name : String} (isVariable : IsVariableName name) :
    name ≠ "" := by
  rintro rfl
  exact isVariable.nonempty rfl

def contents (assignments : List Assignment) : Variables :=
  (assignments.filter fun assignment => assignment.name ≠ "").map fun assignment =>
    (assignment.name, String.ofList assignment.content)

/-- The line of an assignment sets its variable, if it has a name. -/
theorem readLine_assignment (assignment : Assignment) {block : Block} {written : Mapping}
    (opened : block.entries? = some written) (read : Mapping) (key : String) :
    readLine .metadata ⟨read, some (key, block)⟩ assignment.line = .ok ⟨read, some (key,
      .entries (Entries.update written (variableFields (contents [assignment]))))⟩ := by
  obtain ⟨c, cs, shape, notBlank, notComment⟩ := assignment.exists_front
  have kept : isSkippable assignment.line = false := by
    rw [isSkippable, assignment.trim_line, shape]
    exact decide_eq_false notComment
  have added : block.addEntry? .texts assignment.name.toList
      (assignment.gap.text ++ assignment.content) = some (.ok
        (.entries (Entries.update written (variableFields (contents [assignment]))))) := by
    rw [Block.addEntry?_of_entries? opened, assignment.readScalar_content]
    rcases assignment.named with empty | isVariable
    · simp [contents, empty, isBlankText, variableFields, fieldsOf, Mapping.ofFields,
        Entries.update]
    · have isName := isVariable.isName.inner
      have named := isBlankText_of_trim isName.nonempty isName.trimmed
      have one : contents [assignment] = [(assignment.name, String.ofList assignment.content)] := by
        simp [contents, isVariable.ne_empty]
      rw [named, isName.itemText_eq, String.ofList_toList, one]
      rfl
  rw [readLine_below assignment.isIndented_line kept assignment.trim_line
    assignment.trim_uncomment_line, assignment.isItem_front, assignment.cutAt_front]
  simp only [Dialect.metadata, added]
  rfl

private theorem contents_cons (assignment : Assignment) (assignments : List Assignment) :
    contents (assignment :: assignments) = contents [assignment] ++ contents assignments := by
  rw [contents, ← List.singleton_append, List.filter_append, List.map_append]
  rfl

/-- The lines of assignments set their variables one after another. -/
theorem readLines_assignments {assignments : List Assignment} (nonempty : assignments ≠ [])
    {block : Block} {written : Mapping} (opened : block.entries? = some written) (read : Mapping)
    (key : String) :
    readLines .metadata ⟨read, some (key, block)⟩ (assignments.map Assignment.line) =
      .ok ⟨read, some (key,
        .entries (Entries.update written (variableFields (contents assignments))))⟩ := by
  -- A line may find the block undecided; behind it the block holds entries.
  induction assignments generalizing block written with
  | nil => exact absurd rfl nonempty
  | cons assignment assignments ih =>
    have step := readLine_assignment assignment opened read key
    by_cases last : assignments = []
    · rw [last]
      exact readLines_cons [] step
    · have fields : variableFields (contents (assignment :: assignments)) =
          variableFields (contents [assignment]) ++ variableFields (contents assignments) := by
        simp only [contents_cons assignment assignments, variableFields, fieldsOf,
          Mapping.ofFields, List.map_append]
      rw [List.map_cons, readLines_cons _ step, ih last rfl, fields, Entries.update_append]

def assignmentLines (target : String) (assignments : List Assignment) : List (List Char) :=
  (target.toList ++ [':']) :: assignments.map Assignment.line

/-- The document of a target and its variables; a feed may follow the last line. -/
def assignmentText (closed : Bool) (target : String) (assignments : List Assignment) : String :=
  linesText closed (assignmentLines target assignments)

private theorem isOneLine_label {name : String} (isLabel : IsLabel name) :
    IsOneLine name.toList := by
  rcases isLabel with rfl | isVariable
  · exact nofun
  · exact isVariable.oneLine

theorem Assignment.isOneLine_line (assignment : Assignment) : IsOneLine assignment.line := by
  have front := (isOneLine_label assignment.named).append
    (assignment.gap.oneLine.cons (by decide : isLineBreak ':' = false))
  have back := assignment.unquoted.oneLine.append (isOneLine_trailing assignment.comment)
  exact assignment.indent.oneLine.append (front.append back)

private theorem Assignment.line_ne_nil (assignment : Assignment) : assignment.line ≠ [] :=
  List.append_ne_nil_of_left_ne_nil assignment.indented _

private theorem read_assignmentText {target : String} (isLabel : IsLabel target)
    (assignments : List Assignment) (closed : Bool) :
    Frontmatter.read .metadata (assignmentText closed target assignments) =
      readMapping .metadata (assignmentLines target assignments) := by
  have each : ∀ line ∈ assignmentLines target assignments, line ≠ [] ∧ IsOneLine line := by
    refine List.forall_mem_cons.mpr ⟨⟨by simp, ?_⟩, fun line member => ?_⟩
    · exact (isOneLine_label isLabel).append (by decide)
    · obtain ⟨assignment, -, rfl⟩ := List.mem_map.mp member
      exact ⟨assignment.line_ne_nil, assignment.isOneLine_line⟩
  have some : assignmentLines target assignments ≠ [] := List.cons_ne_nil _ _
  rw [Frontmatter.read, assignmentText, linesText, String.toList_ofList,
    lineBodies_stacked closed some each]

/-- Without a target there is nothing to read. -/
theorem readVariables_unnamed (assignments : List Assignment) (closed : Bool) :
    readVariables (assignmentText closed "" assignments) = .ok [] := by
  have bare : readMapping .metadata (assignmentLines "" assignments) = .ok [] := by
    refine readMapping_eq_nil_iff.mpr (List.forall_mem_cons.mpr ⟨?_, fun line member opens => ?_⟩)
    · rintro ⟨-, -, -, before, after, cut, keyed⟩
      cases cut
      exact keyed rfl
    · obtain ⟨assignment, -, rfl⟩ := List.mem_map.mp member
      exact absurd assignment.isIndented_line (Bool.eq_false_iff.mp opens.outer)
  rw [readVariables, read_assignmentText (.inl rfl), bare]
  rfl

/-- The variables of a target are read as what is left of their values. -/
theorem readVariables_assignments {target : String} (isVariable : IsVariableName target)
    {assignments : List Assignment} (distinct : (assignments.map Assignment.name).Nodup)
    (closed : Bool) :
    readVariables (assignmentText closed target assignments) =
      .ok (if assignments = [] then [] else [(target, contents assignments)]) := by
  have opens : Opens .metadata (target.toList ++ [':']) target := opens_name isVariable.isName rfl
  have read := read_assignmentText (.inr isVariable) assignments closed
  cases assignments with
  | nil =>
    rw [assignmentLines, List.map_nil, (Sets.nothing opens).readMapping_eq] at read
    rw [readVariables, read]
    rfl
  | cons first others =>
    have keys : (Entries.keys (variableFields (contents (first :: others)))).Nodup := by
      refine nodup_keys_fieldsOf (distinct.sublist ?_)
      rw [Entries.keys, contents, List.map_map]
      exact List.filter_sublist.map _
    have opened : Block.undecided.entries? = some [] := rfl
    have run := readLines_assignments (List.cons_ne_nil first others) opened [] target
    rw [← Entries.ofPairs, Entries.ofPairs_of_nodup keys] at run
    have whole := (readLines_cons _ (opens Reading.start)).trans run
    rw [assignmentLines, readMapping, whole] at read
    exact readVariables_of_read read

/-- The comments behind unquoted values have no effect just when none of them stands behind a value
that leaves quotes open; variables without a name, or without a target, are not read at all. -/
theorem readVariables_comments_iff {target : String} (isLabel : IsLabel target)
    {assignments : List Assignment} (distinct : (assignments.map Assignment.name).Nodup)
    (closed : Bool) :
    readVariables (assignmentText closed target assignments) =
        readVariables (assignmentText closed target (assignments.map Assignment.bare)) ↔
      ∀ assignment ∈ assignments, target ≠ "" → assignment.name ≠ "" →
        ¬assignment.KeepsComment := by
  have bareDistinct : ((assignments.map Assignment.bare).map Assignment.name).Nodup := by
    rw [List.map_map]
    exact distinct
  rcases isLabel with rfl | isVariable
  · rw [readVariables_unnamed, readVariables_unnamed]
    exact iff_of_true rfl fun _ _ named => absurd rfl named
  -- Without comments the values are read as they stand.
  have bareContents : contents (assignments.map Assignment.bare) =
      (assignments.filter fun assignment => assignment.name ≠ "").map fun assignment =>
        (assignment.name, assignment.value) := by
    rw [contents, List.filter_map, List.map_map]
    refine List.map_congr_left fun assignment _ => Prod.ext rfl ?_
    have drops : ¬assignment.bare.KeepsComment := fun keeps => Bool.noConfusion keeps.1
    exact (congrArg String.ofList (assignment.bare.content_of_not_keeps drops)).trans
      String.ofList_toList
  have nothing : assignments.map Assignment.bare = [] ↔ assignments = [] := List.map_eq_nil_iff
  rw [readVariables_assignments isVariable distinct, readVariables_assignments isVariable
    bareDistinct, bareContents, contents]
  simp only [nothing]
  split
  · next none => simp [none]
  · simp only [Except.ok.injEq, List.cons.injEq, and_true, Prod.mk.injEq, true_and,
      List.map_inj_left, List.mem_filter, decide_eq_true_eq, Assignment.ofList_content_eq_iff]
    constructor
    · intro each assignment member _ named
      exact each assignment ⟨member, named⟩
    · intro each assignment ⟨member, named⟩
      exact each assignment member isVariable.ne_empty named

/-- A value with quotes that it closes and a comment with an apostrophe, an apostrophe without a
comment, and a value without a name. -/
def quotingAssignments : List Assignment :=
  [{  indent := ⟨[' ', ' '], by decide, by decide⟩
      name := "greeting"
      gap := ⟨[' '], by decide, by decide⟩
      value := "say \"it's\""
      comment := some ⟨"don't".toList, by decide⟩
      indented := by decide
      named := by decide
      unquoted := by decide },
    { indent := ⟨['\t'], by decide, by decide⟩
      name := "my hint"
      gap := ⟨[], by decide, by decide⟩
      value := "it's: [x]"
      comment := none
      indented := by decide
      named := by decide
      unquoted := by decide },
    { indent := ⟨[' '], by decide, by decide⟩
      name := ""
      gap := ⟨[' '], by decide, by decide⟩
      value := "it's"
      comment := some ⟨[], by decide⟩
      indented := by decide
      named := by decide
      unquoted := by decide }]

theorem quotingAssignments_comments : IsLabel "cursor" ∧
    (quotingAssignments.map Assignment.name).Nodup ∧
    readVariables (assignmentText true "cursor" quotingAssignments) =
      readVariables (assignmentText true "cursor" (quotingAssignments.map Assignment.bare)) :=
  ⟨by decide, by decide,
    (readVariables_comments_iff (by decide) (by decide) true).mpr (by decide)⟩

def apostropheAssignment : Assignment where
  indent := ⟨[' ', ' '], by decide, by decide⟩
  name := "hint"
  gap := ⟨[' '], by decide, by decide⟩
  value := "it's"
  comment := some ⟨['c'], by decide⟩
  indented := by decide
  named := by decide
  unquoted := by decide

/-- A comment behind an apostrophe is read as a part of the value. -/
theorem apostropheAssignment_keeps :
    IsLabel "cursor" ∧ ([apostropheAssignment].map Assignment.name).Nodup ∧
    readVariables (assignmentText true "cursor" [apostropheAssignment]) =
      .ok [("cursor", [("hint", "it's # c")])] ∧
    readVariables (assignmentText true "cursor" ([apostropheAssignment].map Assignment.bare)) =
      .ok [("cursor", [("hint", "it's")])] ∧
    readVariables (assignmentText true "cursor" [apostropheAssignment]) ≠
      readVariables
        (assignmentText true "cursor" ([apostropheAssignment].map Assignment.bare)) := by
  have commented : readVariables (assignmentText true "cursor" [apostropheAssignment]) =
      .ok [("cursor", [("hint", "it's # c")])] := rfl
  have bare : readVariables (assignmentText true "cursor"
      ([apostropheAssignment].map Assignment.bare)) = .ok [("cursor", [("hint", "it's")])] := rfl
  refine ⟨by decide, by decide, commented, bare, ?_⟩
  rw [commented, bare]
  simp

end EditorPlugins.Compose
