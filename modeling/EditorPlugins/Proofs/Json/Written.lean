import EditorPlugins.Proofs.Json.Number
import EditorPlugins.Proofs.Json.Text
import EditorPlugins.Proofs.Outcome
import EditorPlugins.Proofs.Value.Tree

/-! # Documents are read as they are written

A value is read as itself wherever it stands in a written document, at any depth and with any fuel
that its length allows for. Lists and maps pass this on from their parts, so it holds of all trees
of exact scalars: those that are read from their written form as they are.
-/

namespace EditorPlugins.Json

open Number Value

/-- The scalars whose written form stands for them exactly and within the limits of reading. -/
def IsExact : Scalar → Prop
  | .null | .bool _ | .text _ => True
  | .int n => withinLimit n = true
  | .float _ | .bytes _ | .date _ => False

private theorem skipSpace_cons {c : Char} (cs : List Char) (solid : isSpace c = false) :
    skipSpace (c :: cs) = c :: cs := by
  simp [skipSpace, solid]

private theorem skipSpace_newline (depth : Nat) (cs : List Char) :
    skipSpace (newline depth ++ cs) = skipSpace cs := by
  have blanks : ∀ c ∈ newline depth, isSpace c = true := by
    intro c member
    rcases List.mem_cons.mp member with rfl | member
    · rfl
    · rw [List.eq_of_mem_replicate member]
      rfl
  exact List.dropWhile_append_of_pos blanks

private theorem endsValue_newline (depth : Nat) (cs : List Char) :
    EndsValue (newline depth ++ cs) :=
  ⟨'\n', _, rfl, .inr rfl⟩

private theorem endsValue_comma (cs : List Char) : EndsValue (',' :: cs) := ⟨',', cs, rfl, .inl rfl⟩

/-- What a written value starts with: no blank, no end of a list and no byte order mark. -/
abbrev OpensValue (c : Char) : Prop := isSpace c = false ∧ c ≠ ']' ∧ c ≠ '\uFEFF'

private theorem opensValue_of_mem_intDigits {c : Char} {n : Int} (member : c ∈ intDigits n) :
    OpensValue c := by
  rcases isNumeral_of_mem_intDigits member with rfl | ⟨digit, bound, rfl⟩
  · decide
  · have each : ∀ digit < 10, OpensValue (Text.digitChar digit) := by decide
    exact each digit bound

private theorem exists_cons_valueChars {value : Value} (tree : IsTree IsExact value) (depth : Nat) :
    ∃ c cs, valueChars depth value = c :: cs ∧ OpensValue c := by
  cases tree with
  | @scalar leaf exact =>
    cases leaf with
    | null => exact ⟨'n', _, rfl, by decide⟩
    | bool truth => cases truth <;> exact ⟨_, _, rfl, by decide⟩
    | int n =>
      obtain ⟨c, cs, shape⟩ := List.exists_cons_of_ne_nil (intDigits_ne_nil n)
      exact ⟨c, cs, shape, opensValue_of_mem_intDigits (shape ▸ List.mem_cons_self)⟩
    | text text => exact ⟨'"', _, rfl, by decide⟩
    | float x => exact exact.elim
    | bytes octets => exact exact.elim
    | date date => exact exact.elim
  | @list items each => cases items <;> exact ⟨'[', _, rfl, by decide⟩
  | @map fields distinct each => cases fields <;> exact ⟨'\x7b', _, rfl, by decide⟩

private theorem skipSpace_valueChars {value : Value} (tree : IsTree IsExact value) (depth : Nat)
    (cs : List Char) : skipSpace (valueChars depth value ++ cs) = valueChars depth value ++ cs := by
  obtain ⟨c, rest, shape, opens⟩ := exists_cons_valueChars tree depth
  rw [shape, List.cons_append, skipSpace_cons _ opens.1]

/-- A value is read from its written form at any depth, when something follows that ends it. -/
def ReadsBack (value : Value) : Prop :=
  ∀ (depth fuel : Nat) (rest : List Char), 2 * (valueChars depth value).length ≤ fuel →
    EndsValue rest → readValue fuel (valueChars depth value ++ rest) = .ok (value, rest)

private theorem readValue_scalar (fuel : Nat) {c : Char} (cs : List Char) (quote : c ≠ '"')
    (bracket : c ≠ '[') (brace : c ≠ '\x7b') :
    readValue (fuel + 1) (c :: cs) = readScalar (c :: cs) := by
  simp [readValue, quote, bracket, brace]

private theorem readValue_quote (fuel : Nat) (text : String) (rest : List Char) :
    readValue (fuel + 1) (quote text ++ rest) = .ok (.text text, rest) := by
  have shape : quote text ++ rest = '"' :: (text.toList.flatMap escapeChar ++ '"' :: rest) := by
    simp [quote]
  rw [shape, readValue, if_pos rfl, readText_quoted]
  simp [Except.map]

private theorem readsBack_scalar {value : Scalar} (exact : IsExact value) :
    ReadsBack (.scalar value) := by
  intro depth fuel rest enough ends
  obtain ⟨c, cs, shape, -⟩ := exists_cons_valueChars (.scalar exact) depth
  obtain ⟨fuel, rfl⟩ : ∃ more, fuel = more + 1 :=
    Nat.exists_eq_add_one.mpr (by rw [shape, List.length_cons] at enough; omega)
  cases value with
  | null => rfl
  | bool truth => cases truth <;> rfl
  | int n =>
    change intDigits n = c :: cs at shape
    have read := readScalar_intDigits exact ends
    have plain : c ≠ '"' ∧ c ≠ '[' ∧ c ≠ '\x7b' := by
      rcases isNumeral_of_mem_intDigits (shape ▸ List.mem_cons_self) with rfl | ⟨digit, bound, rfl⟩
      · decide
      · have plain : ∀ digit < 10, Text.digitChar digit ≠ '"' ∧ Text.digitChar digit ≠ '[' ∧
            Text.digitChar digit ≠ '\x7b' := by decide
        exact plain digit bound
    change readValue (fuel + 1) (intDigits n ++ rest) = _
    rw [shape, List.cons_append] at read ⊢
    rw [readValue_scalar fuel _ plain.1 plain.2.1 plain.2.2, read]
  | text text => exact readValue_quote fuel text rest
  | float x => exact exact.elim
  | bytes octets => exact exact.elim
  | date date => exact exact.elim

section Steps

variable {fuel : Nat} {cs behind rest : List Char}

private theorem readItems_last {item : Value} (read : readValue fuel cs = .ok (item, behind))
    (closed : skipSpace behind = ']' :: rest) : readItems (fuel + 1) cs = .ok ([item], rest) := by
  simp only [readItems, read, bind, Except.bind, closed]
  rfl

private theorem readItems_more {item : Value} (read : readValue fuel cs = .ok (item, behind))
    (separated : skipSpace behind = ',' :: rest) :
    readItems (fuel + 1) cs =
      (readItems fuel (skipSpace rest)).map fun (items, rest) => (item :: items, rest) := by
  simp only [readItems, read, bind, Except.bind, separated]
  cases readItems fuel (skipSpace rest) <;> rfl

private theorem quote_append (text : String) (cs : List Char) :
    quote text ++ cs = '"' :: (text.toList.flatMap escapeChar ++ '"' :: cs) := by
  simp [quote]

private theorem skipSpace_colon (cs : List Char) : skipSpace (':' :: cs) = ':' :: cs :=
  skipSpace_cons cs rfl

section Members

variable {before : Entries String Value} {name : String} {value : Value}
  (new : name ∉ Entries.keys before) (start : skipSpace (' ' :: cs) = cs)
  (read : readValue fuel cs = .ok (value, behind))

include new start read

/-- A member with a new name is put behind those read before. -/
theorem readMembers_last (closed : skipSpace behind = '\x7d' :: rest) :
    readMembers (fuel + 1) (Mapping.ofFields before) (quote name ++ ':' :: ' ' :: cs) =
      .ok (Mapping.ofFields (before ++ [(name, value)]), rest) := by
  simp only [quote_append, readMembers, readText_quoted, bind, Except.bind, skipSpace_colon, pure,
    Except.pure, start, read, closed, String.ofList_toList, Mapping.setField_ofFields,
    Entries.set_of_not_mem value new]

private theorem readMembers_more (separated : skipSpace behind = ',' :: rest) :
    readMembers (fuel + 1) (Mapping.ofFields before) (quote name ++ ':' :: ' ' :: cs) =
      readMembers fuel (Mapping.ofFields (before ++ [(name, value)])) (skipSpace rest) := by
  simp only [quote_append, readMembers, readText_quoted, bind, Except.bind, skipSpace_colon, pure,
    Except.pure, start, read, separated, String.ofList_toList, Mapping.setField_ofFields,
    Entries.set_of_not_mem value new]

end Members

end Steps

/-- What stands between the brackets of a list is read as its items. -/
theorem readItems_written {item : Value} {items : List Value}
    (each : ∀ value ∈ item :: items, IsTree IsExact value ∧ ReadsBack value) {depth fuel : Nat}
    (outer : Nat) (rest : List Char)
    (enough : 2 * ((valueChars depth item).length + (itemChars depth items).length) < fuel) :
    readItems fuel
        (valueChars depth item ++ (itemChars depth items ++ (newline outer ++ ']' :: rest))) =
      .ok (item :: items, rest) := by
  induction items generalizing item fuel with
  | nil =>
    obtain ⟨fuel, rfl⟩ : ∃ more, fuel = more + 1 := Nat.exists_eq_add_one.mpr (by omega)
    have read := (each item List.mem_cons_self).2 depth fuel (newline outer ++ ']' :: rest)
      (by omega) (endsValue_newline outer _)
    refine readItems_last read ?_
    rw [skipSpace_newline, skipSpace_cons _ rfl]
  | cons next items ih =>
    obtain ⟨fuel, rfl⟩ : ∃ more, fuel = more + 1 := Nat.exists_eq_add_one.mpr (by omega)
    obtain ⟨first, others⟩ := List.forall_mem_cons.mp each
    simp only [itemChars, List.cons_append, List.length_cons, List.length_append] at enough
    have shape : itemChars depth (next :: items) ++ (newline outer ++ ']' :: rest) =
        ',' :: (newline depth ++ (valueChars depth next ++
          (itemChars depth items ++ (newline outer ++ ']' :: rest)))) := by
      simp [itemChars]
    have read := first.2 depth fuel _ (by omega) (shape ▸ endsValue_comma _)
    rw [readItems_more read (by rw [shape, skipSpace_cons _ rfl]), skipSpace_newline,
      skipSpace_valueChars (others next List.mem_cons_self).1, ih others (by omega)]
    rfl

private theorem entryChars_cons (depth : Nat) (field : String × Value)
    (fields : Entries String Value)
    (cs : List Char) :
    entryChars depth (Mapping.ofFields (field :: fields)) ++ cs =
      ',' :: (newline depth ++ (quote field.1 ++ ':' :: ' ' ::
        (valueChars depth field.2 ++ (entryChars depth (Mapping.ofFields fields) ++ cs)))) := by
  simp [Mapping.ofFields, entryChars, keyChars]

private theorem skipSpace_quote (text : String) (cs : List Char) :
    skipSpace (quote text ++ cs) = quote text ++ cs :=
  skipSpace_cons _ rfl

/-- What stands between the braces of a map is read as its entries, behind those read before. -/
theorem readMembers_written {before : Entries String Value} {field : String × Value}
    {fields : Entries String Value} (distinct : (Entries.keys (before ++ field :: fields)).Nodup)
    (each : ∀ member ∈ field :: fields, IsTree IsExact member.2 ∧ ReadsBack member.2)
    {depth fuel : Nat} (outer : Nat) (rest : List Char)
    (enough : 2 * ((valueChars depth field.2).length +
      (entryChars depth (Mapping.ofFields fields)).length) < fuel) :
    readMembers fuel (Mapping.ofFields before)
        (quote field.1 ++ ':' :: ' ' :: (valueChars depth field.2 ++
          (entryChars depth (Mapping.ofFields fields) ++ (newline outer ++ '\x7d' :: rest)))) =
      .ok (Mapping.ofFields (before ++ field :: fields), rest) := by
  have new := Entries.not_mem_of_nodup_append distinct
  obtain ⟨tree, readsBack⟩ := each field List.mem_cons_self
  induction fields generalizing before field fuel with
  | nil =>
    obtain ⟨fuel, rfl⟩ : ∃ more, fuel = more + 1 := Nat.exists_eq_add_one.mpr (by omega)
    have read := readsBack depth fuel (newline outer ++ '\x7d' :: rest) (by omega)
      (endsValue_newline outer _)
    refine readMembers_last new (skipSpace_valueChars tree depth _) read ?_
    rw [skipSpace_newline, skipSpace_cons _ rfl]
  | cons next fields ih =>
    obtain ⟨fuel, rfl⟩ : ∃ more, fuel = more + 1 := Nat.exists_eq_add_one.mpr (by omega)
    have others : ∀ member ∈ next :: fields, IsTree IsExact member.2 ∧ ReadsBack member.2 :=
      fun member inside => each member (List.mem_cons_of_mem _ inside)
    have length := congrArg List.length (entryChars_cons depth next fields [])
    simp only [List.length_append, List.length_cons, List.length_nil] at length
    rw [entryChars_cons, readMembers_more new (skipSpace_valueChars tree depth _)
      (readsBack depth fuel _ (by omega) (endsValue_comma _)) (skipSpace_cons _ rfl)]
    have parts : before ++ field :: next :: fields = before ++ [field] ++ next :: fields := by simp
    rw [parts] at distinct ⊢
    simp only [skipSpace_newline, skipSpace_quote]
    obtain ⟨nextTree, nextBack⟩ := others next List.mem_cons_self
    exact ih distinct others (by omega) (Entries.not_mem_of_nodup_append distinct) nextTree nextBack

private theorem readValue_bracket (fuel : Nat) {first : List Char} (rest : List Char) (depth : Nat)
    (start : ∃ c cs, first = c :: cs ∧ OpensValue c) :
    readValue (fuel + 1) ('[' :: (newline depth ++ (first ++ rest))) =
      (readItems fuel (first ++ rest)).map fun (items, rest) => (.list items, rest) := by
  obtain ⟨c, cs, rfl, solid, more, -⟩ := start
  simp [readValue, skipSpace_newline, skipSpace_cons _ solid, more]

private theorem readValue_brace (fuel : Nat) (text : String) (cs : List Char) (depth : Nat) :
    readValue (fuel + 1) ('\x7b' :: (newline depth ++ (quote text ++ cs))) =
      (readMembers fuel (Mapping.ofFields []) (quote text ++ cs)).map
        fun (entries, rest) => (.map entries, rest) := by
  simp [readValue, skipSpace_newline, quote, Mapping.ofFields,
    skipSpace_cons _ (show isSpace '"' = false from rfl)]

/-- Trees of exact scalars are read from their written form. -/
theorem readsBack_of_isTree {value : Value} (tree : IsTree IsExact value) : ReadsBack value := by
  induction tree with
  | scalar exact => exact readsBack_scalar exact
  | @list items each ih =>
    intro depth fuel rest enough _
    obtain ⟨fuel, rfl⟩ : ∃ more, fuel = more + 1 :=
      Nat.exists_eq_add_one.mpr (by cases items <;> simp [valueChars] at enough <;> omega)
    cases items with
    | nil => rfl
    | cons item items =>
      simp only [valueChars, List.length_cons, List.length_append] at enough
      have parts : ∀ value ∈ item :: items, IsTree IsExact value ∧ ReadsBack value :=
        fun value member => ⟨each value member, ih value member⟩
      have read := @readItems_written item items parts (depth + 1) fuel depth rest (by omega)
      have shape := readValue_bracket fuel (itemChars (depth + 1) items ++
        (newline depth ++ ']' :: rest)) (depth + 1)
        (exists_cons_valueChars (each item List.mem_cons_self) (depth + 1))
      rw [read] at shape
      simpa [valueChars, Except.map] using shape
  | @map fields distinct each ih =>
    intro depth fuel rest enough _
    obtain ⟨fuel, rfl⟩ : ∃ more, fuel = more + 1 :=
      Nat.exists_eq_add_one.mpr (by
        cases fields <;> simp [valueChars, Mapping.ofFields] at enough <;> omega)
    cases fields with
    | nil => rfl
    | cons field fields =>
      have parts : ∀ member ∈ field :: fields, IsTree IsExact member.2 ∧ ReadsBack member.2 :=
        fun member inside => ⟨each member inside, ih member inside⟩
      have unfolded : Mapping.ofFields (field :: fields) =
        (.text field.1, field.2) :: Mapping.ofFields fields := rfl
      simp only [unfolded, valueChars, List.length_cons, List.length_append] at enough
      have read := @readMembers_written [] field fields distinct parts (depth + 1) fuel depth rest
        (by omega)
      have shape := readValue_brace fuel field.1 (':' :: ' ' :: (valueChars (depth + 1) field.2 ++
        (entryChars (depth + 1) (Mapping.ofFields fields) ++ (newline depth ++ '\x7d' :: rest))))
        (depth + 1)
      rw [read] at shape
      simpa [unfolded, valueChars, keyChars, Except.map] using shape

private theorem itemFault?_eq_none {items : List Value}
    (each : ∀ item ∈ items, fault? item = none) :
    itemFault? items = none := by
  induction items with
  | nil => rfl
  | cons item items ih =>
    obtain ⟨first, others⟩ := List.forall_mem_cons.mp each
    rw [itemFault?, first, ih others]
    rfl

private theorem entryFault?_eq_none {fields : Entries String Value}
    (each : ∀ field ∈ fields, fault? field.2 = none) :
    entryFault? (Mapping.ofFields fields) = none := by
  induction fields with
  | nil => rfl
  | cons field fields ih =>
    obtain ⟨first, others⟩ := List.forall_mem_cons.mp each
    have later := ih others
    simp only [Mapping.ofFields, List.map_cons, entryFault?, first] at later ⊢
    rw [later]
    rfl

private theorem fault?_of_isTree {value : Value} (tree : IsTree IsExact value) :
    fault? value = none := by
  induction tree with
  | @scalar leaf exact => cases leaf <;> first | rfl | exact exact.elim | exact if_pos exact
  | list _ ih => exact itemFault?_eq_none ih
  | map _ _ ih => exact entryFault?_eq_none ih

/-- A tree of exact scalars is written. -/
theorem write_of_isTree {value : Value} (tree : IsTree IsExact value) :
    write value = .ok (documentText value) := by
  rw [write, fault?_of_isTree tree]

/-- A document of exact scalars is read as it was written. -/
theorem read_documentText {value : Value} (tree : IsTree IsExact value) :
    read (documentText value) = .ok value := by
  obtain ⟨c, cs, shape, -, -, unmarked⟩ := exists_cons_valueChars tree 0
  have back := readsBack_of_isTree tree 0 (2 * (valueChars 0 value ++ ['\n']).length + 2) ['\n']
    (by rw [List.length_append]; omega) ⟨'\n', [], rfl, .inr rfl⟩
  have document : readDocument (valueChars 0 value ++ ['\n']) = .ok value := by
    rw [readDocument, skipSpace_valueChars tree, back]
    rfl
  rw [read, documentText, String.toList_ofList, document]
  simp [shape, unmarked]

end EditorPlugins.Json
