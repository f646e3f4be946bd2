import EditorPlugins.Proofs.Frontmatter.Envelope
import EditorPlugins.Proofs.Frontmatter.RoundTrip

/-! # Envelopes around any frontmatter

Values of any kind stay on their lines, also those that have no form of their own, and every key has
a colon behind it. So whatever a map holds, the envelope around its lines is closed by the delimiter
behind them alone, as long as its keys have no line breaks.
-/

namespace EditorPlugins

open Text

/-- Keys that mean the same are equal, or numbers, or dates. -/
theorem Scalar.eq_or_ordered_of_same {x y : Scalar} (same : x.same y = true) :
    x = y ∨ (∃ n, y.number? = some n) ∨ ∃ date, y = .date date := by
  unfold Scalar.same at same
  split at same
  · next number => exact .inr (.inl ⟨_, number⟩)
  · next number => exact .inr (.inl ⟨_, number⟩)
  · next number => exact .inr (.inl ⟨_, number⟩)
  · next number => exact .inr (.inl ⟨_, number⟩)
  · split at same
    · exact .inr (.inr ⟨_, rfl⟩)
    · exact .inl (of_decide_eq_true same)
  · cases same

namespace Frontmatter

private theorem isLineBreak_of_isNumeral {c : Char} (numeral : Number.IsNumeral c) :
    isLineBreak c = false :=
  Bool.eq_false_iff.mpr fun isBreak => absurd (isBlank_of_isLineBreak isBreak)
    (Bool.eq_false_iff.mp (plain_of_isNumeral numeral).1)

/-- Numbers are displayed without line breaks, truth values as their names. -/
theorem isOneLine_display_of_number {key : Scalar} {n : Int ⊕ Number.Double}
    (number : key.number? = some n) : IsOneLine key.display.toList := by
  cases key with
  | bool truth => cases truth <;> decide
  | int n =>
    intro c member
    have shown : (Scalar.int n).display.toList = Number.intDigits n := String.toList_ofList
    exact isLineBreak_of_isNumeral (Number.isNumeral_of_mem_intDigits (shown ▸ member))
  | float x => exact isOneLine_formatValue (formatValue_float x)
  | null => cases number
  | text name => cases number
  | bytes octets => cases number
  | date date => cases number

private theorem isOneLine_padded (width n : Nat) : IsOneLine (padded width n).toList := by
  rw [padded, String.toList_ofList]
  refine .append (fun c member => ?_) fun c member => ?_
  · rw [List.eq_of_mem_replicate member]
    decide
  · exact isLineBreak_of_isNumeral (.inr (Number.isNumeral_of_mem_natDigits member))

private theorem isOneLine_offsetText (offset : Int) :
    IsOneLine (ClockTime.offsetText offset).toList := by
  have sign : IsOneLine (if offset < 0 then "-" else "+").toList := by split <;> decide
  rw [ClockTime.offsetText]
  simp only [String.toList_append]
  exact ((sign.append (isOneLine_padded _ _)).append (by decide)).append (isOneLine_padded _ _)

private theorem isOneLine_clockText (time : ClockTime) : IsOneLine time.text.toList := by
  have fraction : IsOneLine
      (if time.microsecond = 0 then "" else "." ++ padded 6 time.microsecond).toList := by
    split
    · decide
    · rw [String.toList_append]
      exact .append (by decide) (isOneLine_padded _ _)
  have offset : IsOneLine ((time.offset.map ClockTime.offsetText).getD "").toList := by
    cases time.offset with
    | none => decide
    | some offset => exact isOneLine_offsetText offset
  rw [ClockTime.text]
  simp only [String.toList_append]
  exact ((((((isOneLine_padded _ _).append (by decide)).append (isOneLine_padded _ _)).append
    (by decide)).append (isOneLine_padded _ _)).append fraction).append offset

/-- Dates are displayed without line breaks. -/
theorem isOneLine_display_date (date : Date) : IsOneLine (Scalar.date date).display.toList := by
  have day : IsOneLine date.dayText.toList := by
    rw [Date.dayText]
    simp only [String.toList_append]
    exact ((((isOneLine_padded _ _).append (by decide)).append (isOneLine_padded _ _)).append
      (by decide)).append (isOneLine_padded _ _)
  rw [Scalar.display, Date.textWith]
  split
  · exact day
  · simp only [String.toList_append]
    exact (day.append (by decide)).append (isOneLine_clockText _)

/-- The keys of a map have no line breaks, neither at the top nor below. -/
structure HasOneLineKeys (data : Mapping) : Prop where
  outer : ∀ entry ∈ data, IsOneLine entry.1.display.toList
  inner : ∀ key entries, (key, .map entries) ∈ data →
    ∀ entry ∈ entries, IsOneLine entry.1.display.toList

/-- Requested keys are written as requested, and mean the same as keys of the map. -/
theorem HasOneLineKeys.keepsLines {data : Mapping} (keys : HasOneLineKeys data)
    (order : Option (List Scalar)) :
    ∀ entry ∈ orderedEntries data order, KeepsLines entry.1 entry.2 := by
  have keeps {key : Scalar} {value : Value} {requested : Scalar} (member : (key, value) ∈ data)
      (oneLine : IsOneLine requested.display.toList) : KeepsLines requested value := by
    refine ⟨fun _ => oneLine, ?_⟩
    rintro entries rfl entry inside
    exact keys.inner key entries member entry (List.mem_filter.mp inside).1
  rintro ⟨key, value⟩ member
  cases order with
  | none => exact keeps member (keys.outer _ member)
  | some order =>
    rcases List.mem_append.mp member with requested | other
    · obtain ⟨wanted, -, found⟩ := List.mem_filterMap.mp requested
      simp only [Mapping.lookup?, Option.map_map, Option.map_eq_some_iff, Function.comp_apply,
        Prod.mk.injEq] at found
      obtain ⟨⟨stored, item⟩, found, rfl, rfl⟩ := found
      have present := List.mem_of_find?_eq_some found
      have meaning : stored.same wanted = true := by simpa using List.find?_some found
      refine keeps present ?_
      rcases Scalar.eq_or_ordered_of_same meaning with rfl | ⟨n, number⟩ | ⟨date, rfl⟩
      · exact keys.outer _ present
      · exact isOneLine_display_of_number number
      · exact isOneLine_display_date date
    · have present := (List.mem_filter.mp other).1
      exact keeps present (keys.outer _ present)

/-- A document that was joined from a map with something to write is split into what the written
text reads as and the body, without the line ends at its start. The values may be of any kind, and
the body may have any lines. -/
theorem split_join_of_write {data : Mapping} {order : Option (List Scalar)} {block : String}
    (keys : HasOneLineKeys data) (formed : write data order = .ok block) (filled : block ≠ "")
    (body : String) :
    ∃ content, join data body order = .ok content ∧
      split content = (read .document block).map fun frontmatter =>
        ⟨frontmatter, String.ofList (body.toList.dropWhile isNewline)⟩ := by
  obtain ⟨lines, made, same⟩ := Outcome.bind_eq_ok_iff.mp formed
  obtain rfl : String.ofList (written lines) = block := Except.ok.inj same
  have inside := isBlockLine_of_keepsLines (keys.keepsLines order) made
  have nonempty : lines ≠ [] := by
    rintro rfl
    exact filled rfl
  refine ⟨_, join_of_mappingLines made body, ?_⟩
  rw [if_neg nonempty, split_enveloped inside,
    read_written _ fun line member => (inside line member).oneLine]

/-- Keys and values that look like delimiters, and a list in a list. -/
def dashes : Mapping :=
  [(.bool true, .list [.text "---", .list [.text "-"]]), (.text "---", .text "---\u2028---"),
    (.text "-", .map [(.text "--", .text "x")])]

private theorem dashes_keys : HasOneLineKeys dashes where
  outer := by decide
  inner := by
    rintro key entries member
    simp only [dashes, List.mem_cons, Prod.mk.injEq, reduceCtorEq, and_false, Value.map.injEq,
      List.not_mem_nil, or_false, false_or] at member
    obtain ⟨rfl, rfl⟩ := member
    decide

/-- Neither a key, an item nor a line of the body closes the envelope. -/
theorem dashes_split : HasOneLineKeys dashes ∧
    ∃ block content, write dashes (some [.int 1]) = .ok block ∧ block ≠ "" ∧
      join dashes "\n---\nx\n---\n" (some [.int 1]) = .ok content ∧
      split content =
        (read .document block).map fun frontmatter => ⟨frontmatter, "---\nx\n---\n"⟩ := by
  have computed : (write dashes (some [.int 1])).toOption.map id =
      some "1:\n  - ---\n  - \"['-']\"\n---: \"---\\u2028---\"\n-:\n  --: x\n" := by
    decide +kernel
  obtain ⟨block, formed, rfl⟩ := Outcome.exists_of_toOption computed
  obtain ⟨content, joined, parts⟩ :=
    split_join_of_write dashes_keys formed (by decide) "\n---\nx\n---\n"
  exact ⟨dashes_keys, _, content, formed, by decide, joined, parts⟩

end Frontmatter

end EditorPlugins
