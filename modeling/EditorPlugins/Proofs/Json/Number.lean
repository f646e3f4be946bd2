import EditorPlugins.Json.Reader
import EditorPlugins.Proofs.Number.Decimal

/-! # Whole numbers in documents

The digits of a whole number end where a character follows that belongs to no number. In a written
document that is a comma or the end of the line.
-/

namespace EditorPlugins.Number

open Text

/-- Only zero is written with a zero in front. -/
theorem head?_natDigits_ne_zero {n : Nat} (positive : n ≠ 0) :
    (natDigits n).head? ≠ some (digitChar 0) := by
  induction n using Nat.strongRecOn with
  | ind n ih =>
    by_cases small : n < 10
    · have other : ∀ n < 10, n ≠ 0 → digitChar n ≠ digitChar 0 := by decide
      rw [natDigits_of_lt small]
      exact fun same => other n small positive (Option.some.inj same)
    · have first := ih (n / 10) (by omega) (by omega)
      obtain ⟨c, cs, shape⟩ := List.exists_cons_of_ne_nil (natDigits_ne_nil (n / 10))
      rw [natDigits_of_le (by omega), shape]
      rw [shape] at first
      exact first

end EditorPlugins.Number

namespace EditorPlugins.Json

open Number Text

/-- What follows a value in a written document: a comma, or the end of a line. -/
def EndsValue (rest : List Char) : Prop := ∃ c cs, rest = c :: cs ∧ (c = ',' ∨ c = '\n')

private theorem digitChar_between : ∀ digit < 10, '0' ≤ digitChar digit ∧ digitChar digit ≤ '9' ∧
    (digitChar digit).toNat - 0x30 = digit := by
  decide

theorem splitDigits_append {digits : List Nat} (bound : ∀ digit ∈ digits, digit < 10)
    {rest : List Char} (ends : EndsValue rest) :
    splitDigits (digits.map digitChar ++ rest) = (digits, rest) := by
  induction digits with
  | nil =>
    obtain ⟨c, cs, rfl, rfl | rfl⟩ := ends <;> rfl
  | cons digit digits ih =>
    obtain ⟨first, later⟩ := List.forall_mem_cons.mp bound
    obtain ⟨low, high, value⟩ := digitChar_between digit first
    simp [splitDigits, low, high, value, ih later]

private theorem splitWhole_natDigits (n : Nat) {rest : List Char} (ends : EndsValue rest) :
    ∃ digits, splitWhole (natDigits n ++ rest) = (digits, rest) ∧ digits ≠ [] ∧
      digits.length = (natDigits n).length ∧ ofDigits 10 digits = n := by
  by_cases zero : n = 0
  · subst zero
    rw [natDigits_of_lt (by decide)]
    exact ⟨[0], rfl, by simp, rfl, rfl⟩
  · obtain ⟨digits, text, bound, nonempty, value⟩ := exists_digits n
    refine ⟨digits, ?_, nonempty, by rw [text, List.length_map], value⟩
    have first := head?_natDigits_ne_zero zero
    rw [text] at first ⊢
    rw [splitWhole, splitDigits_append bound ends]
    obtain ⟨digit, others, rfl⟩ := List.exists_cons_of_ne_nil nonempty
    exact fun cs same => first (congrArg List.head? same)

private theorem splitFraction_of_endsValue {rest : List Char} (ends : EndsValue rest) :
    splitFraction rest = (none, rest) := by
  obtain ⟨c, cs, rfl, rfl | rfl⟩ := ends <;> rfl

private theorem splitExponent_of_endsValue {rest : List Char} (ends : EndsValue rest) :
    splitExponent rest = (none, rest) := by
  obtain ⟨c, cs, rfl, rfl | rfl⟩ := ends <;> rfl

/-- A whole number is read from its digits, unless it has too many. -/
theorem readNumber_intDigits {n : Int} (within : withinLimit n = true) {rest : List Char}
    (ends : EndsValue rest) : readNumber (intDigits n ++ rest) = .ok (.int n, rest) := by
  have limit : (natDigits n.natAbs).length ≤ digitLimit := by simpa [withinLimit] using within
  obtain ⟨digits, cut, nonempty, length, value⟩ := splitWhole_natDigits n.natAbs ends
  have number : readNat digits = .ok n.natAbs := by rw [readNat, if_pos (length ▸ limit), value]
  obtain ⟨digit, others, rfl⟩ := List.exists_cons_of_ne_nil nonempty
  cases n with
  | ofNat n =>
    obtain ⟨c, cs, shape⟩ := List.exists_cons_of_ne_nil (natDigits_ne_nil n)
    obtain ⟨first, bound, rfl⟩ := isNumeral_of_mem_natDigits (shape ▸ List.mem_cons_self)
    have unsigned := (digitChar_ne_sign first bound).1
    simp only [Int.ofNat_eq_natCast, Int.natAbs_natCast, shape, List.cons_append] at cut number ⊢
    simp [intDigits, shape, readNumber, unsigned, cut, splitFraction_of_endsValue ends,
      splitExponent_of_endsValue ends, number, signed]
  | negSucc n =>
    simp only [Int.natAbs_negSucc, Nat.succ_eq_add_one] at cut number
    have negative : signed true (n + 1) = Int.negSucc n := rfl
    simp [intDigits, readNumber, cut, splitFraction_of_endsValue ends,
      splitExponent_of_endsValue ends, number, negative]

/-- No name of a value starts like a number. -/
theorem find?_names_of_digit {c : Char} (low : '0' ≤ c) (high : c ≤ '9') (cs : List Char) :
    names.find? (fun name => name.1.isPrefixOf (c :: cs)) = none := by
  have other : ∀ other : Char, ¬('0' ≤ other ∧ other ≤ '9') → other ≠ c := by
    rintro _ outside rfl
    exact outside ⟨low, high⟩
  simp [names, List.isPrefixOf, other 'n' (by decide), other 't' (by decide),
    other 'f' (by decide), other 'N' (by decide), other 'I' (by decide), other '-' (by decide)]

theorem find?_names_of_minus {c : Char} (low : '0' ≤ c) (high : c ≤ '9') (cs : List Char) :
    names.find? (fun name => name.1.isPrefixOf ('-' :: c :: cs)) = none := by
  have other : 'I' ≠ c := by
    rintro rfl
    exact absurd high (by decide)
  simp [names, List.isPrefixOf, other]

/-- The names of values do not get in the way of whole numbers. -/
theorem readScalar_intDigits {n : Int} (within : withinLimit n = true) {rest : List Char}
    (ends : EndsValue rest) : readScalar (intDigits n ++ rest) = .ok (.int n, rest) := by
  have start : ∀ n, ∃ c cs, natDigits n = c :: cs ∧ '0' ≤ c ∧ c ≤ '9' := by
    intro n
    obtain ⟨c, cs, shape⟩ := List.exists_cons_of_ne_nil (natDigits_ne_nil n)
    obtain ⟨first, bound, rfl⟩ := isNumeral_of_mem_natDigits (shape ▸ List.mem_cons_self)
    exact ⟨_, cs, shape, (digitChar_between first bound).1, (digitChar_between first bound).2.1⟩
  have unnamed : names.find? (fun name => name.1.isPrefixOf (intDigits n ++ rest)) = none := by
    cases n with
    | ofNat n =>
      obtain ⟨c, cs, shape, low, high⟩ := start n
      rw [intDigits, shape]
      exact find?_names_of_digit low high _
    | negSucc n =>
      obtain ⟨c, cs, shape, low, high⟩ := start (n + 1)
      rw [intDigits, shape]
      exact find?_names_of_minus low high _
  rw [readScalar, unnamed]
  exact readNumber_intDigits within ends

end EditorPlugins.Json
