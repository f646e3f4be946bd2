import Mathlib.Algebra.Group.Nat.Defs
import EditorPlugins.Number.Decimal

/-! # Decimal text of whole numbers

The digits of a number are below ten and give the number back, so a whole number whose text stays
within the limit is read from the text that it is written as.
-/

namespace EditorPlugins.Number

open Text

private theorem pushDigits_eq (n : Nat) (written : List Char) :
    pushDigits n written = natDigits n ++ written := by
  induction n using Nat.strongRecOn generalizing written with
  | ind n ih =>
    by_cases small : n < 10
    · rw [natDigits, pushDigits.eq_def, pushDigits.eq_def n [], if_pos small, if_pos small]
      rfl
    · have smaller : n / 10 < n := by omega
      rw [natDigits, pushDigits.eq_def, pushDigits.eq_def n [], if_neg small, if_neg small,
        ih _ smaller, ih _ smaller [_], List.append_assoc]
      rfl

theorem natDigits_of_lt {n : Nat} (small : n < 10) : natDigits n = [digitChar n] := by
  rw [natDigits, pushDigits, if_pos small]

theorem natDigits_of_le {n : Nat} (large : 10 ≤ n) :
    natDigits n = natDigits (n / 10) ++ [digitChar (n % 10)] := by
  rw [natDigits, pushDigits, if_neg (by omega), pushDigits_eq]

private theorem ofDigits_append_singleton (base : Nat) (digits : List Nat) (digit : Nat) :
    ofDigits base (digits ++ [digit]) = base * ofDigits base digits + digit := by
  simp [ofDigits]

/-- Digits read behind others move these up by their count. -/
theorem foldl_digits (base value : Nat) (digits : List Nat) :
    digits.foldl (fun value digit => base * value + digit) value =
      value * base ^ digits.length + ofDigits base digits := by
  induction digits generalizing value with
  | nil => simp [ofDigits]
  | cons digit digits ih =>
    have later : ofDigits base (digit :: digits) =
        digit * base ^ digits.length + ofDigits base digits := by
      rw [ofDigits, List.foldl_cons, ih, Nat.mul_zero, Nat.zero_add]
    rw [List.foldl_cons, ih, later, List.length_cons, Nat.pow_succ', Nat.add_mul, ← Nat.mul_assoc,
      Nat.mul_comm value base, Nat.add_assoc]

theorem ofDigits_append (base : Nat) (first second : List Nat) :
    ofDigits base (first ++ second) =
      ofDigits base first * base ^ second.length + ofDigits base second := by
  rw [ofDigits, List.foldl_append, foldl_digits]
  rfl

theorem ofDigits_cons (base digit : Nat) (digits : List Nat) :
    ofDigits base (digit :: digits) = digit * base ^ digits.length + ofDigits base digits := by
  have single : ofDigits base [digit] = digit := by simp [ofDigits]
  rw [← List.singleton_append, ofDigits_append, single]

@[simp] theorem ofDigits_replicate_zero (base count : Nat) :
    ofDigits base (List.replicate count 0) = 0 := by
  induction count with
  | zero => rfl
  | succ count ih => rw [List.replicate_succ, ofDigits_cons, ih, Nat.zero_mul]

/-- Zeros in front of a number do not count. -/
theorem ofDigits_dropWhile (base : Nat) (digits : List Nat) :
    ofDigits base (digits.dropWhile (· = 0)) = ofDigits base digits := by
  induction digits with
  | nil => rfl
  | cons digit digits ih =>
    by_cases zero : digit = 0
    · subst zero
      rw [ofDigits_cons, Nat.zero_mul, Nat.zero_add, ← ih]
      rfl
    · simp [zero]

theorem ofDigits_lt {digits : List Nat} (bound : ∀ digit ∈ digits, digit < 10) :
    ofDigits 10 digits < 10 ^ digits.length := by
  induction digits with
  | nil => exact Nat.one_pos
  | cons digit digits ih =>
    obtain ⟨first, later⟩ := List.forall_mem_cons.mp bound
    have rest := ih later
    have step := Nat.mul_le_mul_right (10 ^ digits.length) (Nat.le_pred_of_lt first)
    rw [ofDigits_cons, List.length_cons, Nat.pow_succ]
    simp only [Nat.pred_eq_sub_one, Nat.add_one_sub_one] at step
    omega

/-- Digits that start with another one than zero reach the power of ten of the first one. -/
theorem le_ofDigits {digit : Nat} (digits : List Nat) (positive : digit ≠ 0) :
    10 ^ digits.length ≤ ofDigits 10 (digit :: digits) := by
  have step := Nat.mul_le_mul_right (10 ^ digits.length) (Nat.pos_of_ne_zero positive)
  rw [ofDigits_cons]
  omega

/-- The digits of a number, of which there is at least one, stand for it. -/
theorem exists_digits (n : Nat) : ∃ digits, natDigits n = digits.map digitChar ∧
    (∀ digit ∈ digits, digit < 10) ∧ digits ≠ [] ∧ ofDigits 10 digits = n := by
  induction n using Nat.strongRecOn with
  | ind n ih =>
    by_cases small : n < 10
    · exact ⟨[n], natDigits_of_lt small, by simpa using small, by simp, by simp [ofDigits]⟩
    · have large : 10 ≤ n := by omega
      obtain ⟨digits, text, bound, _, value⟩ := ih (n / 10) (by omega)
      refine ⟨digits ++ [n % 10], ?_, ?_, by simp, ?_⟩
      · rw [natDigits_of_le large, text, List.map_append]
        rfl
      · intro digit member
        rcases List.mem_append.mp member with member | member
        · exact bound digit member
        · have last : digit = n % 10 := List.mem_singleton.mp member
          omega
      · rw [ofDigits_append_singleton, value]
        omega

theorem mapM_digitValue? {digits : List Nat} (bound : ∀ digit ∈ digits, digit < 10) :
    (digits.map digitChar).mapM digitValue? = some digits := by
  induction digits with
  | nil => rfl
  | cons digit digits ih =>
    obtain ⟨first, later⟩ := List.forall_mem_cons.mp bound
    rw [List.map_cons, List.mapM_cons, digitValue?_digitChar first, ih later]
    rfl

private theorem digitsOnly?_natDigits (n : Nat) :
    ∃ digits, digitsOnly? (natDigits n) = some digits ∧
      digits.length = (natDigits n).length ∧ ofDigits 10 digits = n := by
  obtain ⟨digits, text, bound, nonempty, value⟩ := exists_digits n
  refine ⟨digits, ?_, by rw [text, List.length_map], value⟩
  rw [digitsOnly?, text, List.isEmpty_eq_false_iff.mpr (by simpa using nonempty)]
  exact mapM_digitValue? bound

/-- What stands in the decimal text of a whole number: a digit, or a minus. -/
def IsNumeral (c : Char) : Prop := c = '-' ∨ ∃ digit, digit < 10 ∧ c = digitChar digit

instance : DecidablePred IsNumeral := fun c =>
  inferInstanceAs (Decidable (c = '-' ∨ ∃ digit, digit < 10 ∧ c = digitChar digit))

theorem isNumeral_of_mem_natDigits {n : Nat} {c : Char} (member : c ∈ natDigits n) :
    ∃ digit, digit < 10 ∧ c = digitChar digit := by
  obtain ⟨digits, text, bound, -⟩ := exists_digits n
  rw [text] at member
  obtain ⟨digit, present, rfl⟩ := List.mem_map.mp member
  exact ⟨digit, bound digit present, rfl⟩

theorem isNumeral_of_mem_intDigits {n : Int} {c : Char} (member : c ∈ intDigits n) :
    IsNumeral c := by
  cases n with
  | ofNat n => exact Or.inr (isNumeral_of_mem_natDigits member)
  | negSucc n =>
    rcases List.mem_cons.mp member with rfl | member
    · exact Or.inl rfl
    · exact Or.inr (isNumeral_of_mem_natDigits member)

/-- A number below a power of ten has no more digits than the power. -/
theorem length_natDigits_le {n count : Nat} (positive : 0 < count) (small : n < 10 ^ count) :
    (natDigits n).length ≤ count := by
  induction count generalizing n with
  | zero => exact absurd positive (Nat.lt_irrefl 0)
  | succ count ih =>
    by_cases below : n < 10
    · rw [natDigits_of_lt below]
      exact positive
    · rw [Nat.pow_succ] at small
      have further : 0 < count := by
        refine Nat.pos_of_ne_zero ?_
        rintro rfl
        omega
      rw [natDigits_of_le (Nat.le_of_not_lt below), List.length_append]
      exact Nat.succ_le_succ (ih further (by omega))

/-- A number that is read from its digits has no more of them than can be converted. -/
theorem withinLimit_of_readNat {digits : List Nat} {n : Nat} (bound : ∀ digit ∈ digits, digit < 10)
    (read : readNat digits = .ok n) (negative : Bool) : withinLimit (signed negative n) = true := by
  unfold readNat at read
  split at read
  · next few =>
    cases read
    have small : ofDigits 10 digits < 10 ^ digitLimit :=
      Nat.lt_of_lt_of_le (ofDigits_lt bound) (Nat.pow_le_pow_right (by decide) few)
    have size : (signed negative (ofDigits 10 digits)).natAbs = ofDigits 10 digits := by
      cases negative <;> simp [signed]
    rw [withinLimit, size]
    exact decide_eq_true (length_natDigits_le (by decide) small)
  · cases read

theorem natDigits_ne_nil (n : Nat) : natDigits n ≠ [] := by
  obtain ⟨digits, text, -, nonempty, -⟩ := exists_digits n
  rw [text]
  simpa using nonempty

theorem intDigits_ne_nil (n : Int) : intDigits n ≠ [] := by
  cases n with
  | ofNat n => exact natDigits_ne_nil n
  | negSucc n => exact List.cons_ne_nil _ _

theorem digitChar_ne_sign : ∀ digit < 10, digitChar digit ≠ '-' ∧ digitChar digit ≠ '+' := by
  decide

theorem splitSign_digitChar {digit : Nat} (bound : digit < 10) (cs : List Char) :
    splitSign (digitChar digit :: cs) = (false, digitChar digit :: cs) := by
  unfold splitSign
  split
  · next cut => exact absurd (List.cons.inj cut).1 (digitChar_ne_sign digit bound).1
  · next cut => exact absurd (List.cons.inj cut).1 (digitChar_ne_sign digit bound).2
  · rfl

private theorem splitSign_natDigits (n : Nat) : splitSign (natDigits n) = (false, natDigits n) := by
  cases shape : natDigits n with
  | nil => rfl
  | cons c cs =>
    obtain ⟨digit, bound, rfl⟩ := isNumeral_of_mem_natDigits (shape ▸ List.mem_cons_self)
    exact splitSign_digitChar bound cs

/-- A whole number is read from its decimal text, unless it has too many digits. -/
theorem readInt?_intDigits {n : Int} (within : withinLimit n = true) :
    readInt? (intDigits n) = some (.ok n) := by
  have limit : (natDigits n.natAbs).length ≤ digitLimit := by simpa [withinLimit] using within
  obtain ⟨digits, read, length, value⟩ := digitsOnly?_natDigits n.natAbs
  have number : readNat digits = .ok n.natAbs := by
    rw [readNat, if_pos (length ▸ limit), value]
  cases n with
  | ofNat n =>
    rw [intDigits, readInt?, splitSign_natDigits]
    simp only [Int.ofNat_eq_natCast, Int.natAbs_natCast] at read number
    simp [read, number, Except.map, signed]
  | negSucc n =>
    simp only [Int.natAbs_negSucc, Nat.succ_eq_add_one] at read number
    have negative : signed true (n + 1) = Int.negSucc n := rfl
    simp only [intDigits, readInt?, splitSign, read, Option.map_some, number, Except.map, negative]

end EditorPlugins.Number
