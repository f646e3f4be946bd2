import EditorPlugins.Proofs.Frontmatter.Scalar
import EditorPlugins.Proofs.Number.Shortest

/-! # Decimals that are read as they were written

A written decimal is spelled with a point, an exponent or both. Whatever its spelling is, reading
recovers its digits and its power of ten, and with them the double that it was written for.
-/

namespace EditorPlugins.Frontmatter

open Text Number

/-- A way to spell a number that is not whole: digits, digits behind a point, and an exponent that
may have zeros in front. -/
structure Spelling where
  whole : List Nat
  fraction : Option (List Nat)
  exponent : Option (Int × Nat)

namespace Spelling

def exponentChars (power : Int) (zeros : Nat) : List Char :=
  'e' :: (if power < 0 then '-' else '+') :: (List.replicate zeros '0' ++ natDigits power.natAbs)

/-- What follows the digits behind the point. -/
def ending (spelling : Spelling) : List Char :=
  match spelling.exponent with
  | none => []
  | some (power, zeros) => exponentChars power zeros

def chars (spelling : Spelling) : List Char :=
  match spelling.fraction with
  | none => spelling.whole.map digitChar ++ spelling.ending
  | some fraction =>
    spelling.whole.map digitChar ++ '.' :: (fraction.map digitChar ++ spelling.ending)

def digits (spelling : Spelling) : List Nat := spelling.whole ++ spelling.fraction.getD []

/-- The power of ten of the last digit. -/
def power (spelling : Spelling) : Int :=
  (spelling.exponent.map Prod.fst).getD 0 - (spelling.fraction.getD []).length

def value (spelling : Spelling) : ℚ := ofDigits 10 spelling.digits * 10 ^ spelling.power

/-- A spelling that cannot be taken for one of a whole number. -/
structure IsProper (spelling : Spelling) : Prop where
  starts : spelling.whole ≠ []
  bound : ∀ digit ∈ spelling.digits, digit < 10
  marked : spelling.fraction ≠ none ∨ spelling.exponent ≠ none

end Spelling

/-- Characters that spell a number, and not as a whole one. -/
def IsSpelled (cs : List Char) (number : ℚ) : Prop :=
  ∃ spelling : Spelling, spelling.IsProper ∧ cs = spelling.chars ∧ spelling.value = number

theorem splitDigits_append {digits : List Nat} (bound : ∀ digit ∈ digits, digit < 10)
    {rest : List Char} (stop : ∀ c ∈ rest.head?, digitValue? c = none) :
    splitDigits (digits.map digitChar ++ rest) = (digits, rest) := by
  induction digits with
  | nil =>
    cases rest with
    | nil => rfl
    | cons c cs => simp [splitDigits, stop c rfl]
  | cons digit digits ih =>
    obtain ⟨first, later⟩ := List.forall_mem_cons.mp bound
    simp [splitDigits, digitValue?_digitChar first, ih later]

private theorem lt_ten_of_mem_zeros (count : Nat) : ∀ digit ∈ List.replicate count 0, digit < 10 :=
  fun _ member => List.eq_of_mem_replicate member ▸ by decide

/-- Zeros in front of the digits of a number do not change it. -/
theorem digitsOnly?_padded (zeros n : Nat) : ∃ digits,
    digitsOnly? (List.replicate zeros '0' ++ natDigits n) = some digits ∧
      ofDigits 10 digits = n := by
  obtain ⟨digits, text, bound, nonempty, value⟩ := exists_digits n
  have padded : List.replicate zeros '0' ++ natDigits n =
      (List.replicate zeros 0 ++ digits).map digitChar := by
    rw [List.map_append, List.map_replicate, text]
    rfl
  have paddedBound : ∀ digit ∈ List.replicate zeros 0 ++ digits, digit < 10 :=
    List.forall_mem_append.mpr ⟨lt_ten_of_mem_zeros zeros, bound⟩
  refine ⟨List.replicate zeros 0 ++ digits, ?_, ?_⟩
  · rw [padded, digitsOnly?, mapM_digitValue? paddedBound]
    simp [nonempty]
  · rw [ofDigits_append, ofDigits_replicate_zero, Nat.zero_mul, Nat.zero_add, value]

private theorem exponent?_exponentChars (power : Int) (zeros : Nat) :
    exponent? (Spelling.exponentChars power zeros) = some power := by
  obtain ⟨digits, read, value⟩ := digitsOnly?_padded zeros power.natAbs
  by_cases negative : power < 0
  · have back : signed true power.natAbs = power := by
      simp only [signed, if_true]
      omega
    simp [Spelling.exponentChars, exponent?, negative, splitSign, read, value, back]
  · have back : signed false power.natAbs = power := by
      simp only [signed, Bool.false_eq_true, if_false]
      omega
    simp [Spelling.exponentChars, exponent?, negative, splitSign, read, value, back]

namespace Spelling

variable {spelling : Spelling}

private theorem head?_ending (spelling : Spelling) :
    ∀ c ∈ spelling.ending.head?, digitValue? c = none ∧ c ≠ '.' := by
  intro c first
  unfold ending at first
  split at first
  · cases first
  · cases first
    decide

/-- A proper spelling is read as its digits and its power of ten, whatever its sign. -/
theorem IsProper.read (proper : spelling.IsProper) {cs : List Char} {negative : Bool}
    (sign : splitSign cs = (negative, spelling.chars)) :
    readFloat? cs = some (Double.ofDecimal negative spelling.digits spelling.power) := by
  have stop : ∀ c ∈ spelling.ending.head?, digitValue? c = none := fun c first =>
    (spelling.head?_ending c first).1
  have bound := proper.bound
  have starts := proper.starts
  have marked := proper.marked
  rcases spelling with ⟨whole, fraction, exponent⟩
  simp only [digits, List.forall_mem_append] at bound
  cases fraction with
  | some fraction =>
    have point (rest : List Char) : ∀ c ∈ ('.' :: rest).head?, digitValue? c = none := by
      simp only [List.head?_cons, Option.mem_def, Option.some.injEq, forall_eq']
      decide
    have cut := splitDigits_append bound.2 stop
    simp only [readFloat?, sign, chars, splitDigits_append bound.1 (point _)]
    rw [Option.getD_some] at cut
    simp only [cut]
    cases exponent with
    | none => simp [starts, ending, digits, power]
    | some exponent =>
      have read := exponent?_exponentChars exponent.1 exponent.2
      have filled : exponentChars exponent.1 exponent.2 ≠ [] := List.cons_ne_nil _ _
      simp [starts, ending, digits, power, read, filled]
  | none =>
    cases exponent with
    | none => simp at marked
    | some exponent =>
      have read := exponent?_exponentChars exponent.1 exponent.2
      simp only [readFloat?, sign, chars, splitDigits_append bound.1 stop]
      simp only [ending, exponentChars] at read ⊢
      simp [starts, digits, power, read]

private theorem isFigure_of_mem_digits {digits : List Nat} (bound : ∀ digit ∈ digits, digit < 10)
    {c : Char}
    (member : c ∈ digits.map digitChar) : IsFigure c := by
  obtain ⟨digit, present, rfl⟩ := List.mem_map.mp member
  exact .inl (.inr ⟨digit, bound digit present, rfl⟩)

private theorem isFigure_of_mem_exponentChars {power : Int} {zeros : Nat} {c : Char}
    (member : c ∈ exponentChars power zeros) : IsFigure c := by
  rcases List.mem_cons.mp member with rfl | member
  · decide
  rcases List.mem_cons.mp member with rfl | member
  · split <;> decide
  rcases List.mem_append.mp member with zero | digit
  · rw [List.eq_of_mem_replicate zero]
    decide
  · exact .inl (.inr (isNumeral_of_mem_natDigits digit))

theorem IsProper.isFigure (proper : spelling.IsProper) {c : Char} (member : c ∈ spelling.chars) :
    IsFigure c := by
  have ending : ∀ c ∈ spelling.ending, IsFigure c := by
    intro c member
    unfold Spelling.ending at member
    split at member
    · cases member
    · exact isFigure_of_mem_exponentChars member
  have bound := proper.bound
  rcases spelling with ⟨whole, fraction, exponent⟩
  simp only [digits, List.forall_mem_append] at bound
  cases fraction with
  | none =>
    rcases List.mem_append.mp member with digit | member
    · exact isFigure_of_mem_digits bound.1 digit
    · exact ending c member
  | some fraction =>
    rcases List.mem_append.mp member with digit | member
    · exact isFigure_of_mem_digits bound.1 digit
    rcases List.mem_cons.mp member with rfl | member
    · decide
    rcases List.mem_append.mp member with digit | member
    · exact isFigure_of_mem_digits bound.2 digit
    · exact ending c member

/-- A proper spelling is none of a whole number, as its mark is no digit. -/
theorem IsProper.readInt?_eq_none (proper : spelling.IsProper) {cs : List Char} {negative : Bool}
    (sign : splitSign cs = (negative, spelling.chars)) : readInt? cs = none := by
  have mark : ∃ c ∈ spelling.chars, isDigit c = false := by
    have marked := proper.marked
    rcases spelling with ⟨whole, fraction, exponent⟩
    cases fraction with
    | some fraction => exact ⟨'.', by simp [chars], by decide⟩
    | none =>
      cases exponent with
      | none => simp at marked
      | some exponent => exact ⟨'e', by simp [chars, ending, exponentChars], by decide⟩
  obtain ⟨c, member, other⟩ := mark
  have noDigits : digitsOnly? spelling.chars = none := by
    cases found : digitsOnly? spelling.chars with
    | none => rfl
    | some digits =>
      unfold digitsOnly? at found
      split at found
      · cases found
      · have all := (digits_of_mapM_digitValue? found).1
        rw [List.all_eq_true] at all
        exact absurd (all c member) (Bool.eq_false_iff.mp other)
  simp [readInt?, sign, noDigits]

/-- A spelling with a sign in front of it, if it is negative. -/
def signedChars (spelling : Spelling) (negative : Bool) : List Char :=
  if negative then '-' :: spelling.chars else spelling.chars

theorem IsProper.exists_cons (proper : spelling.IsProper) :
    ∃ digit cs, digit < 10 ∧ spelling.chars = digitChar digit :: cs := by
  have bound := proper.bound
  obtain ⟨digit, digits, shape⟩ := List.exists_cons_of_ne_nil proper.starts
  rcases spelling with ⟨whole, fraction, exponent⟩
  subst shape
  cases fraction <;> exact ⟨digit, _, bound digit List.mem_cons_self, rfl⟩

private theorem IsProper.splitSign_signedChars (proper : spelling.IsProper) (negative : Bool) :
    splitSign (spelling.signedChars negative) = (negative, spelling.chars) := by
  cases negative with
  | true => rfl
  | false =>
    obtain ⟨digit, cs, bound, shape⟩ := proper.exists_cons
    rw [signedChars, shape]
    exact splitSign_digitChar bound cs

/-- A signed spelling is read as the double that it stands for. -/
theorem IsProper.writesValue (proper : spelling.IsProper) (negative : Bool) :
    WritesValue (spelling.signedChars negative)
      (.float (Double.ofDecimal negative spelling.digits spelling.power)) := by
  have sign := proper.splitSign_signedChars negative
  obtain ⟨digit, cs, bound, shape⟩ := proper.exists_cons
  obtain ⟨first, rest, numeral, start⟩ :
      ∃ c cs, IsNumeral c ∧ spelling.signedChars negative = c :: cs := by
    cases negative with
    | true => exact ⟨'-', _, .inl rfl, rfl⟩
    | false => exact ⟨_, cs, .inr ⟨digit, bound, rfl⟩, shape⟩
  have figures : ∀ c ∈ spelling.signedChars negative, IsFigure c := by
    intro c member
    cases negative with
    | true =>
      rcases List.mem_cons.mp member with rfl | member
      · decide
      · exact proper.isFigure member
    | false => exact proper.isFigure member
  refine writesValue_of_figures (start ▸ List.cons_ne_nil _ _) figures ?_
  have noInt := proper.readInt?_eq_none sign
  have read := proper.read sign
  rw [start] at noInt read ⊢
  rw [plainValue_of_numeral numeral, noInt, read]

end Spelling

private theorem digitChar_eq_zero : ∀ digit < 10, digitChar digit = '0' → digit = 0 := by decide

/-- The significant digits of a number stand for it up to the zeros that were behind them. -/
theorem exists_significantDigits {n : Nat} (positive : n ≠ 0) : ∃ digits zeros,
    Double.significantDigits (natDigits n) = digits.map digitChar ∧
      (∀ digit ∈ digits, digit < 10) ∧ digits ≠ [] ∧
      (natDigits n).length = digits.length + zeros ∧ ofDigits 10 digits * 10 ^ zeros = n := by
  obtain ⟨all, text, bound, -, value⟩ := exists_digits n
  obtain ⟨dropped, whole, zero⟩ := exists_dropped (· = '0') (natDigits n)
  obtain ⟨digits, rest, rfl, kept, last⟩ := List.map_eq_append_iff.mp (text.symm.trans whole.symm)
  obtain ⟨digitsBound, restBound⟩ := List.forall_mem_append.mp bound
  obtain ⟨zeros, rfl⟩ : ∃ zeros, rest = List.replicate zeros 0 := by
    refine ⟨rest.length, List.eq_replicate_of_mem fun digit member => ?_⟩
    have isZero := zero (digitChar digit) (last ▸ List.mem_map_of_mem member)
    exact digitChar_eq_zero digit (restBound digit member) (of_decide_eq_true isZero)
  rw [ofDigits_append, ofDigits_replicate_zero, Nat.add_zero, List.length_replicate] at value
  have nonempty : digits ≠ [] := by
    rintro rfl
    exact positive (by rw [← value]; simp [ofDigits])
  refine ⟨digits, zeros, ?_, digitsBound, nonempty, by rw [text]; simp, value⟩
  have filled : digits.map digitChar ≠ [] := by simpa using nonempty
  rw [Double.significantDigits, ← kept]
  split
  · next empty => exact absurd empty filled
  · rfl

section Positional

variable {digits : List Nat} (bound : ∀ digit ∈ digits, digit < 10) {place : Int}

include bound

/-- Below one, zeros stand between the point and the digits. -/
private theorem isSpelled_fraction (small : place ≤ 0) :
    IsSpelled (Layout.positional (digits.map digitChar) place)
      (ofDigits 10 digits * 10 ^ (place - digits.length)) := by
  have zero : digitChar 0 = '0' := rfl
  refine ⟨⟨[0], some (List.replicate (-place).toNat 0 ++ digits), none⟩,
    ⟨List.cons_ne_nil _ _, ?_, .inl (Option.some_ne_none _)⟩, ?_, ?_⟩
  · exact List.forall_mem_append.mpr ⟨List.forall_mem_singleton.mpr (by decide),
      List.forall_mem_append.mpr ⟨lt_ten_of_mem_zeros _, bound⟩⟩
  · simp [Layout.positional, small, Spelling.chars, Spelling.ending, zero]
  · have sum : ofDigits 10 ([0] ++ (List.replicate (-place).toNat 0 ++ digits)) =
        ofDigits 10 digits := by
      simp [ofDigits_cons, ofDigits_append]
    have power : (0 : Int) - (List.replicate (-place).toNat 0 ++ digits).length =
        place - digits.length := by
      rw [List.length_append, List.length_replicate]
      omega
    rw [← sum, ← power]
    rfl

/-- A whole number gets the zeros up to its point, and one behind it. -/
private theorem isSpelled_whole (nonempty : digits ≠ []) (large : ¬place ≤ 0)
    (whole : digits.length ≤ place.toNat) :
    IsSpelled (Layout.positional (digits.map digitChar) place)
      (ofDigits 10 digits * 10 ^ (place - digits.length)) := by
  have zero : digitChar 0 = '0' := rfl
  refine ⟨⟨digits ++ List.replicate (place.toNat - digits.length) 0, some [0], none⟩,
    ⟨by simp [nonempty], ?_, .inl (Option.some_ne_none _)⟩, ?_, ?_⟩
  · refine List.forall_mem_append.mpr
      ⟨List.forall_mem_append.mpr ⟨bound, lt_ten_of_mem_zeros _⟩, ?_⟩
    exact List.forall_mem_singleton.mpr (by decide)
  · simp [Layout.positional, large, whole, Spelling.chars, Spelling.ending, zero]
  · have sum : ofDigits 10 (digits ++ List.replicate (place.toNat - digits.length) 0 ++ [0]) =
        ofDigits 10 digits * 10 ^ (place.toNat - digits.length + 1) := by
      rw [List.append_assoc, ← List.replicate_succ', ofDigits_append, ofDigits_replicate_zero,
        List.length_replicate, Nat.add_zero]
    have power : (10 : ℚ) ^ (place - digits.length) =
        10 ^ (place.toNat - digits.length + 1) * 10 ^ (0 - (1 : Int)) := by
      rw [← zpow_natCast, ← zpow_add₀ (by norm_num)]
      congr 1
      omega
    change ((ofDigits 10 (_ ++ [0]) : Nat) : ℚ) * 10 ^ (0 - (1 : Int)) = _
    rw [sum, power, Nat.cast_mul, mul_assoc]
    norm_cast

/-- Other values have the point among their digits. -/
private theorem isSpelled_inside (nonempty : digits ≠ []) (large : ¬place ≤ 0)
    (inside : ¬digits.length ≤ place.toNat) :
    IsSpelled (Layout.positional (digits.map digitChar) place)
      (ofDigits 10 digits * 10 ^ (place - digits.length)) := by
  refine ⟨⟨digits.take place.toNat, some (digits.drop place.toNat), none⟩,
    ⟨?_, by simpa [Spelling.digits] using bound, .inl (Option.some_ne_none _)⟩, ?_, ?_⟩
  · have reached : place.toNat ≠ 0 := by omega
    simp [nonempty, reached]
  · simp [Layout.positional, large, inside, Spelling.chars, Spelling.ending]
  · have sum : ofDigits 10 (digits.take place.toNat ++ digits.drop place.toNat) =
        ofDigits 10 digits := by
      rw [List.take_append_drop]
    have power : (0 : Int) - (digits.drop place.toNat).length = place - digits.length := by
      rw [List.length_drop]
      omega
    rw [← sum, ← power]
    rfl

/-- Digits with the point in place. -/
theorem isSpelled_positional (nonempty : digits ≠ []) (place : Int) :
    IsSpelled (Layout.positional (digits.map digitChar) place)
      (ofDigits 10 digits * 10 ^ (place - digits.length)) := by
  by_cases small : place ≤ 0
  · exact isSpelled_fraction bound small
  by_cases whole : digits.length ≤ place.toNat
  · exact isSpelled_whole bound nonempty small whole
  · exact isSpelled_inside bound nonempty small whole

end Positional

/-- Digits with one before the point, and an exponent. -/
theorem isSpelled_scientific (layout : Layout) {digits : List Nat}
    (bound : ∀ digit ∈ digits, digit < 10) (nonempty : digits ≠ []) (leading : Int) :
    IsSpelled (layout.scientific (digits.map digitChar) leading)
      (ofDigits 10 digits * 10 ^ (leading + 1 - digits.length)) := by
  obtain ⟨digit, rest, rfl⟩ := List.exists_cons_of_ne_nil nonempty
  cases rest with
  | nil =>
    let zeros := layout.exponentWidth - (natDigits leading.natAbs).length
    refine ⟨⟨[digit], none, some (leading, zeros)⟩,
      ⟨by simp, by simpa [Spelling.digits] using bound, by simp⟩, ?_, ?_⟩
    · rfl
    · simp [Spelling.value, Spelling.digits, Spelling.power]
  | cons second rest =>
    refine ⟨⟨[digit], some (second :: rest),
      some (leading, layout.exponentWidth - (natDigits leading.natAbs).length)⟩,
      ⟨by simp, by simpa [Spelling.digits] using bound, by simp⟩, ?_, ?_⟩
    · simp [Layout.scientific, Spelling.chars, Spelling.ending, Spelling.exponentChars]
    · simp [Spelling.value, Spelling.digits, Spelling.power]

/-- A decimal is laid out with its digits and its power of ten. -/
theorem isSpelled_write (layout : Layout) {grid : Grid} (positive : grid.digits ≠ 0) :
    IsSpelled (layout.write grid) (grid.digits * 10 ^ grid.exponent) := by
  obtain ⟨digits, zeros, significant, bound, nonempty, length, value⟩ :=
    exists_significantDigits positive
  have scaled : (ofDigits 10 digits : ℚ) *
      10 ^ (grid.exponent + (natDigits grid.digits).length - 1 + 1 - digits.length) =
      grid.digits * 10 ^ grid.exponent := by
    have power : grid.exponent + (natDigits grid.digits).length - 1 + 1 - digits.length =
        zeros + grid.exponent := by
      omega
    rw [power, zpow_add₀ (by norm_num), zpow_natCast, ← mul_assoc]
    congr 1
    exact_mod_cast value
  simp only [Layout.write, significant]
  rw [← scaled]
  split
  · exact isSpelled_positional bound nonempty _
  · exact isSpelled_scientific layout bound nonempty _

/-- The text of a finite double is read as it. -/
theorem writesValue_text {x : Double} (finite : x.isFinite = true) (names : SpecialNames) :
    WritesValue (x.text names).toList (.float x) := by
  have notNaN : x.isNaN = false := by
    have field : x.exponentField ≠ 2047 := of_decide_eq_true finite
    simp [Double.isNaN, field]
  have shown {spelling : Spelling} (proper : spelling.IsProper)
      (magnitude : (if x.significand = 0 then ['0', '.', '0'] else valueLayout.write x.shortest) =
        spelling.chars)
      (read : Double.ofDecimal x.isNegative spelling.digits spelling.power = x) :
      WritesValue (x.text names).toList (.float x) := by
    have text : (x.text names).toList = spelling.signedChars x.isNegative := by
      simp [Double.text, notNaN, finite, magnitude, Spelling.signedChars]
    have writes := proper.writesValue x.isNegative
    rwa [read, ← text] at writes
  by_cases zero : x.significand = 0
  · refine @shown ⟨[0], some [0], none⟩ ⟨by decide, by decide, by decide⟩ ?_ ?_
    · rw [if_pos zero]
      rfl
    · have back := Double.ofFields_magnitudeBits x
      rwa [Double.magnitudeBits_of_zero zero] at back
  · have rounds := Double.roundsTo_shortest finite zero
    have digits : x.shortest.digits ≠ 0 := by
      intro none
      have positive := rounds.pos zero
      simp [Double.gridValue, none] at positive
    obtain ⟨spelling, proper, chars, value⟩ := isSpelled_write valueLayout digits
    refine shown proper ?_ ?_
    · rw [if_neg zero, chars]
    · have same : Double.RoundsTo spelling.value x := by
        rw [value]
        exact rounds
      rw [Double.ofDecimal_eq finite zero proper.bound same, Double.ofFields_magnitudeBits]

end EditorPlugins.Frontmatter
