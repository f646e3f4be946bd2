import Mathlib.Algebra.Order.Field.Power
import Mathlib.Data.Rat.Cast.Order
import Mathlib.Tactic.FieldSimp
import Mathlib.Tactic.Linarith
import Mathlib.Tactic.Positivity
import EditorPlugins.Number.Shortest
import EditorPlugins.Proofs.Number.Decimal

/-! # Fractions are rounded to the nearest double

A finite double is its significand times a power of two. The fractions that round to it lie between
its bounds: half a place away on both sides, but only a quarter below the least significand, where
the places become finer. Rounding carries over such a boundary by itself, since the bits of the
exponent stand in front of those of the significand.
-/

namespace EditorPlugins.Number

@[simp] theorem cast_twoTo (k : Nat) : (twoTo k : ℚ) = 2 ^ k := by simp [twoTo]

@[simp] theorem cast_tenTo (k : Nat) : (tenTo k : ℚ) = 10 ^ k := by simp [tenTo]

theorem twoTo_pos (k : Nat) : 0 < twoTo k := Nat.pow_pos (by decide)

private theorem tenTo_pos (k : Nat) : 0 < tenTo k := Nat.pow_pos (by decide)

namespace Double

/-- The bits below the sign. -/
def magnitudeBits (x : Double) : Nat := (x.power + 1074).toNat * twoTo 52 + x.significand

theorem significand_lt (x : Double) : x.significand < twoTo 53 := by
  have fraction : x.fraction < twoTo 52 := Nat.mod_lt _ (twoTo_pos 52)
  unfold significand
  split <;> simp only [twoTo, Nat.pow_eq] at fraction ⊢ <;> omega

theorem power_ge (x : Double) : -1074 ≤ x.power := by
  unfold power
  split <;> omega

theorem power_le {x : Double} (finite : x.isFinite = true) : x.power ≤ 971 := by
  have field : x.exponentField ≠ 2047 := of_decide_eq_true finite
  have bound : x.exponentField < 2048 := Nat.mod_lt _ (twoTo_pos 11)
  unfold power
  split <;> omega

/-- Above the least power the first bit of the significand is set. -/
theorem twoTo_le_significand {x : Double} (above : x.power ≠ -1074) :
    twoTo 52 ≤ x.significand ∧ 1 < x.exponentField := by
  by_cases least : x.exponentField = 0
  · rw [power, if_pos least] at above
    exact absurd rfl above
  · rw [power, if_neg least] at above
    rw [significand, if_neg least]
    omega

private theorem magnitudeBits_eq (x : Double) : x.magnitudeBits = x.bits.toNat % twoTo 63 := by
  have bits : x.bits.toNat % twoTo 63 = x.exponentField * twoTo 52 + x.fraction := by
    simp only [exponentField, fraction, twoTo, Nat.pow_eq]
    omega
  rw [bits, magnitudeBits, power, significand]
  split
  · next least => simp [least]
  · next above =>
    have shift : ((x.exponentField : Int) - 1075 + 1074).toNat + 1 = x.exponentField := by omega
    rw [← shift]
    simp only [twoTo, Nat.pow_eq]
    omega

theorem magnitudeBits_of_zero {x : Double} (zero : x.significand = 0) : x.magnitudeBits = 0 := by
  have least : x.power = -1074 := by
    by_contra above
    have bits := (twoTo_le_significand above).1
    rw [zero] at bits
    exact absurd bits (by decide)
  rw [magnitudeBits, zero, least]
  rfl

/-- A double is made from its sign and the bits below it. -/
theorem ofFields_magnitudeBits (x : Double) : ofFields x.isNegative x.magnitudeBits = x := by
  have bound := x.bits.toNat_lt
  have bits : (if x.isNegative then twoTo 63 + x.magnitudeBits else x.magnitudeBits) =
      x.bits.toNat := by
    rw [magnitudeBits_eq, isNegative]
    simp only [twoTo, Nat.pow_eq]
    by_cases negative : 2 ^ 63 ≤ x.bits.toNat
    · simp only [negative, decide_true, if_true]
      omega
    · simp only [negative, decide_false, Bool.false_eq_true, if_false]
      omega
  rw [ofFields, bits, UInt64.ofNat_toNat]

private theorem magnitudeBits_lt {x : Double} (finite : x.isFinite = true) :
    x.magnitudeBits < 2047 * twoTo 52 := by
  have field : x.exponentField ≠ 2047 := of_decide_eq_true finite
  rw [magnitudeBits_eq]
  simp only [exponentField, twoTo, Nat.pow_eq] at field ⊢
  omega

end Double

/-- A whole number is the nearest one to a fraction that is at most half away from it, if it is even
where the half is reached. -/
theorem roundDiv_eq {num den m : Nat} (positive : 0 < den) (low : 2 * m * den ≤ 2 * num + den)
    (high : 2 * num ≤ 2 * m * den + den)
    (odd : m % 2 = 1 → 2 * m * den < 2 * num + den ∧ 2 * num < 2 * m * den + den) :
    Double.roundDiv num den = m := by
  have division := Nat.div_add_mod num den
  have rest := Nat.mod_lt num positive
  unfold Double.roundDiv
  generalize num / den = q at *
  generalize num % den = r at *
  have below : q ≤ m := by
    by_contra more
    have step := Nat.mul_le_mul_right den (by omega : m + 1 ≤ q)
    nlinarith
  have above : m ≤ q + 1 := by
    by_contra more
    have step := Nat.mul_le_mul_right den (by omega : q + 2 ≤ m)
    nlinarith
  obtain rfl | rfl : m = q ∨ m = q + 1 := by omega
  · have half : 2 * r ≤ den := by nlinarith
    have tie : m % 2 = 1 → 2 * r < den := fun isOdd => by nlinarith [(odd isOdd).2]
    simp only
    split
    · rfl
    · split <;> omega
  · have half : den ≤ 2 * r := by nlinarith
    have tie : (q + 1) % 2 = 1 → den < 2 * r := fun isOdd => by nlinarith [(odd isOdd).1]
    simp only
    split
    · omega
    · split <;> omega

namespace Double

theorem two_zpow_pos (p : Int) : (0 : ℚ) < 2 ^ p := zpow_pos (by norm_num) p

private theorem two_zpow_le {p q : Int} (le : p ≤ q) : (2 : ℚ) ^ p ≤ 2 ^ q :=
  zpow_le_zpow_right₀ (by norm_num) le

theorem ten_zpow_pos (ten : Int) : (0 : ℚ) < 10 ^ ten := zpow_pos (by norm_num) ten

theorem ten_zpow_le {p q : Int} (le : p ≤ q) : (10 : ℚ) ^ p ≤ 10 ^ q :=
  zpow_le_zpow_right₀ (by norm_num) le

/-- Scaling down divides by the power of two. -/
theorem scaleDown_eq (num : Nat) {den : Nat} (positive : 0 < den) (p : Int) :
    0 < (scaleDown num den p).2 ∧
      ((scaleDown num den p).1 : ℚ) = num / den / 2 ^ p * (scaleDown num den p).2 := by
  have ne : (den : ℚ) ≠ 0 := by exact_mod_cast positive.ne'
  cases p with
  | ofNat k =>
    refine ⟨Nat.mul_pos positive (twoTo_pos k), ?_⟩
    simp only [scaleDown, Nat.cast_mul, cast_twoTo, Int.ofNat_eq_natCast, zpow_natCast]
    field_simp
  | negSucc k =>
    refine ⟨positive, ?_⟩
    simp only [scaleDown, Nat.cast_mul, cast_twoTo, zpow_negSucc]
    field_simp

private theorem div_scaleDown_lt_iff (num : Nat) {den : Nat} (positive : 0 < den) (p : Int)
    (bound : Nat) :
    (scaleDown num den p).1 / (scaleDown num den p).2 < bound ↔
      (num : ℚ) / den < bound * 2 ^ p := by
  obtain ⟨unitPos, scaled⟩ := scaleDown_eq num positive p
  have unit_pos : (0 : ℚ) < (scaleDown num den p).2 := by exact_mod_cast unitPos
  rw [Nat.div_lt_iff_lt_mul unitPos, ← div_lt_iff₀ (two_zpow_pos p)]
  constructor
  · intro below
    have cast : ((scaleDown num den p).1 : ℚ) < bound * (scaleDown num den p).2 := by
      exact_mod_cast below
    rw [scaled] at cast
    exact lt_of_mul_lt_mul_right cast unit_pos.le
  · intro below
    have cast := mul_lt_mul_of_pos_right below unit_pos
    rw [← scaled] at cast
    exact_mod_cast cast

/-- The guess at a power is one too great at most. -/
theorem guess_bounds {num den : Nat} (numPos : 0 < num) (denPos : 0 < den) :
    (2 : ℚ) ^ ((num.log2 : Int) - den.log2 - 1) < num / den ∧
      (num : ℚ) / den < 2 ^ ((num.log2 : Int) - den.log2 + 1) := by
  have ofNat {n : Nat} (positive : 0 < n) :
      (2 : ℚ) ^ (n.log2 : Int) ≤ n ∧ (n : ℚ) < 2 ^ ((n.log2 : Int) + 1) := by
    have low := Nat.log2_self_le positive.ne'
    have high := @Nat.lt_log2_self n
    constructor
    · exact_mod_cast low
    · exact_mod_cast high
  have den_pos : (0 : ℚ) < den := by exact_mod_cast denPos
  obtain ⟨numLow, numHigh⟩ := ofNat numPos
  obtain ⟨denLow, denHigh⟩ := ofNat denPos
  constructor
  · rw [lt_div_iff₀ den_pos]
    calc (2 : ℚ) ^ ((num.log2 : Int) - den.log2 - 1) * den
        < 2 ^ ((num.log2 : Int) - den.log2 - 1) * 2 ^ ((den.log2 : Int) + 1) :=
          mul_lt_mul_of_pos_left denHigh (two_zpow_pos _)
      _ = 2 ^ (num.log2 : Int) := by rw [← zpow_add₀ (by norm_num)]; congr 1; omega
      _ ≤ num := numLow
  · rw [div_lt_iff₀ den_pos]
    calc (num : ℚ) < 2 ^ ((num.log2 : Int) + 1) := numHigh
      _ = 2 ^ ((num.log2 : Int) - den.log2 + 1) * 2 ^ (den.log2 : Int) := by
          rw [← zpow_add₀ (by norm_num)]; congr 1; omega
      _ ≤ 2 ^ ((num.log2 : Int) - den.log2 + 1) * den :=
          mul_le_mul_of_nonneg_left denLow (two_zpow_pos _).le

/-- At the fitting power a fraction is below fifty-three bits, and it has as many unless the power
is the least one. -/
theorem fitPower_spec {num den : Nat} (numPos : 0 < num) (denPos : 0 < den) :
    -1074 ≤ fitPower num den ∧ (num : ℚ) / den < 2 ^ (fitPower num den + 53) ∧
      (fitPower num den ≠ -1074 → (2 : ℚ) ^ (fitPower num den + 52) ≤ num / den) := by
  obtain ⟨low, high⟩ := guess_bounds numPos denPos
  have fits : ∃ q : Int, fitPower num den = max q (-1074) ∧ (num : ℚ) / den < 2 ^ (q + 53) ∧
      (2 : ℚ) ^ (q + 52) ≤ num / den := by
    have test := div_scaleDown_lt_iff num denPos ((num.log2 : Int) - den.log2 - 52) (twoTo 52)
    rw [cast_twoTo, ← zpow_natCast, ← zpow_add₀ (by norm_num)] at test
    by_cases small : (scaleDown num den ((num.log2 : Int) - den.log2 - 52)).1 /
        (scaleDown num den ((num.log2 : Int) - den.log2 - 52)).2 < twoTo 52
    · refine ⟨(num.log2 : Int) - den.log2 - 52 - 1, by simp only [fitPower, if_pos small], ?_, ?_⟩
      · exact (test.mp small).trans_le (two_zpow_le (by omega))
      · exact low.le.trans' (two_zpow_le (by omega))
    · refine ⟨(num.log2 : Int) - den.log2 - 52, by simp only [fitPower, if_neg small], ?_, ?_⟩
      · exact high.trans_le (two_zpow_le (by omega))
      · exact (not_lt.mp (mt test.mpr small)).trans' (two_zpow_le (by omega))
  obtain ⟨q, fit, below, above⟩ := fits
  rw [fit]
  refine ⟨le_max_right _ _, below.trans_le (two_zpow_le (by omega)), fun other => ?_⟩
  rwa [max_eq_left (by omega)]

/-- The fractions that round to a double: those between its bounds, and the bounds themselves when
the significand is even. -/
structure RoundsTo (value : ℚ) (x : Double) : Prop where
  low : x.quarters.1 * (2 : ℚ) ^ (x.power - 2) ≤ value
  high : value ≤ x.quarters.2.2 * (2 : ℚ) ^ (x.power - 2)
  odd : x.significand % 2 = 1 → x.quarters.1 * (2 : ℚ) ^ (x.power - 2) < value ∧
    value < x.quarters.2.2 * (2 : ℚ) ^ (x.power - 2)

section Rounding

variable {x : Double} {value : ℚ} {num den : Nat}

/-- A quarter of a place, counted in places. -/
theorem zpow_sub_two (p : Int) : (2 : ℚ) ^ (p - 2) = 2 ^ p / 4 := by
  rw [zpow_sub₀ (by norm_num)]
  norm_num

private theorem le_lower (x : Double) : (4 * x.significand - 2 : ℚ) ≤ x.quarters.1 := by
  have natural : 4 * x.significand ≤ x.quarters.1 + 2 := by
    simp only [quarters]
    split <;> omega
  have cast : ((4 * x.significand : Nat) : ℚ) ≤ (x.quarters.1 + 2 : Nat) := by
    exact_mod_cast natural
  push_cast at cast
  linarith

theorem lower_le (positive : x.significand ≠ 0) :
    (x.quarters.1 : ℚ) ≤ 4 * x.significand - 1 := by
  have natural : x.quarters.1 + 1 ≤ 4 * x.significand := by
    simp only [quarters]
    split <;> omega
  have cast : ((x.quarters.1 + 1 : Nat) : ℚ) ≤ (4 * x.significand : Nat) := by
    exact_mod_cast natural
  push_cast at cast
  linarith

theorem upper_eq (x : Double) : (x.quarters.2.2 : ℚ) = 4 * x.significand + 2 := by
  simp only [quarters]
  push_cast
  rfl

/-- What rounds to a double is at most half a place away from it. -/
theorem RoundsTo.half (rounds : RoundsTo value x) :
    (2 * x.significand - 1 : ℚ) * 2 ^ x.power ≤ 2 * value ∧
      2 * value ≤ (2 * x.significand + 1 : ℚ) * 2 ^ x.power ∧
      (x.significand % 2 = 1 → (2 * x.significand - 1 : ℚ) * 2 ^ x.power < 2 * value ∧
        2 * value < (2 * x.significand + 1 : ℚ) * 2 ^ x.power) := by
  have place := two_zpow_pos x.power
  have lower := le_lower x
  have low := rounds.low
  have high := rounds.high
  have odd := rounds.odd
  rw [zpow_sub_two] at low high odd
  rw [upper_eq] at high odd
  refine ⟨by nlinarith, by nlinarith, fun isOdd => ?_⟩
  obtain ⟨strictLow, strictHigh⟩ := odd isOdd
  exact ⟨by nlinarith, by nlinarith⟩

/-- Where the places become finer, what rounds to a double is at most a quarter below it. -/
theorem RoundsTo.quarter (rounds : RoundsTo value x) (boundary : x.significand = twoTo 52)
    (above : x.power ≠ -1074) : (4 * 2 ^ 52 - 1 : ℚ) * 2 ^ x.power ≤ 4 * value := by
  have lower : x.quarters.1 + 1 = 4 * twoTo 52 := by
    simp only [quarters, boundary, (twoTo_le_significand above).2]
    rfl
  have cast : (x.quarters.1 : ℚ) + 1 = 4 * 2 ^ 52 := by exact_mod_cast lower
  have low := rounds.low
  rw [zpow_sub_two] at low
  rw [← cast]
  linarith

/-- The rounded count of places is the nearest one. -/
theorem roundDiv_scaleDown {q : Int} {n : Nat} (denPos : 0 < den)
    (low : (2 * n - 1 : ℚ) * 2 ^ q ≤ 2 * (num / den))
    (high : 2 * (num / den) ≤ (2 * n + 1 : ℚ) * 2 ^ q)
    (odd : n % 2 = 1 → (2 * n - 1 : ℚ) * 2 ^ q < 2 * (num / den) ∧
      2 * (num / den) < (2 * n + 1 : ℚ) * 2 ^ q) :
    roundDiv (scaleDown num den q).1 (scaleDown num den q).2 = n := by
  obtain ⟨unitPos, scaled⟩ := scaleDown_eq num denPos q
  generalize (scaleDown num den q).1 = count at *
  generalize (scaleDown num den q).2 = unit at *
  have unit_pos : (0 : ℚ) < unit := by exact_mod_cast unitPos
  have place := two_zpow_pos q
  have value : (num : ℚ) / den = num / den / 2 ^ q * 2 ^ q := by field_simp
  generalize (num : ℚ) / den / 2 ^ q = quotient at *
  rw [value, ← mul_assoc] at low high odd
  have lowest := le_of_mul_le_mul_right low place
  have highest := le_of_mul_le_mul_right high place
  apply roundDiv_eq unitPos
  · have cast : (2 * n * unit : ℚ) ≤ 2 * count + unit := by nlinarith
    exact_mod_cast cast
  · have cast : (2 * count : ℚ) ≤ 2 * n * unit + unit := by nlinarith
    exact_mod_cast cast
  · intro isOdd
    have strictLow := lt_of_mul_lt_mul_right (odd isOdd).1 place.le
    have strictHigh := lt_of_mul_lt_mul_right (odd isOdd).2 place.le
    have castLow : (2 * n * unit : ℚ) < 2 * count + unit := by nlinarith
    have castHigh : (2 * count : ℚ) < 2 * n * unit + unit := by nlinarith
    exact ⟨by exact_mod_cast castLow, by exact_mod_cast castHigh⟩

theorem RoundsTo.pos (positive : x.significand ≠ 0) (rounds : RoundsTo value x) : 0 < value := by
  have half := rounds.half.1
  have atLeast : (1 : ℚ) ≤ x.significand := by exact_mod_cast Nat.pos_of_ne_zero positive
  have place := two_zpow_pos x.power
  nlinarith

private theorem two_zpow_add (p : Int) (k : Nat) : (2 : ℚ) ^ (p + k) = 2 ^ k * 2 ^ p := by
  rw [zpow_add₀ (by norm_num), zpow_natCast, mul_comm]

private theorem fitPower_le (numPos : 0 < num) (denPos : 0 < den)
    (rounds : RoundsTo (num / den) x) :
    fitPower num den ≤ x.power := by
  obtain ⟨least, -, above⟩ := fitPower_spec numPos denPos
  obtain ⟨-, high, -⟩ := rounds.half
  have place := two_zpow_pos x.power
  by_contra more
  have bits := above (by have := x.power_ge; omega)
  have step := two_zpow_le (by omega : x.power + 53 ≤ fitPower num den + 52)
  have bound : (x.significand : ℚ) + 1 ≤ 2 ^ 53 := by exact_mod_cast x.significand_lt
  have places := two_zpow_add x.power 53
  push_cast at places
  nlinarith

/-- A fraction that rounds to a double fits the power of the double, or the next lower one just
below a boundary. -/
theorem fitPower_of_roundsTo (numPos : 0 < num) (denPos : 0 < den)
    (rounds : RoundsTo (num / den) x) :
    fitPower num den = x.power ∨ fitPower num den = x.power - 1 ∧ x.power ≠ -1074 ∧
      x.significand = twoTo 52 ∧ (num : ℚ) / den < 2 ^ (x.power + 52) := by
  by_cases same : fitPower num den = x.power
  · exact .inl same
  obtain ⟨least, below, -⟩ := fitPower_spec numPos denPos
  obtain ⟨low, -⟩ := rounds.half
  have notAbove := fitPower_le numPos denPos rounds
  have place := two_zpow_pos x.power
  have notLeast : x.power ≠ -1074 := by omega
  obtain ⟨bits, -⟩ := twoTo_le_significand notLeast
  have next : fitPower num den = x.power - 1 := by
    by_contra other
    have bitsCast : (2 : ℚ) ^ 52 ≤ x.significand := by exact_mod_cast bits
    have step := two_zpow_le (by omega : fitPower num den + 53 ≤ x.power + 51)
    have places := two_zpow_add x.power 51
    push_cast at places
    nlinarith
  have under : (num : ℚ) / den < 2 ^ (x.power + 52) := by
    rwa [next, show x.power - 1 + 53 = x.power + 52 by omega] at below
  refine .inr ⟨next, notLeast, ?_, under⟩
  have places := two_zpow_add x.power 52
  push_cast at places
  have atMost : (x.significand : ℚ) < 2 ^ 52 + 1 := by
    rw [places] at under
    have strict : (2 * x.significand - 1 : ℚ) < 2 * 2 ^ 52 := by
      apply lt_of_mul_lt_mul_right _ place.le
      linarith
    linarith
  have natural : x.significand < twoTo 52 + 1 := by exact_mod_cast atMost
  omega

/-- Just below a boundary the count of the finer places is rounded up to the boundary. -/
theorem roundDiv_below_boundary (denPos : 0 < den) (rounds : RoundsTo (num / den) x)
    (boundary : x.significand = twoTo 52) (above : x.power ≠ -1074)
    (under : (num : ℚ) / den < 2 ^ (x.power + 52)) :
    roundDiv (scaleDown num den (x.power - 1)).1 (scaleDown num den (x.power - 1)).2 =
      twoTo 53 := by
  have quarter := rounds.quarter boundary above
  have place := two_zpow_pos x.power
  have places : (2 : ℚ) ^ (x.power - 1) = 2 ^ x.power / 2 := by
    rw [zpow_sub₀ (by norm_num)]
    norm_num
  have bound := two_zpow_add x.power 52
  push_cast at bound
  rw [bound] at under
  apply roundDiv_scaleDown denPos
  · rw [places, cast_twoTo]
    linarith
  · rw [places, cast_twoTo]
    linarith
  · intro isOdd
    exact absurd isOdd (by decide)

/-- A fraction between the bounds of a double is rounded to it. -/
theorem ofRatio_eq (finite : x.isFinite = true) (positive : x.significand ≠ 0) (denPos : 0 < den)
    (rounds : RoundsTo (num / den) x) (negative : Bool) :
    ofRatio negative num den = ofFields negative x.magnitudeBits := by
  have valuePos := rounds.pos positive
  have numPos : 0 < num := by
    rcases Nat.eq_zero_or_pos num with rfl | pos
    · simp at valuePos
    · exact pos
  have bits : (fitPower num den + 1074).toNat * twoTo 52 +
      roundDiv (scaleDown num den (fitPower num den)).1
        (scaleDown num den (fitPower num den)).2 = x.magnitudeBits := by
    rcases fitPower_of_roundsTo numPos denPos rounds with same | ⟨next, above, boundary, under⟩
    · obtain ⟨low, high, odd⟩ := rounds.half
      rw [same, roundDiv_scaleDown denPos low high odd, magnitudeBits]
    · -- The significand has one bit too many, and that one carries into the exponent.
      have least := x.power_ge
      have count : (x.power + 1074).toNat = (x.power - 1 + 1074).toNat + 1 := by omega
      rw [next, roundDiv_below_boundary denPos rounds boundary above under, magnitudeBits,
        boundary, count]
      simp only [twoTo, Nat.pow_eq]
      omega
  have bound := magnitudeBits_lt finite
  simp only [ofRatio, numPos.ne', if_false, bits, if_neg (not_le.mpr bound)]

/-- Decimals of four hundred places reach beyond all finite doubles. -/
theorem range_bounds :
    2 * (10 : ℚ) ^ (-400 : Int) ≤ 2 ^ (-1074 : Int) ∧
      (2 : ℚ) ^ 54 * 2 ^ (971 : Int) ≤ 10 ^ 400 := by
  have small : 2 * twoTo 1074 ≤ tenTo 400 := by decide +kernel
  have large : twoTo 54 * twoTo 971 ≤ tenTo 400 := by decide +kernel
  constructor
  · have cast : 2 * (2 : ℚ) ^ 1074 ≤ 10 ^ 400 := by
      rw [← cast_twoTo, ← cast_tenTo]
      exact_mod_cast small
    rw [zpow_neg, zpow_neg, zpow_ofNat, zpow_ofNat, ← div_eq_mul_inv, div_le_iff₀ (by positivity),
      ← div_eq_inv_mul, le_div_iff₀ (by positivity)]
    exact cast
  · rw [zpow_ofNat, ← cast_twoTo, ← cast_twoTo, ← cast_tenTo]
    exact_mod_cast large

/-- What rounds to a double is in the range of decimals that are looked at closely. -/
theorem RoundsTo.range (finite : x.isFinite = true) (positive : x.significand ≠ 0)
    (rounds : RoundsTo value x) : (10 : ℚ) ^ (-400 : Int) ≤ value ∧ value < 10 ^ (400 : Int) := by
  obtain ⟨low, high, -⟩ := rounds.half
  have least := two_zpow_le x.power_ge
  have greatest := two_zpow_le (power_le finite)
  have atLeast : (1 : ℚ) ≤ x.significand := by exact_mod_cast Nat.pos_of_ne_zero positive
  have bits : (x.significand : ℚ) + 1 ≤ 2 ^ 53 := by exact_mod_cast x.significand_lt
  have place := two_zpow_pos x.power
  obtain ⟨small, large⟩ := range_bounds
  constructor
  · nlinarith
  · rw [zpow_ofNat]
    have widest : (2 * x.significand + 1 : ℚ) * 2 ^ x.power ≤ 2 ^ 54 * 2 ^ (971 : Int) :=
      mul_le_mul (by linarith) greatest place.le (by positivity)
    have unit : (0 : ℚ) < 10 ^ 400 := by positivity
    have half {limit : ℚ} (unit : 0 < limit) (top : 2 * value ≤ limit) : value < limit := by
      linarith
    exact half unit (high.trans (widest.trans large))

private theorem ten_zpow_lt_iff {p q : Int} : (10 : ℚ) ^ p < 10 ^ q ↔ p < q :=
  zpow_lt_zpow_iff_right₀ (by norm_num)

/-- A decimal lies between the powers of ten around its first digit. -/
theorem decimal_bounds {digit : Nat} {digits : List Nat}
    (bound : ∀ other ∈ digit :: digits, other < 10) (positive : digit ≠ 0) (exponent : Int) :
    (10 : ℚ) ^ ((digits.length : Int) + exponent) ≤
        Text.ofDigits 10 (digit :: digits) * 10 ^ exponent ∧
      Text.ofDigits 10 (digit :: digits) * (10 : ℚ) ^ exponent <
        10 ^ ((digits.length : Int) + 1 + exponent) := by
  have unit := ten_zpow_pos exponent
  have low : (10 : ℚ) ^ digits.length ≤ Text.ofDigits 10 (digit :: digits) := by
    exact_mod_cast le_ofDigits digits positive
  have high : (Text.ofDigits 10 (digit :: digits) : ℚ) < 10 ^ (digits.length + 1) := by
    exact_mod_cast ofDigits_lt bound
  rw [zpow_add₀ (by norm_num), zpow_add₀ (by norm_num)]
  constructor
  · exact mul_le_mul_of_nonneg_right (by exact_mod_cast low) unit.le
  · exact mul_lt_mul_of_pos_right (by exact_mod_cast high) unit

/-- A decimal between the bounds of a double is read as it. -/
theorem ofDecimal_eq (finite : x.isFinite = true) (positive : x.significand ≠ 0)
    {digits : List Nat} (bound : ∀ digit ∈ digits, digit < 10) {exponent : Int}
    (rounds : RoundsTo (Text.ofDigits 10 digits * 10 ^ exponent) x) (negative : Bool) :
    ofDecimal negative digits exponent = ofFields negative x.magnitudeBits := by
  have valuePos := rounds.pos positive
  obtain ⟨low, high⟩ := rounds.range finite positive
  have unchanged := ofDigits_dropWhile 10 digits
  have significant : ∀ digit ∈ digits.dropWhile (· = 0), digit < 10 := fun digit member =>
    bound digit ((List.dropWhile_suffix _).subset member)
  have first := @List.head?_dropWhile_not Nat (· = 0) digits
  rw [← unchanged] at rounds valuePos low high
  simp only [ofDecimal]
  generalize digits.dropWhile (· = 0) = digits at *
  cases digits with
  | nil => simp [Text.ofDigits] at valuePos
  | cons digit digits =>
    have notZero : digit ≠ 0 := by simpa using first
    obtain ⟨above, below⟩ := decimal_bounds significant notZero exponent
    have notSmall : -400 < (digits.length : Int) + 1 + exponent :=
      ten_zpow_lt_iff.mp (low.trans_lt below)
    have notLarge : (digits.length : Int) + exponent < 400 :=
      ten_zpow_lt_iff.mp (above.trans_lt high)
    rw [if_neg (by simp; omega), if_neg (by simp; omega)]
    cases exponent with
    | ofNat k =>
      refine ofRatio_eq finite positive Nat.one_pos ?_ negative
      simpa using rounds
    | negSucc k =>
      refine ofRatio_eq finite positive (tenTo_pos _) ?_ negative
      rw [zpow_negSucc] at rounds
      rwa [cast_tenTo, div_eq_mul_inv]

end Rounding

end Double

end EditorPlugins.Number
