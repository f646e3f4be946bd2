import Mathlib.Tactic.Ring
import EditorPlugins.Proofs.Number.Double

/-! # Shortest decimals round to their double

The search for the shortest decimal ends on a grid with a point that reads back. On the last grid,
of eighteen digits, it takes the point below the double, which is less than a quarter of a place
away: the first digit is not above that of the double, and two to the fifty-fifth is less than ten
to the seventeenth.
-/

namespace EditorPlugins.Number

namespace Double

variable {x : Double}

def value (x : Double) : ℚ := x.significand * 2 ^ x.power

/-- The number that a grid point stands for. -/
def gridValue (k : Nat) (ten : Int) : ℚ := k * 10 ^ ten

private theorem zpow_mul_toNat_neg {base : ℚ} (positive : 0 < base) (p : Int) :
    base ^ p * base ^ (-p).toNat = base ^ p.toNat := by
  rw [← zpow_natCast, ← zpow_natCast, ← zpow_add₀ positive.ne']
  congr 1
  omega

/-- Both sides of a common scale are multiplied by the same factor. -/
theorem onScale_eq (two ten : Int) (n k : Nat) : ∃ factor : ℚ, 0 < factor ∧
    ((onScale two ten n k).1 : ℚ) = n * 2 ^ two * factor ∧
    ((onScale two ten n k).2 : ℚ) = k * 10 ^ ten * factor := by
  have two_eq := zpow_mul_toNat_neg (by norm_num : (0 : ℚ) < 2) two
  have ten_eq := zpow_mul_toNat_neg (by norm_num : (0 : ℚ) < 10) ten
  refine ⟨2 ^ (-two).toNat * 10 ^ (-ten).toNat, by positivity, ?_, ?_⟩
  · rw [onScale, Nat.cast_mul, Nat.cast_mul, cast_twoTo, cast_tenTo, ← two_eq]
    ring
  · rw [onScale, Nat.cast_mul, Nat.cast_mul, cast_twoTo, cast_tenTo, ← ten_eq]
    ring

private theorem onScale_le_iff (two ten : Int) (n k : Nat) :
    (onScale two ten n k).1 ≤ (onScale two ten n k).2 ↔ (n : ℚ) * 2 ^ two ≤ k * 10 ^ ten := by
  obtain ⟨factor, positive, first, second⟩ := onScale_eq two ten n k
  rw [← Nat.cast_le (α := ℚ), first, second, mul_le_mul_iff_of_pos_right positive]

private theorem onScale_ge_iff (two ten : Int) (n k : Nat) :
    (onScale two ten n k).2 ≤ (onScale two ten n k).1 ↔ (k : ℚ) * 10 ^ ten ≤ n * 2 ^ two := by
  obtain ⟨factor, positive, first, second⟩ := onScale_eq two ten n k
  rw [← Nat.cast_le (α := ℚ), first, second, mul_le_mul_iff_of_pos_right positive]

/-- A grid point reads back exactly when it rounds to the double. -/
theorem roundsTo_of_readsBack {k : Nat} {ten : Int} (back : x.readsBack k ten = true) :
    RoundsTo (gridValue k ten) x := by
  simp only [readsBack] at back
  have same : (onScale (x.power - 2) ten x.quarters.1 k).2 =
      (onScale (x.power - 2) ten x.quarters.2.2 k).2 := rfl
  have low := onScale_le_iff (x.power - 2) ten x.quarters.1 k
  have high := onScale_ge_iff (x.power - 2) ten x.quarters.2.2 k
  have aboveLow := onScale_ge_iff (x.power - 2) ten x.quarters.1 k
  have belowHigh := onScale_le_iff (x.power - 2) ten x.quarters.2.2 k
  split at back
  · next even =>
    simp only [Bool.and_eq_true, decide_eq_true_eq] at back
    exact ⟨low.mp back.1, high.mp (same ▸ back.2), fun isOdd => absurd isOdd (by omega)⟩
  · simp only [Bool.and_eq_true, decide_eq_true_eq] at back
    have strictLow := not_le.mp (mt aboveLow.mpr (not_le.mpr back.1))
    have strictHigh := not_le.mp (mt belowHigh.mpr (not_le.mpr (same ▸ back.2)))
    exact ⟨strictLow.le, strictHigh.le, fun _ => ⟨strictLow, strictHigh⟩⟩

/-- A grid has its greatest point that is not above the double. -/
theorem floorOn_bounds (x : Double) (ten : Int) :
    gridValue (x.floorOn ten) ten ≤ x.value ∧ x.value < gridValue (x.floorOn ten + 1) ten := by
  obtain ⟨factor, positive, first, second⟩ := onScale_eq x.power ten x.significand 1
  have unit : ((onScale x.power ten x.significand 1).2 : ℚ) = 10 ^ ten * factor := by
    rw [second, Nat.cast_one, one_mul]
  have unitPos : 0 < (onScale x.power ten x.significand 1).2 := by
    have cast : (0 : ℚ) < (onScale x.power ten x.significand 1).2 := by
      rw [unit]
      exact mul_pos (ten_zpow_pos ten) positive
    exact_mod_cast cast
  have low : x.floorOn ten * (onScale x.power ten x.significand 1).2 ≤
      (onScale x.power ten x.significand 1).1 := Nat.div_mul_le_self _ _
  have high : (onScale x.power ten x.significand 1).1 <
      (x.floorOn ten + 1) * (onScale x.power ten x.significand 1).2 :=
    (Nat.div_lt_iff_lt_mul unitPos).mp (Nat.lt_succ_self _)
  constructor
  · have cast : (x.floorOn ten * (onScale x.power ten x.significand 1).2 : ℚ) ≤
        (onScale x.power ten x.significand 1).1 := by exact_mod_cast low
    rw [unit, first, ← mul_assoc] at cast
    exact le_of_mul_le_mul_right cast positive
  · have cast : ((onScale x.power ten x.significand 1).1 : ℚ) <
        (x.floorOn ten + 1 : Nat) * (onScale x.power ten x.significand 1).2 := by
      exact_mod_cast high
    rw [unit, first, ← mul_assoc] at cast
    exact lt_of_mul_lt_mul_right cast positive.le

/-- Whatever point is chosen on a grid reads back. -/
theorem readsBack_of_pointOn? {ten : Int} {k : Nat} (found : x.pointOn? ten = some k) :
    x.readsBack k ten = true := by
  simp only [pointOn?] at found
  split at found
  · cases found
  · next below _ =>
    cases found
    exact below
  · next _ above =>
    cases found
    exact above
  · next below above =>
    split at found
    · cases found
      exact below
    split at found
    · cases found
      exact above
    · cases found
      rcases Nat.mod_two_eq_zero_or_one (x.floorOn ten) with even | odd
      · rw [even]
        exact below
      · rw [odd]
        exact above

/-- A double that a grid reaches is at least the step of the grid. -/
theorem le_value_of_floorOn {ten : Int} (reaches : x.floorOn ten ≠ 0) :
    (10 : ℚ) ^ ten ≤ x.value := by
  have bounds := (floorOn_bounds x ten).1
  have atLeast : (1 : ℚ) ≤ x.floorOn ten := by exact_mod_cast Nat.pos_of_ne_zero reaches
  have unit := ten_zpow_pos ten
  rw [gridValue] at bounds
  nlinarith

/-- The search for the first digit goes up only as far as the double reaches. -/
theorem leadingPower_le {ten : Int} (start : (10 : ℚ) ^ ten ≤ x.value) (steps : Nat) :
    (10 : ℚ) ^ x.leadingPower steps ten ≤ x.value := by
  induction steps generalizing ten with
  | zero => exact start
  | succ steps ih =>
    rw [leadingPower]
    split
    · exact start
    · next reached => exact ih (le_value_of_floorOn reached)

/-- On a grid of eighteen digits the point below a double is near enough. -/
theorem roundsTo_floorOn (positive : x.significand ≠ 0) {leading : Int}
    (reached : (10 : ℚ) ^ leading ≤ x.value) :
    RoundsTo (gridValue (x.floorOn (leading - 17)) (leading - 17)) x := by
  obtain ⟨below, above⟩ := floorOn_bounds x (leading - 17)
  have place := two_zpow_pos x.power
  have step : (10 : ℚ) ^ (leading - 17) * 10 ^ 17 = 10 ^ leading := by
    rw [← zpow_natCast, ← zpow_add₀ (by norm_num)]
    congr 1
    omega
  have bits : (x.significand : ℚ) < 2 ^ 53 := by exact_mod_cast x.significand_lt
  -- The grid is finer than a quarter of a place.
  have fine : 4 * (10 : ℚ) ^ (leading - 17) < 2 ^ x.power := by
    rw [value] at reached
    nlinarith
  have low : x.quarters.1 * (2 : ℚ) ^ (x.power - 2) <
      gridValue (x.floorOn (leading - 17)) (leading - 17) := by
    have lower := lower_le positive
    rw [gridValue, Nat.cast_add, Nat.cast_one] at above
    rw [zpow_sub_two, gridValue]
    rw [value] at above
    nlinarith
  have high : gridValue (x.floorOn (leading - 17)) (leading - 17) <
      x.quarters.2.2 * (2 : ℚ) ^ (x.power - 2) := by
    rw [zpow_sub_two, upper_eq]
    rw [value] at below
    nlinarith
  exact ⟨low.le, high.le, fun _ => ⟨low, high⟩⟩

/-- The search ends on a point that rounds to the double. -/
theorem roundsTo_searchGrid (positive : x.significand ≠ 0) {leading : Int}
    (reached : (10 : ℚ) ^ leading ≤ x.value) {steps count : Nat} (grids : steps + count = 18) :
    RoundsTo (gridValue (x.searchGrid leading steps count).digits
      (x.searchGrid leading steps count).exponent) x := by
  induction steps generalizing count with
  | zero =>
    have last : leading - count + 1 = leading - 17 := by omega
    rw [searchGrid, last]
    exact roundsTo_floorOn positive reached
  | succ steps ih =>
    simp only [searchGrid]
    split
    · next found => exact roundsTo_of_readsBack (readsBack_of_pointOn? found)
    · exact ih (by omega)

/-- Thirty thousand one hundred and three places are a hundred thousand bits, nearly. -/
theorem tenTo_le_twoTo : ∀ bits < 1024, tenTo (bits * 30103 / 100000 - 1) ≤ twoTo bits := by
  decide +kernel

private theorem twoTo_le_tenTo :
    ∀ bits < 1075, twoTo bits ≤ tenTo ((bits * 30103 + 99999) / 100000 + 1) := by
  decide +kernel

/-- The place where the search for the first digit starts is not above the first bit. -/
theorem start_le {bits : Int} (low : -1075 < bits) (high : bits < 1024) :
    (10 : ℚ) ^ (bits * 30103 / 100000 - 1) ≤ 2 ^ bits := by
  cases bits with
  | ofNat bits =>
    have natural := tenTo_le_twoTo bits (by simpa using high)
    have cast : (10 : ℚ) ^ (bits * 30103 / 100000 - 1) ≤ 2 ^ bits := by
      rw [← cast_tenTo, ← cast_twoTo]
      exact_mod_cast natural
    rw [← zpow_natCast, ← zpow_natCast] at cast
    exact (ten_zpow_le (by simp; omega)).trans cast
  | negSucc bits =>
    have natural := twoTo_le_tenTo (bits + 1) (by omega)
    have cast : (2 : ℚ) ^ (bits + 1) ≤ 10 ^ (((bits + 1) * 30103 + 99999) / 100000 + 1) := by
      rw [← cast_tenTo, ← cast_twoTo]
      exact_mod_cast natural
    have inverse := inv_anti₀ (by positivity) cast
    rw [zpow_negSucc]
    refine (le_of_eq ?_).trans inverse
    rw [← zpow_natCast, ← zpow_neg]
    congr 1
    omega

/-- The first bit of a double that is not zero. -/
theorem twoTo_log2_le (positive : x.significand ≠ 0) :
    (2 : ℚ) ^ ((x.significand.log2 : Int) + x.power) ≤ x.value := by
  have low := Nat.log2_self_le positive
  have cast : (2 : ℚ) ^ (x.significand.log2 : Int) ≤ x.significand := by exact_mod_cast low
  rw [zpow_add₀ (by norm_num), value]
  exact mul_le_mul_of_nonneg_right cast (two_zpow_pos _).le

/-- The shortest decimal of a double rounds to it. -/
theorem roundsTo_shortest (finite : x.isFinite = true) (positive : x.significand ≠ 0) :
    RoundsTo (gridValue x.shortest.digits x.shortest.exponent) x := by
  have bits : x.significand.log2 < 53 := (Nat.log2_lt positive).mpr x.significand_lt
  have least := x.power_ge
  have greatest := power_le finite
  have start := @start_le ((x.significand.log2 : Int) + x.power) (by omega) (by omega)
  have start := start.trans (twoTo_log2_le positive)
  exact roundsTo_searchGrid positive (leadingPower_le start 4) rfl

end Double

end EditorPlugins.Number
