import Mathlib.Algebra.Order.Round
import Mathlib.Data.Int.Log
import Mathlib.Data.Rat.Floor
import Mathlib.Tactic.FieldSimp
import Mathlib.Tactic.Linarith
import Mathlib.Tactic.Positivity

/-!
Contract: the rounding of rational numbers to doubles.

Owns: rounding to the nearest integer, the even one of two; rounding to 53 significant bits; its
error; that it does not fall below an integer; and that it keeps the order.

Does not own: numbers too small or too large for a double, infinities and NaN.
-/

set_option autoImplicit false

namespace QuAIA.Library.Binary64

/-- The nearest integer, the even one if there are two. -/
def roundHalfEven (value : ℚ) : ℤ :=
  if value - ⌊value⌋ < 1 / 2 then ⌊value⌋
  else if 1 / 2 < value - ⌊value⌋ then ⌊value⌋ + 1
  else if ⌊value⌋ % 2 = 0 then ⌊value⌋
  else ⌊value⌋ + 1

/-- The unit in the last of 53 places. -/
def ulp (value : ℚ) : ℚ := 2 ^ (Int.log 2 |value| - 52)

/-- The nearest double. -/
def nearest (value : ℚ) : ℚ := roundHalfEven (value / ulp value) * ulp value

/-- `int` of a double. -/
def truncate (value : ℚ) : ℤ := value.num.tdiv value.den

theorem abs_roundHalfEven_sub_le (value : ℚ) : |(roundHalfEven value : ℚ) - value| ≤ 1 / 2 := by
  have below := Int.floor_le value
  have above := Int.lt_floor_add_one value
  rw [roundHalfEven, abs_le]
  split_ifs <;> push_cast <;> constructor <;> linarith

theorem le_roundHalfEven {value : ℚ} {bound : ℤ} (atMost : (bound : ℚ) ≤ value) :
    bound ≤ roundHalfEven value := by
  have below : bound ≤ ⌊value⌋ := Int.le_floor.mpr atMost
  rw [roundHalfEven]
  split_ifs <;> omega

theorem roundHalfEven_le {value : ℚ} {bound : ℤ} (atLeast : value ≤ bound) :
    roundHalfEven value ≤ bound := by
  have floorLe : ⌊value⌋ ≤ bound := Int.cast_le.mp ((Int.floor_le value).trans atLeast)
  rcases floorLe.eq_or_lt with same | below
  · have exact : value = ⌊value⌋ := le_antisymm (same ▸ atLeast) (Int.floor_le value)
    have noRest : value - ⌊value⌋ < 1 / 2 := by
      rw [← exact, sub_self]
      norm_num
    rw [roundHalfEven, if_pos noRest, same]
  · rw [roundHalfEven]
    split_ifs <;> omega

theorem roundHalfEven_mono {lower upper : ℚ} (order : lower ≤ upper) :
    roundHalfEven lower ≤ roundHalfEven upper := by
  rcases (Int.floor_mono order).eq_or_lt with sameFloor | below
  · -- Between the same integers the greater part of a unit is rounded up first.
    rw [roundHalfEven, roundHalfEven, ← sameFloor]
    split_ifs <;> first | omega | (exfalso; linarith)
  · calc roundHalfEven lower ≤ ⌊lower⌋ + 1 :=
          roundHalfEven_le (by push_cast; exact (Int.lt_floor_add_one lower).le)
      _ ≤ ⌊upper⌋ := below
      _ ≤ roundHalfEven upper := le_roundHalfEven (Int.floor_le upper)

theorem ulp_pos (value : ℚ) : 0 < ulp value := zpow_pos two_pos _

theorem ulp_le (value : ℚ) (nonzero : value ≠ 0) : ulp value ≤ |value| / 2 ^ 52 := by
  have power : (2 : ℚ) ^ Int.log 2 |value| ≤ |value| :=
    mod_cast Int.zpow_log_le_self (b := 2) one_lt_two (abs_pos.mpr nonzero)
  rw [ulp, zpow_sub₀ two_ne_zero]
  exact div_le_div_of_nonneg_right power (by positivity)

/-- The relative error is at most half a unit of the last place. -/
theorem abs_nearest_sub_le (value : ℚ) : |nearest value - value| ≤ |value| / 2 ^ 53 := by
  by_cases isZero : value = 0
  · rw [isZero, nearest, zero_div, roundHalfEven]
    simp
  · have positive := ulp_pos value
    have sameValue : value = value / ulp value * ulp value := (div_mul_cancel₀ _ positive.ne').symm
    have scaled : nearest value - value =
        ((roundHalfEven (value / ulp value) : ℚ) - value / ulp value) * ulp value := by
      rw [nearest, sub_mul, ← sameValue]
    have unit := ulp_le value isZero
    rw [scaled, abs_mul, abs_of_pos positive]
    calc |(roundHalfEven (value / ulp value) : ℚ) - value / ulp value| * ulp value
        ≤ 1 / 2 * (|value| / 2 ^ 52) :=
          mul_le_mul (abs_roundHalfEven_sub_le _) unit positive.le (by norm_num)
      _ = |value| / 2 ^ 53 := by ring

/-- A power of two is a multiple of the unit, from the last place on. -/
theorem exists_scale {value : ℚ} {exponent : ℤ} (atLeast : Int.log 2 |value| - 52 ≤ exponent) :
    ∃ factor : ℕ, (factor : ℚ) * ulp value = 2 ^ exponent := by
  have shifted : ((exponent - (Int.log 2 |value| - 52)).toNat : ℤ) =
      exponent - (Int.log 2 |value| - 52) := Int.toNat_of_nonneg (by omega)
  refine ⟨2 ^ (exponent - (Int.log 2 |value| - 52)).toNat, ?_⟩
  rw [ulp, Nat.cast_pow, Nat.cast_ofNat, ← zpow_natCast, shifted, ← zpow_add₀ two_ne_zero,
    sub_add_cancel]

theorem log_le_of_small {value : ℚ} (small : |value| < 2 ^ 53) : Int.log 2 |value| - 52 ≤ 0 := by
  by_cases isZero : value = 0
  · rw [isZero, abs_zero, Int.log_zero_right]
    decide
  · have below := (Int.lt_zpow_iff_log_lt (b := 2) (x := 53) one_lt_two
      (abs_pos.mpr isZero)).mp (mod_cast small)
    omega

/-- A multiple of a power of two, from the last place on, bounds the double if it bounds the
number. -/
theorem le_nearest_of_multiple {value : ℚ} (factor exponent : ℤ)
    (atLeast : Int.log 2 |value| - 52 ≤ exponent) (atMost : factor * 2 ^ exponent ≤ value) :
    factor * 2 ^ exponent ≤ nearest value := by
  obtain ⟨scale, isScale⟩ := exists_scale atLeast
  have multiple : (factor : ℚ) * 2 ^ exponent = ((factor * scale : ℤ) : ℚ) * ulp value := by
    push_cast
    rw [mul_assoc, isScale]
  rw [multiple] at atMost ⊢
  refine mul_le_mul_of_nonneg_right (Int.cast_le.mpr (le_roundHalfEven ?_)) (ulp_pos value).le
  exact (le_div_iff₀ (ulp_pos value)).mpr atMost

theorem nearest_le_of_multiple {value : ℚ} (factor exponent : ℤ)
    (atLeast : Int.log 2 |value| - 52 ≤ exponent) (below : value ≤ factor * 2 ^ exponent) :
    nearest value ≤ factor * 2 ^ exponent := by
  obtain ⟨scale, isScale⟩ := exists_scale atLeast
  have multiple : (factor : ℚ) * 2 ^ exponent = ((factor * scale : ℤ) : ℚ) * ulp value := by
    push_cast
    rw [mul_assoc, isScale]
  rw [multiple] at below ⊢
  refine mul_le_mul_of_nonneg_right (Int.cast_le.mpr (roundHalfEven_le ?_)) (ulp_pos value).le
  exact (div_le_iff₀ (ulp_pos value)).mpr below

/-- A number below `2 ^ 53` is not rounded below an integer that it has reached. -/
theorem le_nearest {value : ℚ} {bound : ℕ} (atMost : (bound : ℚ) ≤ value)
    (small : value < 2 ^ 53) : (bound : ℚ) ≤ nearest value := by
  have nonneg : (0 : ℚ) ≤ value := (Nat.cast_nonneg bound).trans atMost
  have places : Int.log 2 |value| - 52 ≤ 0 := log_le_of_small (by rwa [abs_of_nonneg nonneg])
  have rounded := le_nearest_of_multiple bound 0 places
    (by rw [zpow_zero, mul_one]; exact_mod_cast atMost)
  rw [zpow_zero, mul_one] at rounded
  exact_mod_cast rounded

/-! ## Order -/

theorem nearest_nonneg {value : ℚ} (nonneg : 0 ≤ value) : 0 ≤ nearest value := by
  simpa using le_nearest_of_multiple 0 (Int.log 2 |value| - 52) le_rfl (by simpa using nonneg)

theorem nearest_nonpos {value : ℚ} (nonpos : value ≤ 0) : nearest value ≤ 0 := by
  simpa using nearest_le_of_multiple 0 (Int.log 2 |value| - 52) le_rfl (by simpa using nonpos)

/-- A number that both roundings keep separates what is below it from what is above it. -/
theorem nearest_le_of_between {lower upper : ℚ} (factor exponent : ℤ)
    (lowerPlaces : Int.log 2 |lower| - 52 ≤ exponent)
    (upperPlaces : Int.log 2 |upper| - 52 ≤ exponent) (below : lower ≤ factor * 2 ^ exponent)
    (above : factor * 2 ^ exponent ≤ upper) : nearest lower ≤ nearest upper :=
  (nearest_le_of_multiple factor exponent lowerPlaces below).trans
    (le_nearest_of_multiple factor exponent upperPlaces above)

/-- In one binade the unit is the same. -/
theorem nearest_le_of_log_eq {lower upper : ℚ} (order : lower ≤ upper)
    (sameLog : Int.log 2 |lower| = Int.log 2 |upper|) : nearest lower ≤ nearest upper := by
  have sameUnit : ulp lower = ulp upper := by rw [ulp, ulp, sameLog]
  rw [nearest, nearest, sameUnit]
  refine mul_le_mul_of_nonneg_right (Int.cast_le.mpr (roundHalfEven_mono ?_)) (ulp_pos upper).le
  exact div_le_div_of_nonneg_right order (ulp_pos upper).le

theorem nearest_le_of_pos {lower upper : ℚ} (positive : 0 < lower) (order : lower ≤ upper) :
    nearest lower ≤ nearest upper := by
  have positiveUpper := positive.trans_le order
  rcases (Int.log_mono_right (b := 2) positive order).eq_or_lt with sameLog | below
  · exact nearest_le_of_log_eq order
      (by rwa [abs_of_pos positive, abs_of_pos positiveUpper])
  · -- The power of two that begins the binade of the greater one lies between them.
    have above : (2 : ℚ) ^ Int.log 2 upper ≤ upper :=
      mod_cast Int.zpow_log_le_self (b := 2) one_lt_two positiveUpper
    have beneath : lower < (2 : ℚ) ^ Int.log 2 upper :=
      mod_cast (Int.lt_zpow_iff_log_lt (b := 2) one_lt_two positive).mpr below
    refine nearest_le_of_between 1 (Int.log 2 upper) ?_ ?_ ?_ ?_
    · rw [abs_of_pos positive]
      omega
    · rw [abs_of_pos positiveUpper]
      omega
    · push_cast
      linarith
    · push_cast
      linarith

theorem nearest_le_of_neg {lower upper : ℚ} (negative : upper < 0) (order : lower ≤ upper) :
    nearest lower ≤ nearest upper := by
  have negativeLower := order.trans_lt negative
  have positive : 0 < -upper := neg_pos.mpr negative
  rcases (Int.log_mono_right (b := 2) positive (neg_le_neg order)).eq_or_lt with sameLog | below
  · exact nearest_le_of_log_eq order
      (by rw [abs_of_neg negativeLower, abs_of_neg negative, sameLog])
  · have above : (2 : ℚ) ^ Int.log 2 (-lower) ≤ -lower :=
      mod_cast Int.zpow_log_le_self (b := 2) one_lt_two (neg_pos.mpr negativeLower)
    have beneath : -upper < (2 : ℚ) ^ Int.log 2 (-lower) :=
      mod_cast (Int.lt_zpow_iff_log_lt (b := 2) one_lt_two positive).mpr below
    refine nearest_le_of_between (-1) (Int.log 2 (-lower)) ?_ ?_ ?_ ?_
    · rw [abs_of_neg negativeLower]
      omega
    · rw [abs_of_neg negative]
      omega
    · push_cast
      linarith
    · push_cast
      linarith

/-- Rounding keeps the order. -/
theorem nearest_mono : Monotone nearest := by
  intro lower upper order
  rcases lt_or_ge 0 lower with positive | nonpos
  · exact nearest_le_of_pos positive order
  · rcases lt_or_ge upper 0 with negative | nonneg
    · exact nearest_le_of_neg negative order
    · exact (nearest_nonpos nonpos).trans (nearest_nonneg nonneg)

theorem truncate_of_nonneg {value : ℚ} (nonneg : 0 ≤ value) : truncate value = ⌊value⌋ := by
  rw [truncate, Int.tdiv_eq_ediv_of_nonneg (Rat.num_nonneg.mpr nonneg), Rat.floor_def']

end QuAIA.Library.Binary64
