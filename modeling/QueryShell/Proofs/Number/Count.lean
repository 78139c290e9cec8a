import Mathlib.Algebra.Order.Floor.Semifield
import QueryShell.Modifier
import QueryShell.Proofs.Number.Integral

/-!
# Doubles that count

A count is given as a double. Its sign is tested on the bits, its fraction is
cut off on the fields, and what is too large for 64 bits is clamped. Read on
`Double.value` this is a comparison with zero and a floor, with the greatest
64-bit number in place of a larger one.

## Main statements

* `Double.isNonNegative_iff`: which doubles are taken for counts.
* `Double.toNat_toCount`: which count it is.
-/

namespace QueryShell.Double

variable {x : Double}

/-- The sign of a value is the sign bit, unless the value is zero. -/
theorem value_nonneg_iff : 0 ≤ x.value ↔ x.isNegative = false ∨ x.significand = 0 := by
  have hscale : (0 : ℚ) < 2 ^ x.scale := zpow_pos two_pos _
  unfold value
  cases x.isNegative with
  | false => simpa using mul_nonneg (Nat.cast_nonneg x.significand) hscale.le
  | true =>
    rw [if_pos rfl, neg_one_mul, Left.nonneg_neg_iff, mul_nonpos_iff_pos_imp_nonpos]
    simp [hscale.not_ge]

/-- **A finite double is a count just if it is not below zero**: both zeros are.
The sign bit of the negative zero is the case in which bits and value differ. -/
theorem isNonNegative_iff (hx : x.isFinite = true) : x.isNonNegative = true ↔ 0 ≤ x.value := by
  rw [isNonNegative, isNaN_eq_false hx, value_nonneg_iff, Bool.not_false, Bool.true_and,
    Bool.or_eq_true, Bool.not_eq_true', isZero_iff, magnitudeBits_eq_zero_iff]

/-- Cutting the fraction off is taking the floor of a value that is not below
zero. -/
theorem floor_value (h : 0 ≤ x.value) : ⌊x.value⌋ = x.truncNat := by
  have hquotient : x.value =
      (x.significand * 2 ^ x.scale.toNat : Nat) / (2 ^ (-x.scale).toNat : Nat) := by
    rw [← abs_of_nonneg h, abs_value, zpow_eq_div, ← mul_div_assoc]
    push_cast
    rfl
  rw [← Int.natCast_floor_eq_floor h, hquotient, Nat.floor_div_eq_div]
  rfl

/-- **A count is the integer part**, or the greatest 64-bit number if that is
larger. The conversion saturates and never wraps. -/
theorem toNat_toCount (h : 0 ≤ x.value) :
    (x.toCount.toNat : ℤ) = min ⌊x.value⌋ (2 ^ 64 - 1) := by
  have hlt : min x.truncNat (2 ^ 64 - 1) < 2 ^ 64 := Nat.lt_of_le_of_lt (Nat.min_le_right _ _) (by decide)
  rw [floor_value h, toCount, UInt64.toNat_ofNat_of_lt' hlt]
  push_cast
  rfl

end QueryShell.Double
