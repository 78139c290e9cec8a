import QueryShell.Proofs.Number.Numeral

/-!
# Doubles that stand for integers

`Double.integral?` decides on the fields of a double whether the double stands
for an integer, and then makes it into a 64-bit integer in the way that works
for all doubles: the fraction is cut off, and what is out of range is clamped.
Here both are read on the rational number that a finite double is,
`Double.value`. A double stands for an integer just if its value is that
integer, of a magnitude below `2 ^ 53`, so that nothing is cut off or clamped.
The negative zero is the exception. Its value is an integer, but the double made
from that integer is the other zero.

## Main statements

* `Double.integral?_eq_some_iff`: the integer that a double stands for is its
  value.
* `Double.ofInt_of_integral?`: the double is made from that integer again, to
  the bit.
-/

namespace QueryShell.Double

/-- The rational number that a finite double is. -/
def value (x : Double) : ℚ :=
  (if x.isNegative then -1 else 1) * (x.significand * 2 ^ x.scale)

/-- The zero with the sign bit set. -/
def IsNegativeZero (x : Double) : Prop := x.isNegative = true ∧ x.isZero = true

instance (x : Double) : Decidable x.IsNegativeZero := inferInstanceAs (Decidable (_ ∧ _))

/-- The magnitude of a double is its significand, scaled. -/
theorem abs_value (x : Double) : |x.value| = x.significand * 2 ^ x.scale := by
  have hm : (0 : ℚ) ≤ x.significand * 2 ^ x.scale :=
    mul_nonneg (Nat.cast_nonneg _) (zpow_pos two_pos x.scale).le
  rw [value, abs_mul, abs_of_nonneg hm]
  split <;> simp

/-- A natural magnitude is the whole of it: there is no fraction to cut off. -/
theorem abs_value_eq_natCast_iff {x : Double} {k : Nat} :
    |x.value| = k ↔ x.isWhole = true ∧ x.truncNat = k := by
  have hd : 0 < 2 ^ (-x.scale).toNat := by positivity
  have hq : |x.value| = k ↔ x.significand * 2 ^ x.scale.toNat = k * 2 ^ (-x.scale).toNat := by
    rw [abs_value, zpow_eq_div, ← mul_div_assoc, div_eq_iff (by positivity)]
    exact_mod_cast Iff.rfl
  rw [hq, isWhole, beq_iff_eq, truncNat]
  constructor
  · intro h
    rw [h]
    exact ⟨Nat.mul_mod_left _ _, Nat.mul_div_cancel _ hd⟩
  · rintro ⟨hmod, hdiv⟩
    rw [← hdiv, Nat.div_mul_cancel (Nat.dvd_of_mod_eq_zero hmod)]

/-- Cutting the fraction off does not change a double that has none. -/
theorem value_eq_trunc {x : Double} (hw : x.isWhole = true) : x.value = x.trunc := by
  have hm := abs_value_eq_natCast_iff.mpr ⟨hw, rfl⟩
  rw [abs_value] at hm
  rw [value, trunc, hm]
  split <;> simp

/-- **The integer that a double stands for is its value**: cutting off the
fraction loses nothing, and the number is in range. -/
theorem integral?_eq_some_iff {x : Double} {n : Int64} :
    x.integral? = some n ↔
      x.isFinite = true ∧ ¬x.IsNegativeZero ∧ |x.value| < 2 ^ 53 ∧ x.value = n.toInt := by
  have hbits : (!(x.isNegative && x.isZero)) = true ↔ ¬x.IsNegativeZero := by
    rw [Bool.not_eq_true', ← Bool.not_eq_true, Bool.and_eq_true]
    rfl
  have htest : x.integral? = some n ↔
      ((x.isFinite = true ∧ x.isWhole = true) ∧ x.truncNat < 2 ^ 53) ∧ ¬x.IsNegativeZero ∧
        x.toInt64 = n := by
    rw [integral?, Option.ite_none_right_eq_some, Option.some_inj, Bool.and_eq_true, hbits,
      Bool.and_eq_true, Bool.and_eq_true, decide_eq_true_iff, and_assoc]
  rw [htest]
  constructor
  · rintro ⟨⟨⟨hfin, hwhole⟩, hlt⟩, hzero, hn⟩
    refine ⟨hfin, hzero, ?_, ?_⟩
    · rw [abs_value_eq_natCast_iff.mpr ⟨hwhole, rfl⟩]
      exact_mod_cast hlt
    · rw [value_eq_trunc hwhole, ← hn, toInt_toInt64 hfin hlt]
  · rintro ⟨hfin, hzero, habs, hn⟩
    -- the magnitude is a natural, so there is no fraction
    have hnat : |x.value| = n.toInt.natAbs := by rw [hn, Nat.cast_natAbs, Int.cast_abs]
    obtain ⟨hwhole, htrunc⟩ := abs_value_eq_natCast_iff.mp hnat
    have hlt : x.truncNat < 2 ^ 53 := by
      rw [htrunc]
      rw [hnat] at habs
      exact_mod_cast habs
    refine ⟨⟨⟨hfin, hwhole⟩, hlt⟩, hzero, Int64.toInt_inj.mp ?_⟩
    rw [toInt_toInt64 hfin hlt]
    rw [value_eq_trunc hwhole] at hn
    exact_mod_cast hn

/-- **A double that stands for an integer is made from it again**, to the bit.
Below `2 ^ 53` every integer is a double, and the negative zero has been
excluded. -/
theorem ofInt_of_integral? {x : Double} {n : Int64} (h : x.integral? = some n) :
    ofInt n.toInt = x := by
  obtain ⟨hsign, hbits⟩ := integral?_eq_some h
  have hneg : decide (n.toInt < 0) = x.isNegative := by
    rw [Bool.eq_iff_iff, decide_eq_true_iff, hsign]
  rw [ofInt, ofRatio, hneg, hbits, ofMagnitude_magnitudeBits]

end QueryShell.Double
