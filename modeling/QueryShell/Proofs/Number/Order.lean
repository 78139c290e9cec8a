import Mathlib.Algebra.Order.Field.Power
import QueryShell.Proofs.Number.Integral

/-!
# The order of doubles

Rounding a quotient never changes the order of two quotients, whether it is
rounded to a natural or to a double. The bits of a double without its sign are
in the order of the magnitudes, so that an integer and a greater one are never
made into doubles the other way round.

## Main statements

* `Double.roundDiv_mono`, `Double.abs_roundDiv_sub_le`: rounding to a natural.
* `Double.nearestBits_mono`: rounding to a double.
* `Double.abs_value_mono`: the order of the bits is that of the values.
* `Double.value_ofInt_mono`: integers as doubles.
-/

namespace QueryShell.Double

/-! ## Rounding a quotient -/

/-- Rounding to nearest does not exceed rounding down by more than one. -/
theorem roundDiv_le_div_add_one (n d : Nat) : roundDiv n d ≤ n / d + 1 := by
  unfold roundDiv
  dsimp only
  split_ifs <;> omega

/-- **A rounded quotient is monotone in what is divided.** If the whole parts
differ this follows from the bounds on both sides; otherwise the remainders are
compared, and a tie goes the same way for both. -/
theorem roundDiv_le_of_le {n n' : Nat} (h : n ≤ n') (d : Nat) : roundDiv n d ≤ roundDiv n' d := by
  rcases Nat.lt_or_eq_of_le (Nat.div_le_div_right (c := d) h) with hlt | heq
  · calc roundDiv n d ≤ n / d + 1 := roundDiv_le_div_add_one n d
      _ ≤ n' / d := hlt
      _ ≤ roundDiv n' d := div_le_roundDiv n' d
  · -- with equal integer parts the fractions decide
    have hmod : n % d ≤ n' % d := by
      have hn := Nat.div_add_mod n d
      have hn' := Nat.div_add_mod n' d
      rw [← heq] at hn'
      omega
    unfold roundDiv
    dsimp only
    rw [← heq]
    split_ifs <;> omega

/-- **Rounding to a natural keeps the order** of quotients. The two quotients
are brought to one denominator first. -/
theorem roundDiv_mono {n d n' d' : Nat} (hd : 0 < d) (hd' : 0 < d') (h : n * d' ≤ n' * d) :
    roundDiv n d ≤ roundDiv n' d' := by
  rw [← roundDiv_mul_left hd' n d, ← roundDiv_mul_left hd n' d', mul_comm d' n, mul_comm d n',
    mul_comm d']
  exact roundDiv_le_of_le h _

/-- Twice a rounded quotient, on the scale of the numerator. -/
theorem two_mul_roundDiv_mul (n : Nat) {d : Nat} (hd : 0 < d) :
    2 * n ≤ 2 * (roundDiv n d * d) + d ∧ 2 * (roundDiv n d * d) ≤ 2 * n + d := by
  have hn := Nat.div_add_mod' n d
  have hlt := Nat.mod_lt n hd
  have hsucc : (n / d + 1) * d = n / d * d + d := Nat.succ_mul _ _
  unfold roundDiv
  dsimp only
  split_ifs <;> omega

/-- **A rounded quotient is off by a half at most.** Which way a tie goes does
not matter here. -/
theorem abs_roundDiv_sub_le (n : Nat) {d : Nat} (hd : 0 < d) :
    |(roundDiv n d : ℚ) - n / d| ≤ 1 / 2 := by
  have hd' : (0 : ℚ) < d := by exact_mod_cast hd
  have hclose : 2 * (n : ℚ) ≤ 2 * (roundDiv n d * d) + d ∧ 2 * (roundDiv n d * d) ≤ 2 * (n : ℚ) + d := by
    exact_mod_cast two_mul_roundDiv_mul n hd
  have hdiff : (roundDiv n d : ℚ) - n / d = (roundDiv n d * d - n) / d := by field_simp
  rw [hdiff, abs_div, abs_of_pos hd', div_le_iff₀ hd', abs_le]
  constructor <;> linarith

/-- A tie goes to an even number. -/
theorem even_roundDiv_of_tie {n d : Nat} (hd : 0 < d) (h : 2 * n = 2 * (roundDiv n d * d) + d) :
    Even (roundDiv n d) := by
  have hn := Nat.div_add_mod' n d
  have hlt := Nat.mod_lt n hd
  have hsucc : (n / d + 1) * d = n / d * d + d := Nat.succ_mul _ _
  revert h
  unfold roundDiv
  dsimp only
  split_ifs with h1 h2 h3
  · omega
  · omega
  · exact fun _ => Nat.even_iff.mpr h3
  · omega

/-- A quotient is rounded to an even number or beyond it from half below the
number on. -/
theorem le_roundDiv_iff_of_even {m n d : Nat} (hm : Even m) (hd : 0 < d) :
    m ≤ roundDiv n d ↔ 2 * m * d ≤ 2 * n + d := by
  obtain ⟨hlow, hhigh⟩ := two_mul_roundDiv_mul n hd
  rw [mul_assoc]
  constructor
  · intro hle
    have := Nat.mul_le_mul_right d hle
    omega
  · intro hle
    by_contra hlt
    have hstep : (roundDiv n d + 1) * d ≤ m * d := Nat.mul_le_mul_right d (by omega)
    rw [Nat.succ_mul] at hstep
    have htie : 2 * n = 2 * (roundDiv n d * d) + d := by omega
    -- the next number is odd, so that it is not the even number
    have hodd : m = roundDiv n d + 1 := by
      refine Nat.eq_of_mul_eq_mul_right hd ?_
      rw [Nat.succ_mul]
      omega
    exact Nat.not_even_iff_odd.mpr (even_roundDiv_of_tie hd htie).add_one (hodd ▸ hm)

/-! ## Values on a grid -/

/-- Whether a quotient lies below a point of a binary grid is a question about
naturals. -/
theorem div_le_mul_two_zpow_iff {d : Nat} (hd : 0 < d) (n m : Nat) (q : Int) :
    (n : ℚ) / d ≤ m * 2 ^ q ↔ n * 2 ^ (-q).toNat ≤ m * (d * 2 ^ q.toNat) := by
  have hd' : (0 : ℚ) < d := by exact_mod_cast hd
  rw [zpow_eq_div, ← mul_div_assoc, div_le_div_iff₀ hd' (by positivity), mul_assoc, mul_comm (2 ^ _) (d : ℚ)]
  exact_mod_cast Iff.rfl

/-- Whether a quotient lies above a point of a binary grid is a question about
naturals. -/
theorem mul_two_zpow_le_div_iff {d : Nat} (hd : 0 < d) (n m : Nat) (q : Int) :
    m * 2 ^ q ≤ (n : ℚ) / d ↔ m * (d * 2 ^ q.toNat) ≤ n * 2 ^ (-q).toNat := by
  have hd' : (0 : ℚ) < d := by exact_mod_cast hd
  rw [zpow_eq_div, ← mul_div_assoc, div_le_div_iff₀ (by positivity) hd', mul_assoc, mul_comm (2 ^ _) (d : ℚ)]
  exact_mod_cast Iff.rfl

/-! ## Rounding to a double -/

/-- **Rounding to a double keeps the order** of quotients. On one grid the
significands are in order, and the significands of different grids fill
different ranges. -/
theorem nearestBits_mono {n d n' d' : Nat} (hd : 0 < d) (hd' : 0 < d') (h : n * d' ≤ n' * d) :
    nearestBits n d ≤ nearestBits n' d' := by
  rcases Nat.eq_zero_or_pos n with rfl | hn
  · rw [nearestBits, if_pos rfl]
    exact Nat.zero_le _
  have hn' : 0 < n' := by
    refine Nat.pos_of_ne_zero fun h0 => ?_
    rw [h0, zero_mul, Nat.le_zero, Nat.mul_eq_zero] at h
    omega
  have hquot : (n : ℚ) / d ≤ n' / d' := by
    rw [div_le_div_iff₀ (by exact_mod_cast hd) (by exact_mod_cast hd')]
    exact_mod_cast h
  have hlog : floorLog2 n d ≤ floorLog2 n' d' := by
    rw [floorLog2_eq_log hn hd, floorLog2_eq_log hn' hd']
    exact Int.log_mono_right (by positivity) hquot
  rw [nearestBits, nearestBits, if_neg hn.ne', if_neg hn'.ne']
  dsimp only
  refine min_le_min_right _ ?_
  obtain ⟨q, hq⟩ : ∃ q, max (floorLog2 n d - 52) (-1074) = q := ⟨_, rfl⟩
  obtain ⟨q', hq'⟩ : ∃ q', max (floorLog2 n' d' - 52) (-1074) = q' := ⟨_, rfl⟩
  rw [hq, hq']
  rcases eq_or_lt_of_le (show q ≤ q' by omega) with rfl | hlt
  · refine Nat.add_le_add_left (roundDiv_mono (by positivity) (by positivity) ?_) _
    calc n * 2 ^ (-q).toNat * (d' * 2 ^ q.toNat) = n * d' * (2 ^ (-q).toNat * 2 ^ q.toNat) := by ring
      _ ≤ n' * d * (2 ^ (-q).toNat * 2 ^ q.toNat) := Nat.mul_le_mul_right _ h
      _ = n' * 2 ^ (-q).toNat * (d * 2 ^ q.toNat) := by ring
  · -- the lower significand is `2 ^ 53` at most, the higher one `2 ^ 52` at least
    have hlow : roundDiv (n * 2 ^ (-q).toNat) (d * 2 ^ q.toNat) ≤ 2 ^ 53 := by
      rw [← roundDiv_mul_right (2 ^ 53) (show 0 < d * 2 ^ q.toNat by positivity)]
      refine roundDiv_le_of_le ((div_le_mul_two_zpow_iff hd n (2 ^ 53) q).mp ?_) _
      calc (n : ℚ) / d ≤ 2 ^ (floorLog2 n d + 1) := by
            rw [floorLog2_eq_log hn hd]
            exact_mod_cast (Int.lt_zpow_succ_log_self one_lt_two ((n : ℚ) / d)).le
        _ ≤ 2 ^ (53 + q) := zpow_le_zpow_right₀ one_le_two (by omega)
        _ = (2 ^ 53 : Nat) * 2 ^ q := by
            rw [zpow_add₀ two_ne_zero]
            norm_num
    have hhigh : 2 ^ 52 ≤ roundDiv (n' * 2 ^ (-q').toNat) (d' * 2 ^ q'.toNat) := by
      refine le_trans ?_ (div_le_roundDiv _ _)
      rw [Nat.le_div_iff_mul_le (by positivity)]
      refine (mul_two_zpow_le_div_iff hd' n' (2 ^ 52) q').mp ?_
      calc (2 ^ 52 : Nat) * (2 : ℚ) ^ q' = 2 ^ (52 + q') := by
            rw [zpow_add₀ two_ne_zero]
            norm_num
        _ = 2 ^ floorLog2 n' d' := congrArg _ (by omega)
        _ ≤ (n' : ℚ) / d' := by
            rw [floorLog2_eq_log hn' hd']
            exact_mod_cast Int.zpow_log_le_self one_lt_two (show (0 : ℚ) < n' / d' by positivity)
    have hgrid : (q + 1074).toNat + 1 ≤ (q' + 1074).toNat := by omega
    omega

/-! ## The order of values -/

/-- The significand has 53 binary digits at most, and no fewer above the least
binade. -/
theorem significand_bounds (x : Double) :
    x.significand < 2 ^ 53 ∧ -1074 ≤ x.scale ∧ (x.scale ≠ -1074 → 2 ^ 52 ≤ x.significand) := by
  have hf := x.fractionField_lt
  rcases x.significand_scale_cases with ⟨he, hs, hq⟩ | ⟨he, hs, hq⟩ <;> omega

/-- **Larger bits have larger values**, signs apart. A greater fraction is a
greater value in one binade, and the greatest value of a binade is below the
least of the next. -/
theorem abs_value_mono {x y : Double} (h : x.magnitudeBits ≤ y.magnitudeBits) :
    |x.value| ≤ |y.value| := by
  obtain ⟨hx, hqx, hnx⟩ := x.significand_bounds
  obtain ⟨hy, hqy, hny⟩ := y.significand_bounds
  rw [magnitudeBits_eq_scale_add_significand, magnitudeBits_eq_scale_add_significand] at h
  rw [abs_value, abs_value]
  rcases lt_trichotomy x.scale y.scale with hlt | heq | hgt
  · have hx' : (x.significand : ℚ) ≤ 2 ^ 53 := by exact_mod_cast hx.le
    have hy' : (2 : ℚ) ^ 52 ≤ y.significand := by exact_mod_cast hny (by omega)
    calc (x.significand : ℚ) * 2 ^ x.scale ≤ 2 ^ 53 * 2 ^ x.scale := by gcongr
      _ = 2 ^ 52 * 2 ^ (x.scale + 1) := by
        rw [zpow_add₀ two_ne_zero]
        ring
      _ ≤ 2 ^ 52 * 2 ^ y.scale := by
        gcongr
        · exact one_le_two
        · omega
      _ ≤ y.significand * 2 ^ y.scale := by gcongr
  · have hle : (x.significand : ℚ) ≤ y.significand := by
      rw [heq] at h
      exact_mod_cast Nat.le_of_add_le_add_left h
    rw [heq]
    gcongr
  · -- then the bits are in the other order
    have := hnx (by omega)
    omega

/-- A natural that the magnitude reaches is reached without the fraction. -/
theorem le_truncNat_iff {x : Double} {m : Nat} : m ≤ x.truncNat ↔ (m : ℚ) ≤ |x.value| := by
  rw [truncNat, Nat.le_div_iff_mul_le (by positivity), abs_value, zpow_eq_div, ← mul_div_assoc,
    le_div_iff₀ (by positivity)]
  exact_mod_cast Iff.rfl

/-- The value of a number without a sign is its own absolute value. -/
theorem value_eq_abs {x : Double} (h : x.isNegative = false) : x.value = |x.value| := by
  rw [abs_value, value, h, if_neg Bool.false_ne_true, one_mul]

/-! ## Integers as doubles -/

/-- A natural number is rounded as a quotient by one. -/
theorem ofInt_natCast (n : Nat) : ofInt n = ofRatio false n 1 := by
  rw [ofInt, decide_eq_false (Int.natCast_nonneg n).not_gt]
  rfl

theorem isNegative_ofInt (n : Nat) : (ofInt n).isNegative = false := by
  rw [ofInt_natCast, ofRatio, isNegative_ofMagnitude _ (nearestBits_lt n 1)]

/-- The bits of the double of a natural number are those nearest to it. -/
theorem magnitudeBits_ofInt (n : Nat) : (ofInt n).magnitudeBits = nearestBits n 1 := by
  rw [ofInt_natCast, ofRatio, magnitudeBits_ofMagnitude _ (nearestBits_lt n 1)]

/-- **Integers keep their order as doubles**, though two of them may become the
same one. -/
theorem value_ofInt_mono {m n : Nat} (h : m ≤ n) : (ofInt m).value ≤ (ofInt n).value := by
  rw [value_eq_abs (isNegative_ofInt m), value_eq_abs (isNegative_ofInt n)]
  refine abs_value_mono ?_
  rw [magnitudeBits_ofInt, magnitudeBits_ofInt]
  exact nearestBits_mono one_pos one_pos (Nat.mul_le_mul_right 1 h)

end QueryShell.Double
