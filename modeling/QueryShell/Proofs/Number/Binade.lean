import QueryShell.Proofs.Number.Order

/-!
# Doubles in a binade

Above the least binade a double may have any exponent with any fraction. So its
value is divided by a power of two in the exponent alone, and nothing is
rounded.

## Main statements

* `Double.ofInt_two_pow`: powers of two are doubles.
* `Double.divNat_two_pow`: dividing by a power of two is exact.
-/

namespace QueryShell.Double

/-- The exponent field is the magnitude without its lowest fifty-two bits. -/
theorem exponentField_eq (x : Double) : x.exponentField = x.magnitudeBits / 2 ^ 52 := by
  have hf := x.fractionField_lt
  rw [magnitudeBits_eq]
  omega

/-- The fraction field is the lowest fifty-two bits of the magnitude. -/
theorem fractionField_eq (x : Double) : x.fractionField = x.magnitudeBits % 2 ^ 52 := by
  have hf := x.fractionField_lt
  rw [magnitudeBits_eq]
  omega

/-- **Any exponent of a binade goes with any fraction.** The double has these
fields and nothing else, so that its value is told without rounding. -/
theorem exists_of_fields (negative : Bool) {e f : Nat} (he : 0 < e) (he' : e < 2047) (hf : f < 2 ^ 52) :
    ∃ x : Double, x.isFinite = true ∧ x.isNegative = negative ∧ x.significand = 2 ^ 52 + f ∧
      x.scale = e - 1075 := by
  obtain ⟨x, hx⟩ : ∃ x, ofMagnitude negative (e * 2 ^ 52 + f) = x := ⟨_, rfl⟩
  have hlt : e * 2 ^ 52 + f < 2 ^ 63 := by omega
  have hbits : x.magnitudeBits = e * 2 ^ 52 + f := by rw [← hx, magnitudeBits_ofMagnitude _ hlt]
  have hexponent : x.exponentField = e := by
    rw [exponentField_eq, hbits]
    omega
  have hfraction : x.fractionField = f := by
    rw [fractionField_eq, hbits]
    omega
  refine ⟨x, ?_, ?_, ?_, ?_⟩
  · rw [isFinite, bne_iff_ne]
    omega
  · rw [← hx, isNegative_ofMagnitude _ hlt]
  · rw [significand, if_neg (by omega), hfraction]
  · rw [scale, if_neg (by omega), hexponent]

/-- A quotient that has the value of a double is made into that double. -/
theorem ofRatio_eq {x : Double} (hx : x.isFinite = true) {num den : Nat} (hd : 0 < den)
    (h : num * 2 ^ (-x.scale).toNat = x.significand * 2 ^ x.scale.toNat * den) :
    ofRatio x.isNegative num den = x := by
  rw [ofRatio, nearestBits_of_eq hx hd h, ofMagnitude_magnitudeBits]

/-- **Powers of two are doubles**, up to the greatest exponent. So no power of
two is rounded when it is made into one. -/
theorem ofInt_two_pow {k : Nat} (hk : k < 1024) :
    (ofInt (2 ^ k : Nat)).isFinite = true ∧ (ofInt (2 ^ k : Nat)).value = 2 ^ k := by
  obtain ⟨x, hfin, hneg, hsig, hscale⟩ :=
    exists_of_fields false (show 0 < k + 1023 by omega) (by omega) (Nat.two_pow_pos 52)
  have hexp : x.scale = k - 52 := by omega
  have hx : ofInt (2 ^ k : Nat) = x := by
    rw [ofInt_natCast, ← hneg]
    refine ofRatio_eq hfin one_pos ?_
    have hexp' : k + (-x.scale).toNat = 52 + x.scale.toNat := by omega
    rw [hsig, mul_one, Nat.add_zero, ← pow_add, ← pow_add, hexp']
  refine ⟨hx ▸ hfin, ?_⟩
  rw [hx, value, hneg, hsig, hexp, zpow_sub₀ two_ne_zero, zpow_natCast, if_neg Bool.false_ne_true]
  field_simp
  norm_num

theorem isFinite_iff {x : Double} : x.isFinite = true ↔ x.magnitudeBits < infinityBits := by
  have hlt := x.magnitudeBits_lt
  rw [isFinite, bne_iff_ne, exponentField_eq, infinityBits]
  omega

/-- An integer of at most 1024 binary digits is made into a finite double. -/
theorem isFinite_ofInt {n k : Nat} (hn : n ≤ 2 ^ k) (hk : k < 1024) : (ofInt n).isFinite = true := by
  have hle := nearestBits_mono one_pos one_pos (Nat.mul_le_mul_right 1 hn)
  have hfin := (ofInt_two_pow hk).1
  rw [isFinite_iff, magnitudeBits_ofInt] at hfin ⊢
  exact hle.trans_lt hfin

/-- **Dividing by a power of two is exact** as long as the quotient is not below
the least binade. The fraction stays as it is, and the exponent is lowered. -/
theorem divNat_two_pow {x : Double} {k : Nat} (hx : x.isFinite = true) (hk : k < x.exponentField) :
    (x.divNat (2 ^ k)).isFinite = true ∧ (x.divNat (2 ^ k)).isNegative = x.isNegative ∧
      (x.divNat (2 ^ k)).value = x.value / 2 ^ k := by
  have he := exponentField_lt hx
  obtain ⟨y, hfin, hneg, hsig, hscale⟩ :=
    exists_of_fields x.isNegative (show 0 < x.exponentField - k by omega) (by omega) x.fractionField_lt
  have hsig' : y.significand = x.significand := by rw [hsig, significand, if_neg (by omega)]
  have hscale' : y.scale = x.scale - k := by
    rw [hscale, scale, if_neg (by omega)]
    omega
  have hy : x.divNat (2 ^ k) = y := by
    rw [divNat, ← hneg]
    refine ofRatio_eq hfin (by positivity) ?_
    have hexp : x.scale.toNat + (-(x.scale - k)).toNat =
        (x.scale - k).toNat + ((-x.scale).toNat + k) := by omega
    rw [hsig', hscale', mul_assoc, mul_assoc, ← pow_add, ← pow_add, ← pow_add, hexp]
  refine ⟨hy ▸ hfin, hy ▸ hneg, ?_⟩
  rw [hy, value, value, hneg, hsig', hscale', zpow_sub₀ two_ne_zero, zpow_natCast]
  ring

/-- A double that is not below one is far above the least binade. -/
theorem lt_exponentField_of_one_le {x : Double} (h : 1 ≤ |x.value|) : 1022 < x.exponentField := by
  have hlt := x.significand_bounds.1
  by_contra hle
  have hscale : x.scale ≤ -53 := by
    unfold scale
    split <;> omega
  have hsmall : |x.value| < 1 := by
    rw [abs_value]
    calc (x.significand : ℚ) * 2 ^ x.scale < 2 ^ 53 * 2 ^ x.scale := by
          gcongr
          exact_mod_cast hlt
      _ ≤ 2 ^ 53 * 2 ^ (-53 : Int) := by
          gcongr
          exact one_le_two
      _ = 1 := by norm_num
  exact absurd h hsmall.not_ge

end QueryShell.Double
