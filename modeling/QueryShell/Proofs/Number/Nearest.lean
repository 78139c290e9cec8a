import Mathlib.Data.Int.Log
import Mathlib.Data.Rat.Floor
import Mathlib.Tactic.FieldSimp
import Mathlib.Tactic.Linarith
import Mathlib.Tactic.Positivity
import Mathlib.Tactic.Ring
import QueryShell.Number.Double

/-!
# The nearest double

Rounding a quotient of naturals to a double depends on the value of the quotient
alone, and a value that some double has is rounded to that double. The grid that
a value is rounded on is found from its binary logarithm: `floorLog2` compares
naturals only, and the first section shows that it is the logarithm `Int.log 2`
of the quotient, so that everything else can be said with integer powers of two.

The second half is about `ofDecimal`, which does not expand an exponent that is
certainly too large or certainly too small. These two cuts never show:
`ofDecimal` is the rounded quotient for every exponent.

## Main statements

* `Double.nearestBits_congr`: equal quotients round alike.
* `Double.nearestBits_of_eq`: the value of a finite double rounds to that
  double.
* `Double.ofDecimal_eq_ofRatio`: the value of a decimal is rounded, whatever its
  exponent.
* `Double.ofDecimal_mul_pow`: zeros at the end of the digits can move into the
  exponent.
-/

namespace QueryShell.Double

/-! ## The binary logarithm of a quotient -/

/-- An integer power as a quotient of natural powers, one of which is `1`. -/
theorem zpow_eq_div (b : ℚ) (q : Int) : b ^ q = b ^ q.toNat / b ^ (-q).toNat := by
  obtain ⟨n, rfl | rfl⟩ := q.eq_nat_or_neg
  · simp
  · simp

/-- **Comparing a quotient with a power of two needs naturals only**: the power
is moved to the side on which its exponent is not negative. -/
theorem two_zpow_le_div_iff {num den : Nat} (hd : 0 < den) (q : Int) :
    (2 : ℚ) ^ q ≤ num / den ↔ den * 2 ^ q.toNat ≤ num * 2 ^ (-q).toNat := by
  have hd' : (0 : ℚ) < den := by exact_mod_cast hd
  rw [zpow_eq_div, div_le_div_iff₀ (by positivity) hd', mul_comm _ (den : ℚ)]
  exact_mod_cast Iff.rfl

/-- **The logarithm is found by comparing naturals.** The numbers of binary
digits of the two naturals leave two candidates, and one comparison decides
between them. -/
theorem floorLog2_eq_log {num den : Nat} (hn : 0 < num) (hd : 0 < den) :
    floorLog2 num den = Int.log 2 ((num : ℚ) / den) := by
  have hr : (0 : ℚ) < num / den := by positivity
  have hd' : (0 : ℚ) < den := by exact_mod_cast hd
  have hnum : (2 : ℚ) ^ num.log2 ≤ num ∧ (num : ℚ) < 2 ^ (num.log2 + 1) := by
    exact_mod_cast And.intro (Nat.log2_self_le hn.ne') Nat.lt_log2_self
  have hden : (2 : ℚ) ^ den.log2 ≤ den ∧ (den : ℚ) < 2 ^ (den.log2 + 1) := by
    exact_mod_cast And.intro (Nat.log2_self_le hd.ne') Nat.lt_log2_self
  -- the quotient lies in the binade of `b` or in the one below
  set b : Int := (num.log2 : Int) - (den.log2 : Int)
  have hlow : (2 : ℚ) ^ (b - 1) ≤ num / den := by
    have hexp : b - 1 = (num.log2 : Int) - ((den.log2 + 1 : Nat) : Int) := by omega
    rw [hexp, zpow_sub₀ two_ne_zero, zpow_natCast, zpow_natCast]
    exact div_le_div₀ (by positivity) hnum.1 hd' hden.2.le
  have hhigh : (num : ℚ) / den < 2 ^ (b + 1) := by
    have hexp : b + 1 = ((num.log2 + 1 : Nat) : Int) - (den.log2 : Int) := by omega
    rw [hexp, zpow_sub₀ two_ne_zero, zpow_natCast, zpow_natCast]
    exact div_lt_div₀ hnum.2 hden.1 (by positivity) (by positivity)
  have hlow' := (Int.zpow_le_iff_le_log (R := ℚ) one_lt_two hr).mp (by exact_mod_cast hlow)
  have hhigh' := (Int.lt_zpow_iff_log_lt (R := ℚ) one_lt_two hr).mp (by exact_mod_cast hhigh)
  have hb' : b ≤ Int.log 2 ((num : ℚ) / den) ↔ den * 2 ^ b.toNat ≤ num * 2 ^ (-b).toNat := by
    rw [← two_zpow_le_div_iff hd, ← Int.zpow_le_iff_le_log one_lt_two hr]
    norm_num
  show (if den * 2 ^ b.toNat ≤ num * 2 ^ (-b).toNat then b else b - 1) = _
  split
  · next h => have := hb'.mpr h; omega
  · next h => have := fun hle => h (hb'.mp hle); omega

/-- The quotient is below a power of two as long as its logarithm is below the
exponent. -/
theorem floorLog2_lt_iff {num den : Nat} (hn : 0 < num) (hd : 0 < den) (q : Int) :
    floorLog2 num den < q ↔ num * 2 ^ (-q).toNat < den * 2 ^ q.toNat := by
  have hr : (0 : ℚ) < num / den := by positivity
  rw [← not_le, ← not_le, not_iff_not, floorLog2_eq_log hn hd, ← two_zpow_le_div_iff hd,
    ← Int.zpow_le_iff_le_log one_lt_two hr]
  norm_num

/-- The logarithm of a value that is given as a natural times a power of two. -/
theorem floorLog2_of_eq {num den m : Nat} {q : Int} (hm : 0 < m) (hd : 0 < den)
    (h : num * 2 ^ (-q).toNat = m * 2 ^ q.toNat * den) : floorLog2 num den = m.log2 + q := by
  have hdq : (0 : ℚ) < den := by exact_mod_cast hd
  have hval : (num : ℚ) / den = m * 2 ^ q := by
    rw [zpow_eq_div, div_eq_iff hdq.ne', mul_div_assoc', div_mul_eq_mul_div, eq_div_iff (by positivity)]
    exact_mod_cast h
  have hmq : (0 : ℚ) < m := by exact_mod_cast hm
  have hr : (0 : ℚ) < m * 2 ^ q := mul_pos hmq (zpow_pos two_pos q)
  have hn : 0 < num := by
    refine Nat.pos_of_ne_zero fun hn => ?_
    rw [← hval, hn] at hr
    simp at hr
  have hlow : (2 : ℚ) ^ m.log2 ≤ m := by exact_mod_cast Nat.log2_self_le hm.ne'
  have hhigh : (m : ℚ) < 2 ^ (m.log2 + 1) := by exact_mod_cast Nat.lt_log2_self
  rw [floorLog2_eq_log hn hd, hval]
  refine le_antisymm (Int.lt_add_one_iff.mp ?_) ?_
  · rw [← Int.lt_zpow_iff_log_lt one_lt_two hr, add_right_comm]
    push_cast
    rw [zpow_add₀ two_ne_zero]
    have := mul_lt_mul_of_pos_right hhigh (zpow_pos two_pos q)
    exact_mod_cast this
  · rw [← Int.zpow_le_iff_le_log one_lt_two hr]
    push_cast
    rw [zpow_add₀ two_ne_zero, zpow_natCast]
    exact mul_le_mul_of_nonneg_right hlow (zpow_pos two_pos q).le

/-! ## Rounding a quotient -/

/-- A common factor makes no difference to a rounded quotient. -/
theorem roundDiv_mul_left {k : Nat} (hk : 0 < k) (n d : Nat) :
    roundDiv (k * n) (k * d) = roundDiv n d := by
  have hlt : 2 * (k * (n % d)) < k * d ↔ 2 * (n % d) < d := by
    rw [Nat.mul_left_comm, Nat.mul_lt_mul_left hk]
  have hgt : k * d < 2 * (k * (n % d)) ↔ d < 2 * (n % d) := by
    rw [Nat.mul_left_comm, Nat.mul_lt_mul_left hk]
  simp only [roundDiv, Nat.mul_div_mul_left _ _ hk, Nat.mul_mod_mul_left, hlt, hgt]

theorem roundDiv_congr {n d n' d' : Nat} (hd : 0 < d) (hd' : 0 < d') (h : n * d' = n' * d) :
    roundDiv n d = roundDiv n' d' := by
  rw [← roundDiv_mul_left hd' n d, ← roundDiv_mul_left hd n' d', mul_comm d', h, mul_comm n',
    mul_comm d']

theorem roundDiv_mul_right (m : Nat) {d : Nat} (hd : 0 < d) : roundDiv (m * d) d = m := by
  simp [roundDiv, Nat.mul_div_cancel _ hd, hd]

theorem roundDiv_eq_zero {n d : Nat} (h : 2 * n < d) : roundDiv n d = 0 := by
  have hlt : n < d := by omega
  simp [roundDiv, Nat.div_eq_of_lt hlt, Nat.mod_eq_of_lt hlt, h]

theorem div_le_roundDiv (n d : Nat) : n / d ≤ roundDiv n d := by
  unfold roundDiv
  dsimp only
  split_ifs <;> omega

/-- **Equal quotients round to the same double.** So a quotient may be reduced
or expanded before it is rounded, and a number has one double however it is
written. -/
theorem nearestBits_congr {n d n' d' : Nat} (hd : 0 < d) (hd' : 0 < d') (h : n * d' = n' * d) :
    nearestBits n d = nearestBits n' d' := by
  by_cases hn : n = 0
  · subst hn
    have hn' : n' = 0 := by
      rw [zero_mul, eq_comm, Nat.mul_eq_zero] at h
      exact h.resolve_right hd.ne'
    simp [nearestBits, hn']
  · have hn' : n' ≠ 0 := by
      rintro rfl
      rw [zero_mul, Nat.mul_eq_zero] at h
      exact h.elim hn hd'.ne'
    have hlog : floorLog2 n d = floorLog2 n' d' := by
      have hdq : (d : ℚ) ≠ 0 := by exact_mod_cast hd.ne'
      have hdq' : (d' : ℚ) ≠ 0 := by exact_mod_cast hd'.ne'
      have hq : (n : ℚ) / d = n' / d' := by
        rw [div_eq_div_iff hdq hdq']
        exact_mod_cast h
      rw [floorLog2_eq_log (Nat.pos_of_ne_zero hn) hd, floorLog2_eq_log (Nat.pos_of_ne_zero hn') hd',
        hq]
    have hround (p q : Nat) : roundDiv (n * 2 ^ p) (d * 2 ^ q) = roundDiv (n' * 2 ^ p) (d' * 2 ^ q) := by
      refine roundDiv_congr (by positivity) (by positivity) ?_
      calc n * 2 ^ p * (d' * 2 ^ q) = n * d' * (2 ^ p * 2 ^ q) := by ring
        _ = n' * d * (2 ^ p * 2 ^ q) := by rw [h]
        _ = n' * 2 ^ p * (d * 2 ^ q) := by ring
    simp only [nearestBits, if_neg hn, if_neg hn', hlog, hround]

/-! ## Doubles and their values -/

/-- The bits of a double without the sign. -/
def magnitudeBits (x : Double) : Nat := x.bits.toNat % 2 ^ 63

/-- The bits of the magnitude are the exponent and, behind it, the fraction. -/
theorem magnitudeBits_eq (x : Double) :
    x.magnitudeBits = x.exponentField * 2 ^ 52 + x.fractionField := by
  unfold magnitudeBits exponentField fractionField
  omega

theorem magnitudeBits_lt (x : Double) : x.magnitudeBits < 2 ^ 63 :=
  Nat.mod_lt _ (by norm_num)

theorem toNat_bits_ofMagnitude (negative : Bool) {m : Nat} (hm : m < 2 ^ 63) :
    (ofMagnitude negative m).bits.toNat = if negative then 2 ^ 63 + m else m := by
  unfold ofMagnitude
  rw [UInt64.toNat_ofNat']
  split <;> omega

@[simp] theorem isNegative_ofMagnitude (negative : Bool) {m : Nat} (hm : m < 2 ^ 63) :
    (ofMagnitude negative m).isNegative = negative := by
  unfold isNegative
  rw [toNat_bits_ofMagnitude negative hm]
  cases negative
  · simpa using hm
  · simp

@[simp] theorem magnitudeBits_ofMagnitude (negative : Bool) {m : Nat} (hm : m < 2 ^ 63) :
    (ofMagnitude negative m).magnitudeBits = m := by
  unfold magnitudeBits
  rw [toNat_bits_ofMagnitude negative hm]
  split <;> omega

/-- A double is its sign and its magnitude. -/
theorem ofMagnitude_magnitudeBits (x : Double) :
    ofMagnitude x.isNegative x.magnitudeBits = x := by
  have hx : x.bits.toNat < 2 ^ 64 := x.bits.toNat_lt
  have hbits : (ofMagnitude x.isNegative x.magnitudeBits).bits = x.bits := by
    rw [← UInt64.toNat_inj, toNat_bits_ofMagnitude _ x.magnitudeBits_lt]
    unfold isNegative magnitudeBits
    simp only [decide_eq_true_eq]
    split <;> omega
  cases x
  exact congrArg Double.mk hbits

theorem neg_eq (x : Double) : x.neg = ofMagnitude (!x.isNegative) x.magnitudeBits := rfl

/-- The two forms of a finite double: below the least binade, and in a
binade. -/
theorem significand_scale_cases (x : Double) :
    (x.exponentField = 0 ∧ x.significand = x.fractionField ∧ x.scale = -1074) ∨
      (x.exponentField ≠ 0 ∧ x.significand = 2 ^ 52 + x.fractionField ∧
        x.scale = x.exponentField - 1075) := by
  unfold significand scale
  by_cases he : x.exponentField = 0
  · exact .inl ⟨he, if_pos he, if_pos he⟩
  · exact .inr ⟨he, if_neg he, if_neg he⟩

theorem fractionField_lt (x : Double) : x.fractionField < 2 ^ 52 :=
  Nat.mod_lt _ (by norm_num)

/-- The greatest exponent belongs to no finite number. -/
theorem exponentField_lt {x : Double} (hx : x.isFinite = true) : x.exponentField < 2047 := by
  have hlt : x.exponentField < 2048 := Nat.mod_lt _ (by norm_num)
  have hne : x.exponentField ≠ 2047 := by simpa [isFinite] using hx
  omega

/-- The magnitude is zero exactly if the significand is, since a subnormal
number has the exponent zero. -/
theorem magnitudeBits_eq_zero_iff {x : Double} : x.magnitudeBits = 0 ↔ x.significand = 0 := by
  have hbits := x.magnitudeBits_eq
  rcases x.significand_scale_cases with ⟨he, hm, -⟩ | ⟨he, hm, -⟩ <;> omega

/-- The grid that the value of a double is rounded on is the scale of the
double. -/
theorem max_log2_significand_eq_scale {x : Double} (hm : x.significand ≠ 0) :
    max ((x.significand.log2 : Int) + x.scale - 52) (-1074) = x.scale := by
  have hf := x.fractionField_lt
  rcases x.significand_scale_cases with ⟨-, hs, hq⟩ | ⟨he, hs, hq⟩
  · have hlt : x.significand.log2 < 52 := (Nat.log2_lt hm).mpr (by omega)
    omega
  · have hlt : x.significand.log2 < 53 := (Nat.log2_lt hm).mpr (by omega)
    have hle : 52 ≤ x.significand.log2 := (Nat.le_log2 hm).mpr (by omega)
    omega

/-- **The bits of the magnitude are linear in the significand.** The hidden bit
of a normal number takes the place of one in the exponent, which is why numbers
can be compared by their bits. -/
theorem magnitudeBits_eq_scale_add_significand (x : Double) :
    x.magnitudeBits = (x.scale + 1074).toNat * 2 ^ 52 + x.significand := by
  rw [magnitudeBits_eq]
  rcases x.significand_scale_cases with ⟨he, hs, hq⟩ | ⟨he, hs, hq⟩
  · rw [he, hs, hq]
    simp
  · have hexp : (x.scale + 1074).toNat + 1 = x.exponentField := by omega
    rw [hs, ← hexp, Nat.add_mul, one_mul, Nat.add_assoc]

/-- **The value of a finite double rounds to that double.** The grid of the
value is the scale of the double, where the significand is the only
candidate. -/
theorem nearestBits_of_eq {x : Double} (hx : x.isFinite = true) {num den : Nat} (hd : 0 < den)
    (h : num * 2 ^ (-x.scale).toNat = x.significand * 2 ^ x.scale.toNat * den) :
    nearestBits num den = x.magnitudeBits := by
  by_cases hm : x.significand = 0
  · have hn : num = 0 := by
      rw [hm, zero_mul, zero_mul, Nat.mul_eq_zero] at h
      exact h.resolve_right (by positivity)
    rw [magnitudeBits_eq_zero_iff.mpr hm, hn, nearestBits, if_pos rfl]
  · have hn : num ≠ 0 := by
      rintro rfl
      rw [zero_mul, eq_comm, Nat.mul_eq_zero, Nat.mul_eq_zero] at h
      rcases h with (h | h) | h
      · exact hm h
      · exact absurd h (by positivity)
      · exact hd.ne' h
    have hlog := floorLog2_of_eq (Nat.pos_of_ne_zero hm) hd h
    -- nothing is left over, so rounding has nothing to decide
    have hround : roundDiv (num * 2 ^ (-x.scale).toNat) (den * 2 ^ x.scale.toNat) =
        x.significand := by
      rw [h, mul_assoc, mul_comm (2 ^ _) den]
      exact roundDiv_mul_right _ (by positivity)
    have hgrid : max (floorLog2 num den - 52) (-1074) = x.scale := by
      rw [hlog]
      exact max_log2_significand_eq_scale hm
    have hle : x.magnitudeBits ≤ infinityBits := by
      have he := exponentField_lt hx
      have hf := x.fractionField_lt
      rw [magnitudeBits_eq]
      unfold infinityBits
      omega
    rw [nearestBits, if_neg hn]
    simp only [hgrid, hround, ← magnitudeBits_eq_scale_add_significand]
    exact Nat.min_eq_left hle

/-- What is rounded to has 63 bits: a quotient that is too large is infinite. -/
theorem nearestBits_lt (num den : Nat) : nearestBits num den < 2 ^ 63 := by
  have hinf : infinityBits < 2 ^ 63 := by decide
  unfold nearestBits
  split
  · exact Nat.two_pow_pos 63
  · exact Nat.lt_of_le_of_lt (Nat.min_le_right _ _) hinf

/-! ## Values out of range -/

/-- A value of at least `2 ^ 1024` rounds to infinity. -/
theorem nearestBits_of_ge {num den : Nat} (hd : 0 < den) (h : den * 2 ^ 1024 ≤ num) :
    nearestBits num den = infinityBits := by
  have hn : 0 < num := lt_of_lt_of_le (by positivity) h
  have hlog : 1024 ≤ floorLog2 num den := by
    refine not_lt.mp fun hlt => ?_
    rw [floorLog2_lt_iff hn hd] at hlt
    simp only [Int.reduceNeg, Int.reduceToNat] at hlt
    omega
  obtain ⟨b, hb⟩ : ∃ b, floorLog2 num den = b := ⟨_, rfl⟩
  rw [hb] at hlog
  have hgrid : max (floorLog2 num den - 52) (-1074) = b - 52 := by omega
  have hle : den * 2 ^ b.toNat ≤ num * 2 ^ (-b).toNat :=
    not_lt.mp fun hlt => hb.not_lt ((floorLog2_lt_iff hn hd b).mpr hlt)
  -- on its grid the quotient has 53 binary digits, and its exponent is beyond that of every double
  have hneg : (-b).toNat = (-(b - 52)).toNat := by omega
  have hpos : b.toNat = (b - 52).toNat + 52 := by omega
  have hround : 2 ^ 52 ≤ roundDiv (num * 2 ^ (-(b - 52)).toNat) (den * 2 ^ (b - 52).toNat) := by
    refine le_trans ?_ (div_le_roundDiv _ _)
    rw [Nat.le_div_iff_mul_le (by positivity), ← hneg]
    calc 2 ^ 52 * (den * 2 ^ (b - 52).toNat) = den * 2 ^ b.toNat := by
          rw [hpos, pow_add]
          ring
      _ ≤ num * 2 ^ (-b).toNat := hle
  have hlarge : infinityBits ≤ (b - 52 + 1074).toNat * 2 ^ 52 +
      roundDiv (num * 2 ^ (-(b - 52)).toNat) (den * 2 ^ (b - 52).toNat) := by
    have hexp : 2046 ≤ (b - 52 + 1074).toNat := by omega
    unfold infinityBits
    omega
  rw [nearestBits, if_neg hn.ne']
  simp only [hgrid]
  exact Nat.min_eq_right hlarge

/-- A value below half of the least positive double rounds to zero. -/
theorem nearestBits_of_lt {num den : Nat} (hd : 0 < den) (h : num * 2 ^ 1075 < den) :
    nearestBits num den = 0 := by
  rcases Nat.eq_zero_or_pos num with rfl | hn
  · rw [nearestBits, if_pos rfl]
  · have hlog : floorLog2 num den < -1075 := by
      rw [floorLog2_lt_iff hn hd]
      simpa only [Int.reduceNeg, Int.reduceToNat, pow_zero, mul_one] using h
    have hgrid : max (floorLog2 num den - 52) (-1074) = -1074 := by omega
    have hround : roundDiv (num * 2 ^ (-(-1074 : Int)).toNat) (den * 2 ^ (-1074 : Int).toNat) = 0 := by
      have hlt : 2 * (num * 2 ^ (-(-1074 : Int)).toNat) < den * 2 ^ (-1074 : Int).toNat := by
        calc 2 * (num * 2 ^ (-(-1074 : Int)).toNat) = num * 2 ^ 1075 := by
              rw [mul_left_comm, ← pow_succ', show (-(-1074 : Int)).toNat + 1 = 1075 from rfl]
          _ < den * 2 ^ (-1074 : Int).toNat := by
            simpa only [Int.reduceNeg, Int.reduceToNat, pow_zero, mul_one] using h
      exact roundDiv_eq_zero hlt
    rw [nearestBits, if_neg hn.ne']
    simp only [hgrid, hround]
    rfl

/-! ## Decimals -/

/-- **The cuts of `ofDecimal` never show**: whatever the exponent, the decimal
is the double nearest to its value. -/
theorem ofDecimal_eq_ofRatio (negative : Bool) (digits : Nat) (exponent : Int) :
    ofDecimal negative digits exponent =
      ofRatio negative (digits * 10 ^ exponent.toNat) (10 ^ (-exponent).toNat) := by
  unfold ofDecimal ofRatio
  split_ifs with hd hlarge hsmall
  · rw [hd, zero_mul, nearestBits, if_pos rfl]
  · rw [nearestBits_of_ge (by positivity)]
    have hzero : (-exponent).toNat = 0 := by omega
    calc 10 ^ (-exponent).toNat * 2 ^ 1024 = 2 ^ 1024 := by rw [hzero, pow_zero, one_mul]
      _ ≤ 2 ^ (3 * exponent.toNat) := Nat.pow_le_pow_right (by decide) (by omega)
      _ = 8 ^ exponent.toNat := by rw [pow_mul]; norm_num
      _ ≤ 10 ^ exponent.toNat := Nat.pow_le_pow_left (by norm_num) _
      _ ≤ digits * 10 ^ exponent.toNat := Nat.le_mul_of_pos_left _ (Nat.pos_of_ne_zero hd)
  · rw [nearestBits_of_lt (by positivity)]
    have hzero : exponent.toNat = 0 := by omega
    -- for every `k`, since at 1075 the power would be evaluated
    have hadd (k : Nat) : 2 ^ (digits.log2 + 1) * 2 ^ k = 2 ^ (digits.log2 + 1 + k) := (pow_add ..).symm
    calc digits * 10 ^ exponent.toNat * 2 ^ 1075 = digits * 2 ^ 1075 := by
          rw [hzero, pow_zero, mul_one]
      _ < 2 ^ (digits.log2 + 1) * 2 ^ 1075 := Nat.mul_lt_mul_of_pos_right Nat.lt_log2_self (by positivity)
      _ = 2 ^ (digits.log2 + 1 + 1075) := hadd 1075
      _ ≤ 2 ^ (3 * (-exponent).toNat) := Nat.pow_le_pow_right (by decide) (by omega)
      _ = 8 ^ (-exponent).toNat := by rw [pow_mul]; norm_num
      _ ≤ 10 ^ (-exponent).toNat := Nat.pow_le_pow_left (by norm_num) _
  · rfl

/-- **Zeros at the end of the digits can move into the exponent.** Both sides
are the same quotient. -/
theorem ofDecimal_mul_pow (negative : Bool) (digits k : Nat) (exponent : Int) :
    ofDecimal negative (digits * 10 ^ k) exponent = ofDecimal negative digits (exponent + k) := by
  rw [ofDecimal_eq_ofRatio, ofDecimal_eq_ofRatio, ofRatio, ofRatio]
  refine congrArg (ofMagnitude negative) (nearestBits_congr (by positivity) (by positivity) ?_)
  have hexp : k + exponent.toNat + (-(exponent + k)).toNat =
      (exponent + k).toNat + (-exponent).toNat := by omega
  rw [mul_assoc, mul_assoc, mul_assoc, ← pow_add, ← pow_add, ← pow_add, ← Nat.add_assoc, hexp]

end QueryShell.Double
