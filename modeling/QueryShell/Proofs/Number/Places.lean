import QueryShell.Proofs.Number.Order
import QueryShell.Proofs.Text.Ending

/-!
# Decimal places

`Double.fixed` writes a number with a given number of decimal places, to which
it is rounded first. What is written is a number of units of the last place,
`Double.inPlaces`, with a point among its digits. The zeros at the end of the
fraction, and the point if nothing is left of the fraction, can be taken off
without a change of the value.

## Main statements

* `Double.abs_inPlaces_sub_le`, `Double.inPlaces_mono`: rounding to decimal
  places.
* `Double.exists_fixed_eq`: what is written.
* `Numeral.dropEndWhile_pointed`, `Numeral.amount_dropEndWhile`: zeros at
  the end of a fraction.
-/

namespace QueryShell

open Text

namespace Double

/-! ## Rounding to decimal places -/

/-- The magnitude of a finite double in units of the last of some decimal
places. -/
def inPlaces (places : Nat) (x : Double) : Nat :=
  roundDiv (x.significand * 2 ^ x.scale.toNat * 10 ^ places) (2 ^ (-x.scale).toNat)

variable {x y : Double} {places : Nat}

theorem abs_value_mul_pow (places : Nat) (x : Double) : |x.value| * 10 ^ places =
    (x.significand * 2 ^ x.scale.toNat * 10 ^ places : Nat) / (2 ^ (-x.scale).toNat : Nat) := by
  rw [abs_value, zpow_eq_div]
  push_cast
  ring

/-- **Rounding to decimal places** is off by half a unit of the last place at
most. The double is taken for what it is exactly, and rounded once. -/
theorem abs_inPlaces_sub_le (places : Nat) (x : Double) :
    |(x.inPlaces places : ℚ) - |x.value| * 10 ^ places| ≤ 1 / 2 := by
  rw [abs_value_mul_pow]
  exact abs_roundDiv_sub_le _ (by positivity)

/-- A greater magnitude is rounded to no smaller number of places: rounding
never inverts an order. -/
theorem inPlaces_mono (h : |x.value| ≤ |y.value|) (places : Nat) :
    x.inPlaces places ≤ y.inPlaces places := by
  refine roundDiv_mono (by positivity) (by positivity) ?_
  have hle := mul_le_mul_of_nonneg_right h (show (0 : ℚ) ≤ 10 ^ places by positivity)
  rw [abs_value_mul_pow, abs_value_mul_pow, div_le_div_iff₀ (by positivity) (by positivity)] at hle
  exact_mod_cast hle

/-- From half a unit below an even number on, a number is rounded to it or
beyond. -/
theorem le_inPlaces_iff_of_even {m : Nat} (hm : Even m) :
    m ≤ x.inPlaces places ↔ 2 * (m : ℚ) ≤ 2 * (|x.value| * 10 ^ places) + 1 := by
  have hd : (0 : ℚ) < (2 ^ (-x.scale).toNat : Nat) := by positivity
  rw [inPlaces, le_roundDiv_iff_of_even hm (by positivity), abs_value_mul_pow, ← mul_div_assoc,
    div_add_one hd.ne', le_div_iff₀ hd]
  exact_mod_cast Iff.rfl

/-- A number that reaches a whole number of units is not rounded below it. -/
theorem le_inPlaces {m : Nat} (h : (m : ℚ) ≤ |x.value| * 10 ^ places) : m ≤ x.inPlaces places := by
  rw [abs_value_mul_pow, le_div_iff₀ (by positivity)] at h
  rw [← roundDiv_mul_right m one_pos]
  refine roundDiv_mono one_pos (by positivity) ?_
  rw [mul_one, mul_one]
  exact_mod_cast h

/-- A number that does not exceed a whole number of units is not rounded above
it. -/
theorem inPlaces_le {m : Nat} (h : |x.value| * 10 ^ places ≤ m) : x.inPlaces places ≤ m := by
  rw [abs_value_mul_pow, div_le_iff₀ (by positivity)] at h
  rw [← roundDiv_mul_right m one_pos]
  refine roundDiv_mono (by positivity) one_pos ?_
  rw [mul_one, mul_one]
  exact_mod_cast h

/-! ## The digits -/

/-- The digits of a number of units of the last place, with zeros in front up to
the place of the ones. -/
def padded (places n : Nat) : List Char :=
  List.replicate (places + 1 - (decimalNat n).length) '0' ++ decimalNat n

/-- There is a digit before the point, be it a zero. -/
theorem lt_length_padded (places n : Nat) : places < (padded places n).length := by
  rw [padded, List.length_append, List.length_replicate]
  omega

theorem isDigit_of_mem_padded (places n : Nat) : ∀ c ∈ padded places n, c.isDigit = true :=
  List.forall_mem_append.mpr
    ⟨fun _ => Numeral.isDigit_of_mem_replicate, fun _ => Numeral.isDigit_of_mem_toDigits⟩

theorem value_padded (places n : Nat) : Numeral.value (padded places n) = n := by
  rw [padded, Numeral.value_replicate_append, decimalNat, Numeral.value_toDigits]

theorem padded_succ (places n : Nat) :
    padded (places + 1) n = padded places (n / 10) ++ [(n % 10).digitChar] := by
  unfold padded decimalNat
  by_cases h : n < 10
  · rw [Nat.toDigits_of_lt_base h, Nat.div_eq_of_lt h, Nat.toDigits_zero, Nat.mod_eq_of_lt h,
      ← List.replicate_succ']
    rfl
  · rw [Nat.toDigits_of_base_le (by norm_num) (not_lt.mp h), List.length_append, List.append_assoc,
      List.length_singleton, Nat.add_sub_add_right]

/-- In front of the places are the digits of the whole part. -/
theorem take_padded (places n : Nat) :
    (padded places n).take ((padded places n).length - places) = decimalNat (n / 10 ^ places) := by
  induction places generalizing n with
  | zero =>
    have hpos : 0 < (decimalNat n).length := Nat.length_toDigits_pos
    have hzero : 0 + 1 - (decimalNat n).length = 0 := by omega
    rw [Nat.sub_zero, List.take_length, padded, hzero, pow_zero, Nat.div_one]
    rfl
  | succ places ih =>
    rw [padded_succ, List.length_append, List.length_singleton, Nat.add_sub_add_right,
      List.take_append_of_le_length (Nat.sub_le _ _), ih, Nat.div_div_eq_div_mul, pow_succ']

/-- **What is written** are the digits of the rounded number, with the point in
front of the last places. The fraction has exactly that many digits, zeros at
its end included. -/
theorem exists_fixed_eq (hx : x.isNegative = false) (hplaces : places ≠ 0) :
    ∃ fraction, Numeral.IsPointed (decimalNat (x.inPlaces places / 10 ^ places)) fraction ∧
      fraction.length = places ∧
      Numeral.value (decimalNat (x.inPlaces places / 10 ^ places) ++ fraction) = x.inPlaces places ∧
      x.fixed places = decimalNat (x.inPlaces places / 10 ^ places) ++ '.' :: fraction := by
  have hfixed : x.fixed places =
      let ds := padded places (x.inPlaces places)
      ds.take (ds.length - places) ++ '.' :: ds.drop (ds.length - places) := by
    unfold fixed
    dsimp only
    rw [if_neg hplaces]
    show (if x.isNegative then '-' :: _ else _) = _
    rw [hx]
    rfl
  have hlen := lt_length_padded places (x.inPlaces places)
  have hdigit := isDigit_of_mem_padded places (x.inPlaces places)
  have hvalue := value_padded places (x.inPlaces places)
  rw [← take_padded]
  dsimp only at hfixed
  generalize padded places (x.inPlaces places) = ds at *
  refine ⟨ds.drop (ds.length - places), Numeral.isPointed_take_drop hdigit ?_ (by omega), ?_, ?_, hfixed⟩
  · exact List.ne_nil_of_length_pos (Nat.zero_lt_of_lt hlen)
  · rw [List.length_drop]
    omega
  · rw [List.take_append_drop, hvalue]

end Double

/-! ## Zeros at the end of a fraction -/

namespace Numeral

variable {whole fraction : List Char}

/-- The number that a numeral without an exponent stands for. -/
def amount (whole fraction : List Char) : ℚ :=
  value (whole ++ fraction) / 10 ^ fraction.length

/-- Digits taken off the end of the fraction leave the two parts of a
numeral. -/
theorem IsPointed.dropEndWhile (h : IsPointed whole fraction) (p : Char → Bool) :
    IsPointed whole (dropEndWhile p fraction) := by
  obtain ⟨t, ht, -⟩ := dropEndWhile_append_rest p fraction
  refine ⟨h.whole_ne_nil, h.isDigit_whole, fun c hc => h.isDigit_fraction c ?_⟩
  rw [ht]
  exact List.mem_append_left t hc

/-- There is no point at the end of digits. -/
theorem dropEndWhile_point_digits {ds : List Char} (hds : ∀ c ∈ ds, c.isDigit = true) :
    dropEndWhile (· == '.') ds = ds := by
  refine dropEndWhile_of_headNot fun c hc => beq_eq_false_iff_ne.mpr ?_
  exact Lexeme.ne_of_apply_ne (hds c (List.mem_reverse.mp (List.mem_of_mem_head? hc))) rfl

/-- **Zeros at the end of the fraction** go, and the point with the last of
them. The zeros of the whole part are safe: the point stands before them. -/
theorem dropEndWhile_pointed (h : IsPointed whole fraction) :
    dropEndWhile (· == '.') (dropEndWhile (· == '0') (whole ++ '.' :: fraction)) =
      pointed whole (dropEndWhile (· == '0') fraction) := by
  have hzeros := dropEndWhile_append (· == '0') (whole ++ ['.']) fraction
  have hdigits := dropEndWhile_point_digits (h.dropEndWhile (· == '0')).isDigit_fraction
  rw [List.append_assoc, List.singleton_append] at hzeros
  rw [hzeros, pointed]
  generalize dropEndWhile (· == '0') fraction = f at hdigits ⊢
  by_cases hf : f = []
  · have hpoint : dropEndWhile (· == '0') (whole ++ ['.']) = whole ++ ['.'] := by
      refine dropEndWhile_of_headNot ?_
      rw [List.reverse_append]
      exact headNot_cons.mpr (by decide)
    rw [if_pos hf, if_pos hf, hpoint, dropEndWhile_append_of_all (by simp),
      dropEndWhile_point_digits h.isDigit_whole]
  · rw [if_neg hf, if_neg hf, dropEndWhile_append, hdigits, if_neg hf, List.append_assoc,
      List.singleton_append]

/-- Zeros at the end of the fraction count for nothing. -/
theorem amount_dropEndWhile (whole fraction : List Char) :
    amount whole (dropEndWhile (· == '0') fraction) = amount whole fraction := by
  obtain ⟨t, ht, hzeros⟩ := dropEndWhile_append_rest (· == '0') fraction
  have ht' : t = List.replicate t.length '0' :=
    List.eq_replicate_iff.mpr ⟨rfl, fun c hc => beq_iff_eq.mp (hzeros c hc)⟩
  generalize dropEndWhile (· == '0') fraction = f at ht ⊢
  rw [ht, amount, amount, ← List.append_assoc, ht', value_append_replicate, List.length_append,
    List.length_replicate, pow_add]
  push_cast
  exact (mul_div_mul_right _ _ (by positivity)).symm

end Numeral

end QueryShell
