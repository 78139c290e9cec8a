import QueryShell.Literal.Printer
import QueryShell.Proofs.Literal.Grammar
import QueryShell.Proofs.Number.Nearest
import QueryShell.Proofs.Number.Parts

/-!
# Numbers read back

The text of a finite number is an unsigned numeral without an exponent, perhaps
behind a minus, and the double nearest to the numeral has the magnitude of the
number. So a number that is written and read again is the same double, to the
sign of a zero.

The digits that `Double.shortest` selects are checked against the double when
they are selected, and the exact value that stands by passes the check for every
finite double. What is left is the layout: the zeros that `Decimal.strip` takes
away and those that `Decimal.positional` puts back do not change the value of
the decimal.

## Main statements

* `Double.ofDecimal_shortest`: the selected digits are the digits of the double.
* `Literal.exists_numberChars_eq`: the text of a finite number, and what is read
  from it.
-/

namespace QueryShell

/-! ## Selecting digits -/

namespace Double

/-- A decimal reads back as a number iff the number nearest to it has the same
magnitude. -/
theorem readsBack_iff {x : Double} {d : Decimal} : x.readsBack d = true ↔
    ofDecimal false d.digits d.exponent = ofMagnitude false x.magnitudeBits := by
  rw [readsBack, decide_eq_true_iff]
  rfl

theorem readsBack_of_withDigits? {tie : Tie} {x : Double} {n : Nat} {d : Decimal}
    (h : x.withDigits? tie n = some d) : x.readsBack d = true := by
  unfold withDigits? at h
  dsimp only at h
  split at h
  · next hlo hhi =>
    split at h
    · cases h; exact hlo
    · cases h; exact hhi
    · cases h; exact hhi
    · cases h
      split
      · exact hlo
      · exact hhi
  · next hlo _ => cases h; exact hlo
  · next _ hhi => cases h; exact hhi
  · cases h

/-- The exact value of a finite double reads back to it. -/
theorem readsBack_exactDecimal {x : Double} (hx : x.isFinite = true) :
    x.readsBack x.exactDecimal = true := by
  rw [readsBack_iff, ofDecimal_eq_ofRatio, ofRatio]
  refine congrArg (ofMagnitude false) (nearestBits_of_eq hx (by positivity) ?_)
  have hzero : x.exactDecimal.exponent.toNat = 0 := by
    show (-((-x.scale).toNat : Int)).toNat = 0
    omega
  have hpow : (-x.exactDecimal.exponent).toNat = (-x.scale).toNat := by
    show (-(-((-x.scale).toNat : Int))).toNat = (-x.scale).toNat
    omega
  rw [hzero, hpow, exactDecimal]
  dsimp only
  rw [pow_zero, mul_one, mul_assoc, ← mul_pow]
  norm_num

end Double

/-- Zeros taken off the end of the digits, with the exponent raised for each of
them, leave the number as it is. -/
theorem Decimal.ofDecimal_strip (negative : Bool) (fuel : Nat) (d : Decimal) :
    Double.ofDecimal negative (d.strip fuel).digits (d.strip fuel).exponent =
      Double.ofDecimal negative d.digits d.exponent := by
  induction fuel generalizing d with
  | zero => rfl
  | succ fuel ih =>
    unfold strip
    split
    · next h =>
      have hten : d.digits / 10 * 10 ^ 1 = d.digits := by
        simp only [Bool.and_eq_true, decide_eq_true_eq] at h
        omega
      have hmove := Double.ofDecimal_mul_pow negative (d.digits / 10) 1 d.exponent
      rw [hten] at hmove
      rw [ih, hmove]
      rfl
    · rfl

namespace Double

/-- **The selected digits are the digits of the double.** They were checked when
they were selected; where none of the candidates passes, the exact value
stands by. -/
theorem ofDecimal_shortest {x : Double} (hx : x.isFinite = true) (tie : Tie) :
    ofDecimal false (x.shortest tie).digits (x.shortest tie).exponent =
      ofMagnitude false x.magnitudeBits := by
  unfold shortest
  split
  · next hzero =>
    simp only [isZero, Bool.and_eq_true, beq_iff_eq] at hzero
    rw [magnitudeBits_eq, hzero.1, hzero.2]
    rfl
  -- how the digits were found does not matter: they passed the check, and so does what stands by
  · dsimp only
    rw [Decimal.ofDecimal_strip, ← readsBack_iff]
    cases hd : (List.range 17).findSome? fun n => x.withDigits? tie (n + 1) with
    | none => exact readsBack_exactDecimal hx
    | some d =>
      obtain ⟨n, -, hn⟩ := List.exists_of_findSome?_eq_some hd
      exact readsBack_of_withDigits? hn

end Double

/-! ## Numerals without an exponent -/

namespace Numeral

/-- Digits, and behind a point the digits of the fraction if there are any. -/
def pointed (whole fraction : List Char) : List Char :=
  if fraction = [] then whole else whole ++ '.' :: fraction

/-- **Digits with perhaps a fraction**, and no exponent. The whole part has a
digit at least, since a numeral in a text begins with one. -/
structure IsPointed (whole fraction : List Char) : Prop where
  whole_ne_nil : whole ≠ []
  isDigit_whole : ∀ c ∈ whole, c.isDigit = true
  isDigit_fraction : ∀ c ∈ fraction, c.isDigit = true

variable {whole fraction : List Char}

/-- The parts of a numeral without an exponent. -/
theorem exists_fraction_pointed (h : IsPointed whole fraction) :
    ∃ f, Fraction f fraction ∧ pointed whole fraction = whole ++ (f ++ []) := by
  unfold pointed
  split
  · next hnil =>
    subst hnil
    exact ⟨[], .none, (List.append_nil whole).symm⟩
  · next hne => exact ⟨'.' :: fraction, .some hne h.isDigit_fraction, by rw [List.append_nil]⟩

/-- The scanner of numerals takes the whole of it. -/
theorem numeral_pointed (h : IsPointed whole fraction) :
    Lexeme.numeral (pointed whole fraction) = pointed whole fraction := by
  obtain ⟨f, hf, hparts⟩ := exists_fraction_pointed h
  rw [hparts]
  exact numeral_parts h.isDigit_whole hf .none

/-- What the numeral stands for: all its digits, with the places of the fraction
taken back. -/
theorem decimal?_pointed (h : IsPointed whole fraction) :
    decimal? (pointed whole fraction) =
      some ⟨value (whole ++ fraction), -(fraction.length : Int)⟩ := by
  obtain ⟨f, hf, hparts⟩ := exists_fraction_pointed h
  rw [hparts, decimal?_parts h.whole_ne_nil h.isDigit_whole hf .none, zero_sub]

/-- The digits that are written for a natural number have that number as their
value. -/
theorem value_toDigits (n : Nat) : value (Nat.toDigits 10 n) = n :=
  Nat.ofDigitChars_ten_toDigits

/-- Zeros before the first digit do not change the value. -/
theorem value_replicate_append (k : Nat) (ds : List Char) :
    value (List.replicate k '0' ++ ds) = value ds := by
  rw [value, Nat.ofDigitChars_append, Nat.ofDigitChars_replicate_zero, mul_zero]
  rfl

/-- Each zero behind the last digit multiplies the value by ten. -/
theorem value_append_replicate (k : Nat) (ds : List Char) :
    value (ds ++ List.replicate k '0') = value ds * 10 ^ k := by
  rw [value, Nat.ofDigitChars_append, Nat.ofDigitChars_replicate_zero, mul_comm]
  rfl

theorem isDigit_of_mem_toDigits {n : Nat} {c : Char} (h : c ∈ Nat.toDigits 10 n) :
    c.isDigit = true :=
  Nat.isDigit_of_mem_toDigits (by decide) (by decide) h

theorem isDigit_of_mem_replicate {k : Nat} {c : Char} (h : c ∈ List.replicate k '0') :
    c.isDigit = true := by
  rw [List.eq_of_mem_replicate h]
  rfl

/-- Digits with a point among them or behind them. -/
theorem isPointed_take_drop {ds : List Char} {n : Nat} (hds : ∀ c ∈ ds, c.isDigit = true) (hne : ds ≠ [])
    (hn : n ≠ 0) : IsPointed (ds.take n) (ds.drop n) where
  whole_ne_nil h := (List.take_eq_nil_iff.mp h).elim hn hne
  isDigit_whole c hc := hds c (List.mem_of_mem_take hc)
  isDigit_fraction c hc := hds c (List.mem_of_mem_drop hc)

end Numeral

/-- **A decimal is laid out as a numeral** of the same value. Three layouts are
possible: the point behind all digits, among them, or before them with zeros
between. -/
theorem Decimal.exists_positional_eq (d : Decimal) :
    ∃ whole fraction, Numeral.IsPointed whole fraction ∧
      d.positional false = Numeral.pointed whole fraction ∧
      Double.ofDecimal false (Numeral.value (whole ++ fraction)) (-(fraction.length : Int)) =
        Double.ofDecimal false d.digits d.exponent := by
  have hdigit : ∀ c ∈ d.chars, c.isDigit = true := fun c => Numeral.isDigit_of_mem_toDigits
  have hzero (k : Nat) : ∀ c ∈ List.replicate k '0', c.isDigit = true :=
    fun c => Numeral.isDigit_of_mem_replicate
  have hne : d.chars ≠ [] := Nat.toDigits_ne_nil
  have hvalue : Numeral.value d.chars = d.digits := Numeral.value_toDigits d.digits
  -- the three layouts: zeros behind the digits, a point among them, zeros between the point and them
  unfold positional
  split
  · next hexp =>
    refine ⟨d.chars ++ List.replicate d.exponent.toNat '0', [], ⟨?_, ?_, ?_⟩, ?_, ?_⟩
    · simp [hne]
    · exact List.forall_mem_append.mpr ⟨hdigit, hzero _⟩
    · simp
    · simp [Numeral.pointed]
    · rw [List.append_nil, Numeral.value_append_replicate, hvalue, Double.ofDecimal_mul_pow]
      congr 1
      simp only [List.length_nil]
      omega
  · next hexp =>
    dsimp only
    have hplaces : ((-d.exponent).toNat : Int) = -d.exponent := by omega
    generalize (-d.exponent).toNat = places at *
    split
    · next hlt =>
      refine ⟨d.chars.take (d.chars.length - places), d.chars.drop (d.chars.length - places),
        Numeral.isPointed_take_drop hdigit hne (by omega), ?_, ?_⟩
      · rw [Numeral.pointed, if_neg]
        rw [List.drop_eq_nil_iff]
        omega
      · rw [List.take_append_drop, hvalue, List.length_drop]
        congr 1
        omega
    · next hge =>
      refine ⟨['0'], List.replicate (places - d.chars.length) '0' ++ d.chars, ⟨?_, ?_, ?_⟩, ?_, ?_⟩
      · simp
      · simp
      · exact List.forall_mem_append.mpr ⟨hzero _, hdigit⟩
      · rw [Numeral.pointed, if_neg (by simp [hne])]
        rfl
      · rw [← List.append_assoc, ← List.replicate_one, List.replicate_append_replicate,
          Numeral.value_replicate_append, hvalue]
        congr 1
        rw [List.length_append, List.length_replicate]
        omega

/-! ## Integers -/

namespace Double

/-- A double without a fraction is its integer part. -/
theorem nearestBits_truncNat {x : Double} (hx : x.isFinite = true) (hw : x.isWhole = true) :
    nearestBits x.truncNat 1 = x.magnitudeBits := by
  refine nearestBits_of_eq hx one_pos ?_
  rw [mul_one, truncNat]
  rw [isWhole, beq_iff_eq] at hw
  exact Nat.div_mul_cancel (Nat.dvd_of_mod_eq_zero hw)

/-- Being finite does not depend on the sign. -/
theorem isFinite_congr {x y : Double} (h : x.magnitudeBits = y.magnitudeBits) :
    x.isFinite = y.isFinite := by
  have he : x.exponentField = y.exponentField := by
    have hx := x.bits.toNat_lt
    have hy := y.bits.toNat_lt
    unfold magnitudeBits at h
    unfold exponentField
    omega
  rw [isFinite, isFinite, he]

/-- A number is zero, of either sign, iff its magnitude has no bit set. -/
theorem isZero_iff {x : Double} : x.isZero = true ↔ x.magnitudeBits = 0 := by
  have hf := x.fractionField_lt
  rw [magnitudeBits_eq, isZero, Bool.and_eq_true, beq_iff_eq, beq_iff_eq]
  omega

theorem isNaN_eq_false {x : Double} (hx : x.isFinite = true) : x.isNaN = false := by
  have he := exponentField_lt hx
  rw [isNaN, Bool.and_eq_false_iff, beq_eq_false_iff_ne]
  omega

/-- Cutting off the fraction and forgetting the sign come to the same in either
order. -/
theorem natAbs_trunc (x : Double) : x.trunc.natAbs = x.truncNat := by
  unfold trunc
  split <;> omega

/-- A number in range is made into a 64-bit integer by cutting its fraction
off. -/
theorem toInt_toInt64 {x : Double} (hx : x.isFinite = true) (hlt : x.truncNat < 2 ^ 53) :
    x.toInt64.toInt = x.trunc := by
  have habs := x.natAbs_trunc
  have hmin : Int64.minValue.toInt = -9223372036854775808 := rfl
  have hmax : Int64.maxValue.toInt = 9223372036854775807 := rfl
  have hclamp : max Int64.minValue.toInt (min x.trunc Int64.maxValue.toInt) = x.trunc := by
    rw [hmin, hmax]
    omega
  rw [toInt64, isNaN_eq_false hx, if_neg Bool.false_ne_true, hclamp]
  exact Int64.toInt_ofInt_of_le (by omega) (by omega)

/-- Where a double stands for an integer, the integer has its sign and its
magnitude. -/
theorem integral?_eq_some {x : Double} {n : Int64} (h : x.integral? = some n) :
    (n.toInt < 0 ↔ x.isNegative = true) ∧ nearestBits n.toInt.natAbs 1 = x.magnitudeBits := by
  unfold integral? at h
  split at h
  · next hx =>
    simp only [Bool.and_eq_true, Bool.not_eq_true', Bool.and_eq_false_iff, decide_eq_true_eq] at hx
    obtain ⟨⟨⟨hfin, hwhole⟩, hlt⟩, hsign⟩ := hx
    have hbits := nearestBits_truncNat hfin hwhole
    cases h
    have habs := x.natAbs_trunc
    rw [toInt_toInt64 hfin hlt]
    refine ⟨⟨fun hneg => ?_, fun hneg => ?_⟩, by rw [habs, hbits]⟩
    · unfold trunc at hneg
      split at hneg
      · assumption
      · omega
    · have hzero : x.isZero = false := hsign.resolve_left (by simp [hneg])
      have hpos : x.truncNat ≠ 0 := by
        intro h0
        rw [h0, nearestBits, if_pos rfl] at hbits
        rw [isZero_iff.mpr hbits.symm] at hzero
        cases hzero
      rw [trunc, if_pos hneg]
      omega
  · cases h

end Double

/-! ## The text of a number -/

namespace Literal

/-- **The text of a finite number** is a numeral without an exponent, behind a
minus if the number is negative, and what is read from the numeral is the
magnitude of the number. -/
theorem exists_numberChars_eq {x : Double} (hx : x.isFinite = true) :
    ∃ whole fraction, Numeral.IsPointed whole fraction ∧
      numberChars x = (if x.isNegative then ['-'] else []) ++ Numeral.pointed whole fraction ∧
      IsNumeralOf (String.ofList (Numeral.pointed whole fraction))
        (Double.ofMagnitude false x.magnitudeBits) := by
  have hfinite : (Double.ofMagnitude false x.magnitudeBits).isFinite = true := by
    rwa [Double.isFinite_congr (Double.magnitudeBits_ofMagnitude false x.magnitudeBits_lt)]
  -- a numeral without an exponent is a decimal, so its value is enough
  suffices h : ∃ whole fraction, Numeral.IsPointed whole fraction ∧
      numberChars x = (if x.isNegative then ['-'] else []) ++ Numeral.pointed whole fraction ∧
      Double.ofDecimal false (Numeral.value (whole ++ fraction)) (-(fraction.length : Int)) =
        Double.ofMagnitude false x.magnitudeBits by
    obtain ⟨whole, fraction, hp, htext, hvalue⟩ := h
    refine ⟨whole, fraction, hp, htext, ?_, hfinite⟩
    rw [String.toList_ofList, Double.ofNumeral?, Numeral.decimal?_pointed hp, Option.map_some, hvalue]
  unfold numberChars
  split
  · next n hn =>
    obtain ⟨hsign, hbits⟩ := Double.integral?_eq_some hn
    refine ⟨decimalNat n.toInt.natAbs, [], ⟨Nat.toDigits_ne_nil, fun c => Numeral.isDigit_of_mem_toDigits,
      by simp⟩, ?_, ?_⟩
    · rw [Numeral.pointed, if_pos rfl, decimalInt]
      simp only [hsign]
      split <;> rfl
    · rw [List.append_nil, decimalNat, Numeral.value_toDigits, Double.ofDecimal_eq_ofRatio]
      simp [Double.ofRatio, hbits]
  · obtain ⟨whole, fraction, hp, htext, hvalue⟩ := (x.shortest .up).exists_positional_eq
    have hnan : ¬x.isNaN = true := by simp [Double.isNaN_eq_false hx]
    refine ⟨whole, fraction, hp, ?_, ?_⟩
    · rw [Double.plain, if_neg hnan, if_neg (by simp [hx]), htext]
      show (if x.isNegative then '-' :: _ else _) = _
      split <;> rfl
    · rw [hvalue, Double.ofDecimal_shortest hx]

end Literal

end QueryShell
