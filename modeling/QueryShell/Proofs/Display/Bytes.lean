import QueryShell.Display.Bytes
import QueryShell.Proofs.Number.Binade
import QueryShell.Proofs.Number.Places

/-!
# What readable sizes say

A number of bytes is made into a double, divided by 1024 until it is below the
next unit, and written with two decimal places. Two of these three steps round.
The division does not, so that the amount in its unit is the rounded number of
bytes, exactly, and at least one and below 1024 (`isReduced_ofInt`).

The decimal places are rounded when the unit is already found. An amount that is
half a hundredth below the next unit, or less, is rounded up to 1024 of its own
and not written as one of the next (`text_normal`). The order of sizes does not
suffer: 1024 of a unit is the least amount of the next one (`shown_le_shown`).

## Main statements

* `text_normal`: the readable form of a number of bytes.
* `shown_le_shown`: readable forms are in the order of the numbers.
-/

namespace QueryShell.ByteSize

open Numeral Text

/-! ## Units -/

/-- **An amount in the largest unit that it reaches**, of the units up to
`greater`. It is not below one in that unit, and below the next unit if there is
one. -/
structure IsReduced (greater : Nat) (x : Double) (unit : Nat) (y : Double) : Prop where
  unit_le : unit ≤ greater
  isNegative : y.isNegative = false
  value_eq : y.value = x.value / 1024 ^ unit
  one_le : 1 ≤ y.value
  lt_of_lt : unit < greater → y.value < 1024

/-- **Dividing finds the unit**, and nothing is rounded on the way. A double of
one or more has room below for the ten places that each division takes off its
exponent. -/
theorem isReduced_reduce (greater : Nat) {x : Double} (hfin : x.isFinite = true)
    (hneg : x.isNegative = false) (hone : 1 ≤ x.value) :
    IsReduced greater x (reduce greater x).1 (reduce greater x).2 := by
  induction greater generalizing x with
  | zero => exact ⟨le_rfl, hneg, by simp [reduce], hone, fun h => absurd h (lt_irrefl 0)⟩
  | succ greater ih =>
    have habs := Double.value_eq_abs hneg
    unfold reduce
    split
    · next hle =>
      rw [Double.le_truncNat_iff, ← habs, Nat.cast_ofNat] at hle
      have he : 10 < x.exponentField := by
        have := Double.lt_exponentField_of_one_le (habs ▸ hone)
        omega
      obtain ⟨hfin', hneg', hvalue⟩ : (x.divNat 1024).isFinite = true ∧
          (x.divNat 1024).isNegative = x.isNegative ∧ (x.divNat 1024).value = x.value / 1024 := by
        have hdiv := Double.divNat_two_pow hfin he
        norm_num at hdiv
        exact hdiv
      have hone' : 1 ≤ (x.divNat 1024).value := by
        rw [hvalue, one_le_div₀ (by norm_num)]
        exact hle
      have hr := ih hfin' (hneg'.trans hneg) hone'
      refine ⟨Nat.succ_le_succ hr.unit_le, hr.isNegative, ?_, hr.one_le,
        fun hlt => hr.lt_of_lt (Nat.lt_of_succ_lt_succ hlt)⟩
      rw [hr.value_eq, hvalue, div_div, pow_succ']
    · next hlt =>
      rw [Double.le_truncNat_iff, ← habs, not_le, Nat.cast_ofNat] at hlt
      exact ⟨Nat.zero_le _, hneg, by simp, hone, fun _ => hlt⟩

/-- An amount in its unit is the number that was reduced. -/
theorem IsReduced.value_eq_mul {greater unit : Nat} {x y : Double} (h : IsReduced greater x unit y) :
    x.value = y.value * 1024 ^ unit := by
  rw [h.value_eq, div_mul_cancel₀ _ (by positivity)]

/-- The number of bytes as a double. -/
def rounded (bytes : UInt64) : ℚ :=
  (Double.ofInt bytes.toNat).value

theorem rounded_mono {a b : UInt64} (h : a ≤ b) : rounded a ≤ rounded b :=
  Double.value_ofInt_mono (UInt64.le_iff_toNat_le.mp h)

/-- One byte or more is at least one as a double. -/
theorem one_le_rounded {bytes : UInt64} (h : bytes ≠ 0) : 1 ≤ rounded bytes := by
  have hpos : 2 ^ 0 ≤ bytes.toNat := by
    refine Nat.pos_of_ne_zero fun h0 => h ?_
    exact UInt64.toNat_inj.mp h0
  have hle := Double.value_ofInt_mono hpos
  rw [(Double.ofInt_two_pow (by norm_num)).2, pow_zero] at hle
  exact hle

/-- As a double, no number of bytes exceeds two to the sixty-fourth. That bound
itself is reached, since the greatest numbers are rounded up. -/
theorem rounded_le (bytes : UInt64) : rounded bytes ≤ 2 ^ 64 := by
  have hle := Double.value_ofInt_mono bytes.toNat_lt.le
  rwa [(Double.ofInt_two_pow (by norm_num)).2] at hle

/-- **No number of bytes reaches the greatest unit**, so that an amount is
always below the next one. The greatest number of bytes rounds to sixteen `EB`,
and there are two units above these. -/
theorem isReduced_ofInt {bytes : UInt64} (h : bytes ≠ 0) :
    let r := reduce (units.length - 1) (Double.ofInt bytes.toNat)
    IsReduced (units.length - 1) (Double.ofInt bytes.toNat) r.1 r.2 ∧ r.1 < units.length - 1 := by
  have hr := isReduced_reduce (units.length - 1) (Double.isFinite_ofInt bytes.toNat_lt.le (by norm_num))
    (Double.isNegative_ofInt _) (one_le_rounded h)
  refine ⟨hr, lt_of_le_of_ne hr.unit_le fun heq => ?_⟩
  have hone := hr.one_le
  rw [hr.value_eq, heq, one_le_div₀ (by positivity)] at hone
  exact absurd (hone.trans (rounded_le bytes)) (by norm_num [units])

/-! ## Hundredths -/

section

variable {y : Double} (hy : y.isNegative = false)

include hy

/-- Two decimal places are off by five thousandths at most. -/
theorem abs_hundredths_sub_le : |(y.inPlaces 2 : ℚ) / 100 - y.value| ≤ 5 / 1000 := by
  have hclose := Double.abs_inPlaces_sub_le 2 y
  rw [← Double.value_eq_abs hy, abs_le] at hclose
  rw [abs_le]
  constructor <;> linarith

/-- An amount of one or more is shown as one or more. -/
theorem one_le_hundredths (h : 1 ≤ y.value) : 1 ≤ (y.inPlaces 2 : ℚ) / 100 := by
  have hle : 100 ≤ y.inPlaces 2 := by
    refine Double.le_inPlaces ?_
    rw [← Double.value_eq_abs hy]
    push_cast
    linarith
  rw [one_le_div₀ (by norm_num)]
  exact_mod_cast hle

/-- An amount up to 1024 is shown as 1024 at most. -/
theorem hundredths_le (h : y.value ≤ 1024) : (y.inPlaces 2 : ℚ) / 100 ≤ 1024 := by
  have hle : y.inPlaces 2 ≤ 102400 := by
    refine Double.inPlaces_le ?_
    rw [← Double.value_eq_abs hy]
    push_cast
    linarith
  have hle' : (y.inPlaces 2 : ℚ) ≤ 102400 := by exact_mod_cast hle
  linarith

/-- An amount is rounded up to the next unit from half a hundredth below it
on. -/
theorem hundredths_lt_iff : (y.inPlaces 2 : ℚ) / 100 < 1024 ↔ y.value < 1023995 / 1000 := by
  have hle : 102400 ≤ y.inPlaces 2 ↔ 2 * ((102400 : Nat) : ℚ) ≤ 2 * (y.value * 10 ^ 2) + 1 := by
    rw [Double.value_eq_abs hy]
    exact Double.le_inPlaces_iff_of_even (by decide)
  have hcast : (1024 : ℚ) ≤ y.inPlaces 2 / 100 ↔ 102400 ≤ y.inPlaces 2 := by
    rw [le_div_iff₀ (by norm_num)]
    norm_num
  rw [← not_le, ← not_le, not_iff_not, hcast, hle]
  push_cast
  constructor <;> intro h <;> linarith

end

/-! ## Readable forms -/

/-- **A size in its readable form**: a number with at most two decimal places,
without zeros in front or at the end, and the unit with the given index. -/
structure IsSize (text : String) (whole fraction : List Char) (unit : Nat) : Prop where
  isPointed : IsPointed whole fraction
  whole_eq : whole = decimalNat (value whole)
  length_fraction_le : fraction.length ≤ 2
  getLast?_fraction : fraction.getLast? ≠ some '0'
  unit_lt : unit < units.length
  text_eq : text = String.ofList (pointed whole fraction) ++ " " ++ units.getD unit ""

/-- An amount is written with the decimal places that it is rounded to. -/
theorem exists_amountChars_eq {y : Double} (hy : y.isNegative = false) :
    ∃ whole fraction, IsPointed whole fraction ∧ whole = decimalNat (value whole) ∧
      fraction.length ≤ 2 ∧ fraction.getLast? ≠ some '0' ∧ amountChars y = pointed whole fraction ∧
      amount whole fraction = y.inPlaces 2 / 100 := by
  obtain ⟨fraction, hp, hlen, hvalue, hfixed⟩ := Double.exists_fixed_eq hy two_ne_zero
  refine ⟨_, dropEndWhile (· == '0') fraction, hp.dropEndWhile _, ?_, ?_, fun h => ?_, ?_, ?_⟩
  · exact congrArg decimalNat (value_toDigits _).symm
  · obtain ⟨t, ht, -⟩ := dropEndWhile_append_rest (· == '0') fraction
    have := congrArg List.length ht
    rw [List.length_append] at this
    omega
  · exact absurd (getLast?_dropEndWhile h) (by decide)
  · rw [amountChars, hfixed, dropEndWhile_pointed hp]
  · rw [amount_dropEndWhile, amount, hvalue, hlen]
    norm_num

/-- **The readable form of a number of bytes**, with the amount that it was made
from. What has still to be said of the amount is only how it was rounded. -/
theorem exists_isSize {bytes : UInt64} (h : bytes ≠ 0) :
    ∃ whole fraction unit y, IsSize (text bytes) whole fraction unit ∧
      IsReduced (units.length - 1) (Double.ofInt bytes.toNat) unit y ∧ y.value < 1024 ∧
      amount whole fraction = y.inPlaces 2 / 100 := by
  obtain ⟨hr, hlt⟩ := isReduced_ofInt h
  obtain ⟨whole, fraction, hp, hwhole, hlen, hlast, hchars, hamount⟩ :=
    exists_amountChars_eq hr.isNegative
  refine ⟨whole, fraction, _, _, ⟨hp, hwhole, hlen, hlast, by omega, ?_⟩, hr, hr.lt_of_lt hlt, hamount⟩
  rw [← hchars, text, if_neg h]

theorem isSize_zero : IsSize (text 0) ['0'] [] 0 where
  isPointed := ⟨List.cons_ne_nil _ _, by simp, by simp⟩
  whole_eq := by decide
  length_fraction_le := by decide
  getLast?_fraction := by decide
  unit_lt := by decide
  text_eq := by decide

/-! ## Readable forms read back -/

variable {t : String} {whole fraction : List Char} {unit : Nat}

/-- Reads a readable form: the number, and the index of the unit. -/
def read? (text : String) : Option (Decimal × Nat) := do
  let number ← decimal? (text.toList.takeWhile (· ≠ ' '))
  let unit ← units.idxOf? (String.ofList ((text.toList.dropWhile (· ≠ ' ')).drop 1))
  return (number, unit)

/-- The number of bytes that a readable form shows. -/
def shown? (text : String) : Option ℚ :=
  (read? text).map fun (number, unit) => number.digits * 10 ^ number.exponent * 1024 ^ unit

theorem ne_blank_of_mem_pointed (h : IsPointed whole fraction) {c : Char}
    (hc : c ∈ pointed whole fraction) : c ≠ ' ' := by
  have hdigit {d : Char} (hd : d.isDigit = true) : d ≠ ' ' := Lexeme.ne_of_apply_ne hd rfl
  unfold pointed at hc
  split at hc
  · exact hdigit (h.isDigit_whole c hc)
  · rcases List.mem_append.mp hc with hc | hc
    · exact hdigit (h.isDigit_whole c hc)
    · rcases List.mem_cons.mp hc with rfl | hc
      · decide
      · exact hdigit (h.isDigit_fraction c hc)

/-- A readable form is read back as the number and the unit that it was made
of. -/
theorem IsSize.read?_eq (h : IsSize t whole fraction unit) :
    read? t = some (⟨value (whole ++ fraction), -(fraction.length : Int)⟩, unit) := by
  have hblank : ∀ c ∈ pointed whole fraction, decide (c ≠ ' ') = true :=
    fun c hc => decide_eq_true (ne_blank_of_mem_pointed h.isPointed hc)
  have hstop : HeadNot (fun c => decide (c ≠ ' ')) (' ' :: (units.getD unit "").toList) :=
    headNot_cons.mpr (by decide)
  have htext : t.toList = pointed whole fraction ++ ' ' :: (units.getD unit "").toList := by
    rw [h.text_eq]
    simp
  have hunit : ∀ unit < units.length, units.idxOf? (units.getD unit "") = some unit := by decide
  rw [read?, htext, takeWhile_append_of_headNot hstop, dropWhile_append_of_headNot hstop,
    List.takeWhile_eq_self_iff.mpr hblank, List.dropWhile_eq_nil_iff.mpr hblank, List.nil_append,
    List.drop_succ_cons, List.drop_zero, String.ofList_toList, hunit unit h.unit_lt,
    decimal?_pointed h.isPointed]
  rfl

/-- **A readable form shows its number times its unit.** A text has at most one
such reading, so that what it shows does not depend on how it was made. -/
theorem IsSize.shown?_eq (h : IsSize t whole fraction unit) :
    shown? t = some (amount whole fraction * 1024 ^ unit) := by
  rw [shown?, h.read?_eq, Option.map_some]
  dsimp only
  rw [amount, zpow_neg, zpow_natCast, ← div_eq_mul_inv]

/-- The text of a size decides on its amount and its unit. -/
theorem IsSize.amount_eq {whole' fraction' : List Char} {unit' : Nat}
    (h : IsSize t whole fraction unit) (h' : IsSize t whole' fraction' unit') :
    unit = unit' ∧ amount whole fraction = amount whole' fraction' := by
  have heq := h.read?_eq.symm.trans h'.read?_eq
  rw [Option.some_inj, Prod.mk.injEq, Decimal.mk.injEq] at heq
  obtain ⟨⟨hvalue, hlength⟩, hunit⟩ := heq
  refine ⟨hunit, ?_⟩
  rw [amount, amount, hvalue, show fraction.length = fraction'.length by omega]

/-! ## Normal forms -/

/-- **The readable form of a number of bytes** has the largest unit that the
rounded number reaches, and its amount is off by half a hundredth of that unit
at most. It is at least one, and below 1024 unless the number is half a
hundredth below the next unit or less; then it is 1024. -/
theorem text_normal {bytes : UInt64} (h : bytes ≠ 0) :
    ∃ whole fraction unit, IsSize (text bytes) whole fraction unit ∧
      1024 ^ unit ≤ rounded bytes ∧ rounded bytes < 1024 ^ (unit + 1) ∧
      |amount whole fraction * 1024 ^ unit - rounded bytes| ≤ 5 / 1000 * 1024 ^ unit ∧
      1 ≤ amount whole fraction ∧ amount whole fraction ≤ 1024 ∧
      (amount whole fraction < 1024 ↔ rounded bytes < 1023995 / 1000 * 1024 ^ unit) := by
  obtain ⟨whole, fraction, unit, y, hsize, hr, hlt, hamount⟩ := exists_isSize h
  have hunit : (0 : ℚ) < 1024 ^ unit := by positivity
  have hrounded : rounded bytes = y.value * 1024 ^ unit := hr.value_eq_mul
  refine ⟨whole, fraction, unit, hsize, ?_, ?_, ?_, ?_, ?_, ?_⟩
  · rw [hrounded]
    exact le_mul_of_one_le_left hunit.le hr.one_le
  · rw [hrounded, pow_succ']
    exact mul_lt_mul_of_pos_right hlt hunit
  · rw [hrounded, ← sub_mul, abs_mul, abs_of_pos hunit, hamount]
    exact mul_le_mul_of_nonneg_right (abs_hundredths_sub_le hr.isNegative) hunit.le
  · rw [hamount]
    exact one_le_hundredths hr.isNegative hr.one_le
  · rw [hamount]
    exact hundredths_le hr.isNegative hlt.le
  · rw [hamount, hundredths_lt_iff hr.isNegative, hrounded, mul_lt_mul_iff_left₀ hunit]

/-- A number of bytes in kilobytes. -/
theorem text_normal_kilobytes :
    (1536 : UInt64) ≠ 0 ∧ text 1536 = "1.5 KB" ∧
    ∃ whole fraction unit, IsSize (text 1536) whole fraction unit ∧
      1024 ^ unit ≤ rounded 1536 ∧ rounded 1536 < 1024 ^ (unit + 1) ∧
      |amount whole fraction * 1024 ^ unit - rounded 1536| ≤ 5 / 1000 * 1024 ^ unit ∧
      1 ≤ amount whole fraction ∧ amount whole fraction ≤ 1024 ∧
      (amount whole fraction < 1024 ↔ rounded 1536 < 1023995 / 1000 * 1024 ^ unit) :=
  ⟨by decide, by decide, text_normal (by decide)⟩

/-- A size is written as 1024 kilobytes, which is no megabyte. -/
theorem not_text_normal :
    ¬∀ bytes : UInt64, bytes ≠ 0 → ∃ whole fraction unit, IsSize (text bytes) whole fraction unit ∧
      1 ≤ amount whole fraction ∧ amount whole fraction < 1024 ∧
      |amount whole fraction * 1024 ^ unit - rounded bytes| ≤ 5 / 1000 * 1024 ^ unit := by
  intro hclaim
  obtain ⟨whole, fraction, unit, hsize, -, hlt, -⟩ := hclaim 1048575 (by decide)
  have hsize' : IsSize (text 1048575) ['1', '0', '2', '4'] [] 1 :=
    ⟨⟨List.cons_ne_nil _ _, by simp, by simp⟩, by decide, by decide, by decide, by decide, by decide⟩
  have hamount : amount ['1', '0', '2', '4'] [] = 1024 := by
    norm_num [amount, show value ['1', '0', '2', '4'] = 1024 from rfl]
  rw [(hsize.amount_eq hsize').2, hamount] at hlt
  exact lt_irrefl _ hlt

/-! ## The order of readable forms -/

/-- What is shown is the amount in its unit, in whole hundredths. -/
theorem exists_shown?_eq {bytes : UInt64} (h : bytes ≠ 0) :
    ∃ unit y, IsReduced (units.length - 1) (Double.ofInt bytes.toNat) unit y ∧ y.value < 1024 ∧
      shown? (text bytes) = some ((y.inPlaces 2 : ℚ) / 100 * 1024 ^ unit) := by
  obtain ⟨whole, fraction, unit, y, hsize, hr, hlt, hamount⟩ := exists_isSize h
  exact ⟨unit, y, hr, hlt, by rw [hsize.shown?_eq, hamount]⟩

theorem shown?_zero : shown? (text 0) = some 0 := by
  have hzero : amount ['0'] [] = 0 := by norm_num [amount, show value ['0'] = 0 from rfl]
  rw [isSize_zero.shown?_eq, hzero, zero_mul]

/-- In readable form amounts keep their order. In one unit their hundredths do,
and an amount in a lower unit is rounded up to one of the next unit at most. -/
theorem shown_le_of_isReduced {a b x y : Double} {greater unit unit' : Nat}
    (ha : IsReduced greater a unit x) (hb : IsReduced greater b unit' y) (hx : x.value < 1024)
    (hy : y.value < 1024) (hle : a.value ≤ b.value) :
    (x.inPlaces 2 : ℚ) / 100 * 1024 ^ unit ≤ y.inPlaces 2 / 100 * 1024 ^ unit' := by
  have hstep {m n : Nat} (h : m < n) : (1024 : ℚ) * 1024 ^ m ≤ 1024 ^ n := by
    rw [← pow_succ']
    exact pow_le_pow_right₀ (by norm_num) h
  rcases lt_trichotomy unit unit' with hlt | rfl | hgt
  · calc (x.inPlaces 2 : ℚ) / 100 * 1024 ^ unit ≤ 1024 * 1024 ^ unit := by
          gcongr
          exact hundredths_le ha.isNegative hx.le
      _ ≤ 1 * 1024 ^ unit' := by
        rw [one_mul]
        exact hstep hlt
      _ ≤ y.inPlaces 2 / 100 * 1024 ^ unit' := by
        gcongr
        exact one_le_hundredths hb.isNegative hb.one_le
  · have hxy : x.value ≤ y.value := by
      rw [ha.value_eq, hb.value_eq]
      gcongr
    rw [Double.value_eq_abs ha.isNegative, Double.value_eq_abs hb.isNegative] at hxy
    gcongr
    exact Double.inPlaces_mono hxy 2
  · -- the other amount would be the larger one
    have hba : b.value < a.value := by
      calc b.value = y.value * 1024 ^ unit' := hb.value_eq_mul
        _ < 1024 * 1024 ^ unit' := by gcongr
        _ ≤ 1 * 1024 ^ unit := by
          rw [one_mul]
          exact hstep hgt
        _ ≤ x.value * 1024 ^ unit := by
          gcongr
          exact ha.one_le
        _ = a.value := ha.value_eq_mul.symm
    exact absurd hle hba.not_ge

/-- **Sizes in readable form are never in the wrong order**: of two numbers of
bytes, the greater one does not show less. -/
theorem shown_le_shown {a b : UInt64} (h : a ≤ b) :
    ∃ x y, shown? (text a) = some x ∧ shown? (text b) = some y ∧ x ≤ y := by
  by_cases hb : b = 0
  · have ha : a = 0 := UInt64.le_antisymm (hb ▸ h) UInt64.zero_le
    rw [ha, hb]
    exact ⟨0, 0, shown?_zero, shown?_zero, le_rfl⟩
  obtain ⟨unit', y, hy, hylt, hshown'⟩ := exists_shown?_eq hb
  by_cases ha : a = 0
  · rw [ha]
    exact ⟨0, _, shown?_zero, hshown', by positivity⟩
  obtain ⟨unit, x, hx, hxlt, hshown⟩ := exists_shown?_eq ha
  exact ⟨_, _, hshown, hshown', shown_le_of_isReduced hx hy hxlt hylt (rounded_mono h)⟩

/-- On both sides of a megabyte the same is shown, in different units. -/
theorem shown_le_shown_megabyte :
    (1048575 : UInt64) ≤ 1048576 ∧ text 1048575 = "1024 KB" ∧ text 1048576 = "1 MB" ∧
    ∃ x y, shown? (text 1048575) = some x ∧ shown? (text 1048576) = some y ∧ x ≤ y :=
  ⟨by decide, by decide, by decide, shown_le_shown (by decide)⟩

end QueryShell.ByteSize
