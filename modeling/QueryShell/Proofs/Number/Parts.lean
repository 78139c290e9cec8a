import Mathlib.Data.List.TakeWhile
import QueryShell.Number.Decimal
import QueryShell.Proofs.Token.Scan

/-!
# The parts of a numeral

A numeral has three parts: digits, a fraction and an exponent, and the last two
may be missing. The scanner of tokens cuts a numeral out of a text, and
`Numeral.decimal?` reads its value later. Each of the two finds the parts by
itself. Here both are tied to the same relations, so that what the scanner takes
for a numeral is always one that has a value.

## Main statements

* `Numeral.numeral_parts`: the scanner takes all parts.
* `Numeral.decimal?_parts`: the value is that of the parts.
* `Numeral.exists_parts`: the scanner takes nothing that has no parts.
-/

namespace QueryShell.Numeral

open Text Lexeme

/-- **The fraction of a numeral**, with its digits; it may be missing. A point
without a digit behind it is none. -/
inductive Fraction : List Char → List Char → Prop
  | none : Fraction [] []
  | some {ds : List Char} (hne : ds ≠ []) (hds : ∀ c ∈ ds, c.isDigit = true) : Fraction ('.' :: ds) ds

/-- **The exponent of a numeral**, with the power of ten; it may be missing. Its
letter is small or capital, and a sign may stand behind the letter. -/
inductive Exponent : List Char → Int → Prop
  | none : Exponent [] 0
  | plain {e : Char} {ds : List Char} (he : e = 'e' ∨ e = 'E') (hne : ds ≠ [])
    (hds : ∀ c ∈ ds, c.isDigit = true) : Exponent (e :: ds) (value ds)
  | plus {e : Char} {ds : List Char} (he : e = 'e' ∨ e = 'E') (hne : ds ≠ [])
    (hds : ∀ c ∈ ds, c.isDigit = true) : Exponent (e :: '+' :: ds) (value ds)
  | minus {e : Char} {ds : List Char} (he : e = 'e' ∨ e = 'E') (hne : ds ≠ [])
    (hds : ∀ c ∈ ds, c.isDigit = true) : Exponent (e :: '-' :: ds) (-(value ds : Int))

variable {w f ds t : List Char} {e : Int}

theorem takeWhile_digits (hds : ∀ c ∈ ds, c.isDigit = true) : ds.takeWhile Char.isDigit = ds :=
  List.takeWhile_eq_self_iff.mpr hds

theorem isDigit_takeWhile (cs : List Char) : ∀ c ∈ cs.takeWhile Char.isDigit, c.isDigit = true :=
  List.all_eq_true.mp List.all_takeWhile

theorem isDigit_cons_takeWhile {d : Char} (hd : d.isDigit = true) (cs : List Char) :
    ∀ c ∈ d :: cs.takeWhile Char.isDigit, c.isDigit = true :=
  List.forall_mem_cons.mpr ⟨hd, isDigit_takeWhile cs⟩

/-! ## The exponent -/

/-- An exponent, if there is one, begins with the letter `e` or `E`. -/
theorem Exponent.headNot {p : Char → Bool} (h : Exponent t e) (he : p 'e' = false)
    (hE : p 'E' = false) : HeadNot p t := by
  cases h with
  | none => exact headNot_nil
  | plain hc | plus hc | minus hc =>
    refine headNot_cons.mpr ?_
    rcases hc with rfl | rfl
    · exact he
    · exact hE

/-- The scanner of exponents takes the whole of it. -/
theorem Exponent.exponent_eq (h : Exponent t e) : Lexeme.exponent t = t := by
  cases h with
  | none => rfl
  | @plain c ds hc hne hds =>
    obtain ⟨d, ds, rfl⟩ := List.exists_cons_of_ne_nil hne
    obtain ⟨hd, hds⟩ := List.forall_mem_cons.mp hds
    simp [Lexeme.exponent, hc, hd, takeWhile_digits hds]
  | @plus c ds hc hne hds | @minus c ds hc hne hds =>
    obtain ⟨d, ds, rfl⟩ := List.exists_cons_of_ne_nil hne
    obtain ⟨hd, hds⟩ := List.forall_mem_cons.mp hds
    simp [Lexeme.exponent, hc, hd, takeWhile_digits hds]

/-- An exponent is read as its power of ten. -/
theorem Exponent.exponent?_eq (h : Exponent t e) : exponent? t = some e := by
  cases h with
  | none => rfl
  | @plain c ds hc hne hds =>
    obtain ⟨d, ds, rfl⟩ := List.exists_cons_of_ne_nil hne
    have hd : d.isDigit = true := hds d List.mem_cons_self
    have hall : (d :: ds).all Char.isDigit = true := List.all_eq_true.mpr hds
    have hplus : d ≠ '+' := ne_of_apply_ne hd rfl
    have hminus : d ≠ '-' := ne_of_apply_ne hd rfl
    simp [exponent?, hc, hall, hplus, hminus]
  | @plus c ds hc hne hds | @minus c ds hc hne hds =>
    have hall : ds.all Char.isDigit = true := List.all_eq_true.mpr hds
    simp [exponent?, hc, hall, hne]

/-- What the scanner takes for an exponent is one. -/
theorem exists_exponent (cs : List Char) : ∃ e, Exponent (Lexeme.exponent cs) e := by
  unfold Lexeme.exponent
  split
  · next c d rest =>
    split
    · next hc =>
      split
      · next hd => exact ⟨_, .plain hc (List.cons_ne_nil _ _) (isDigit_cons_takeWhile hd rest)⟩
      · split
        · next hsign =>
          split
          · next d' rest' =>
            split
            · next hd' =>
              rcases hsign with rfl | rfl
              · exact ⟨_, .plus hc (List.cons_ne_nil _ _) (isDigit_cons_takeWhile hd' rest')⟩
              · exact ⟨_, .minus hc (List.cons_ne_nil _ _) (isDigit_cons_takeWhile hd' rest')⟩
            · exact ⟨0, .none⟩
          · exact ⟨0, .none⟩
        · exact ⟨0, .none⟩
    · exact ⟨0, .none⟩
  · exact ⟨0, .none⟩

/-! ## The fraction -/

/-- The scanner of fractions takes the whole of it. -/
theorem Fraction.fraction_eq (hf : Fraction f ds) (he : Exponent t e) :
    Lexeme.fraction (f ++ t) = f := by
  cases hf with
  | none =>
    have hdot : HeadNot (· == '.') t := he.headNot rfl rfl
    rw [List.nil_append]
    unfold Lexeme.fraction
    split
    · exact absurd (headNot_cons.mp hdot) (by decide)
    · rfl
  | some hne hds =>
    obtain ⟨d, ds, rfl⟩ := List.exists_cons_of_ne_nil hne
    obtain ⟨hd, hds⟩ := List.forall_mem_cons.mp hds
    have hdigit : HeadNot Char.isDigit t := he.headNot rfl rfl
    simp [Lexeme.fraction, hd, takeWhile_append_of_headNot hdigit, takeWhile_digits hds]

/-- No digit follows the whole part of a numeral: a point, an exponent or
nothing does. -/
theorem Fraction.headNot_isDigit (hf : Fraction f ds) (he : Exponent t e) :
    HeadNot Char.isDigit (f ++ t) := by
  cases hf with
  | none => exact he.headNot rfl rfl
  | some _ _ => exact headNot_cons.mpr rfl

/-- What the scanner takes for a fraction is one. -/
theorem exists_fraction (cs : List Char) : ∃ ds, Fraction (Lexeme.fraction cs) ds := by
  unfold Lexeme.fraction
  split
  · next d rest =>
    split
    · next hd => exact ⟨_, .some (List.cons_ne_nil _ _) (isDigit_cons_takeWhile hd rest)⟩
    · exact ⟨[], .none⟩
  · exact ⟨[], .none⟩

/-! ## The whole numeral -/

/-- **The scanner of numerals takes all parts.** What may stand behind them is a
matter of `numeral_append_of_headNot`. -/
theorem numeral_parts (hw : ∀ c ∈ w, c.isDigit = true) (hf : Fraction f ds) (he : Exponent t e) :
    Lexeme.numeral (w ++ (f ++ t)) = w ++ (f ++ t) := by
  have htake : (w ++ (f ++ t)).takeWhile Char.isDigit = w := by
    rw [takeWhile_append_of_headNot (hf.headNot_isDigit he), takeWhile_digits hw]
  unfold Lexeme.numeral
  dsimp only
  rw [htake, List.drop_left, hf.fraction_eq he, List.drop_left, he.exponent_eq, List.append_assoc]

/-- **What a numeral stands for**: all its digits, with the places of the
fraction taken back from the power of ten. -/
theorem decimal?_parts (hne : w ≠ []) (hw : ∀ c ∈ w, c.isDigit = true) (hf : Fraction f ds)
    (he : Exponent t e) :
    decimal? (w ++ (f ++ t)) = some ⟨value (w ++ ds), e - ds.length⟩ := by
  have htake : (w ++ (f ++ t)).takeWhile Char.isDigit = w := by
    rw [takeWhile_append_of_headNot (hf.headNot_isDigit he), takeWhile_digits hw]
  have hdrop : (w ++ (f ++ t)).dropWhile Char.isDigit = f ++ t := by
    rw [dropWhile_append_of_headNot (hf.headNot_isDigit he), List.dropWhile_eq_nil_iff.mpr hw,
      List.nil_append]
  have hempty : w.isEmpty = false := by simpa using hne
  have hdigit : HeadNot Char.isDigit t := he.headNot rfl rfl
  unfold decimal?
  dsimp only
  rw [htake, hdrop, hempty, if_neg Bool.false_ne_true]
  cases hf with
  | none =>
    have hdot : HeadNot (· == '.') t := he.headNot rfl rfl
    rw [List.nil_append]
    split
    · exact absurd (headNot_cons.mp hdot) (by decide)
    · dsimp only
      rw [he.exponent?_eq]
      rfl
  | some _ hds =>
    rw [List.cons_append]
    simp only [takeWhile_append_of_headNot hdigit, takeWhile_digits hds,
      dropWhile_append_of_headNot hdigit, List.dropWhile_eq_nil_iff.mpr hds, List.nil_append,
      he.exponent?_eq, Option.map_some]

/-- **The scanner takes nothing for a numeral that has no parts.** Behind a
first digit it takes digits, a fraction and an exponent, the last two perhaps
empty. -/
theorem exists_parts {c : Char} (hc : c.isDigit = true) (cs : List Char) :
    ∃ w f ds t e, w ≠ [] ∧ (∀ d ∈ w, d.isDigit = true) ∧ Fraction f ds ∧ Exponent t e ∧
      Lexeme.numeral (c :: cs) = w ++ (f ++ t) := by
  unfold Lexeme.numeral
  dsimp only
  obtain ⟨ds, hf⟩ := exists_fraction ((c :: cs).drop ((c :: cs).takeWhile Char.isDigit).length)
  obtain ⟨e, he⟩ := exists_exponent (((c :: cs).drop ((c :: cs).takeWhile Char.isDigit).length).drop
    (Lexeme.fraction ((c :: cs).drop ((c :: cs).takeWhile Char.isDigit).length)).length)
  refine ⟨_, _, ds, _, e, ?_, isDigit_takeWhile (c :: cs), hf, he, List.append_assoc _ _ _⟩
  rw [List.takeWhile_cons_of_pos hc]
  exact List.cons_ne_nil _ _

/-- **Whatever the scanner takes for a numeral has a value.** The two are tied
to the same parts, though neither looks at the other. -/
theorem isSome_decimal?_numeral {c : Char} (hc : c.isDigit = true) (cs : List Char) :
    (decimal? (Lexeme.numeral (c :: cs))).isSome = true := by
  obtain ⟨w, f, ds, t, e, hne, hw, hf, he, h⟩ := exists_parts hc cs
  rw [h, decimal?_parts hne hw hf he]
  rfl

end QueryShell.Numeral
