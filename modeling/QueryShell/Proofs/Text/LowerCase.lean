import Mathlib.Data.List.TakeWhile
import QueryShell.Text.LowerCase

/-!
# Lower case and the beginning of a text

The lower-case form of a text is not made character by character: what becomes
of a capital sigma depends on whether it ends a word, and so on what follows it.
All other characters are mapped by themselves. Therefore the form of a beginning
is the beginning of the form, with one exception: the beginning ends a word with
a capital sigma, and the word goes on behind it (`WordGoesOn`). The sigma then
has its final form in the beginning alone and its other form in the text.

## Main statements

* `Text.lowerFrom_isPrefix`: without the exception the form of a beginning is
  the beginning of the form.
* `Text.exists_lowerFrom_of_wordGoesOn`: in the exception the two forms differ
  in one character.
-/

namespace QueryShell.Text

/-- **A word that ends with a capital sigma goes on**: there is a capital sigma
behind a character that has a case, nothing that counts follows it in the text
`p`, and what follows `p` has a case. The text `before` stands in front of `p`,
reversed. -/
def WordGoesOn (before p r : List Char) : Prop :=
  ∃ a b, p = a ++ 'Σ' :: b ∧ startsCased (a.reverse ++ before) = true ∧
    (∀ c ∈ b, inSomeRange caseIgnorableRanges c = true) ∧ startsCased r = true

variable {before p r : List Char}

/-! ### The first character that counts -/

/-- A capital sigma has a case and is not skipped. -/
theorem startsCased_sigma (cs : List Char) : startsCased ('Σ' :: cs) = true := by
  have hcounts : inSomeRange caseIgnorableRanges 'Σ' = false := by decide +kernel
  have hcased : inSomeRange casedRanges 'Σ' = true := by decide +kernel
  rw [startsCased, List.dropWhile_cons_of_neg (by simp [hcounts])]
  exact hcased

/-- Characters that are looked through at the beginning leave the answer to what
follows them. -/
theorem startsCased_append_of_all {b : List Char}
    (hb : ∀ c ∈ b, inSomeRange caseIgnorableRanges c = true) (r : List Char) :
    startsCased (b ++ r) = startsCased r := by
  rw [startsCased, List.dropWhile_append_of_pos hb, startsCased]

/-- A text of characters that are all looked through has no cased character. -/
theorem startsCased_eq_false_of_all {b : List Char}
    (hb : ∀ c ∈ b, inSomeRange caseIgnorableRanges c = true) : startsCased b = false := by
  rw [← List.append_nil b, startsCased_append_of_all hb]
  rfl

/-- What follows a text is looked at if all of the text is skipped, and only
then. -/
theorem startsCased_append (b r : List Char) : startsCased (b ++ r) = startsCased b ∨
    (∀ c ∈ b, inSomeRange caseIgnorableRanges c = true) ∧ startsCased (b ++ r) = startsCased r := by
  by_cases hb : ∀ c ∈ b, inSomeRange caseIgnorableRanges c = true
  · exact .inr ⟨hb, startsCased_append_of_all hb r⟩
  · refine .inl ?_
    have hne : b.dropWhile (inSomeRange caseIgnorableRanges) ≠ [] := fun h =>
      hb (List.dropWhile_eq_nil_iff.mp h)
    obtain ⟨c, cs, hcs⟩ := List.exists_cons_of_ne_nil hne
    rw [startsCased, List.dropWhile_append, if_neg (by simpa using hne), startsCased, hcs]
    rfl

/-- Two texts with the same answer have the same answer behind any beginning. -/
theorem startsCased_append_congr {r r' : List Char} (h : startsCased r = startsCased r')
    (b : List Char) : startsCased (b ++ r) = startsCased (b ++ r') := by
  by_cases hb : ∀ c ∈ b, inSomeRange caseIgnorableRanges c = true
  · rw [startsCased_append_of_all hb, startsCased_append_of_all hb, h]
  · rcases startsCased_append b r with hr | ⟨hall, -⟩
    · rcases startsCased_append b r' with hr' | ⟨hall, -⟩
      · rw [hr, hr']
      · exact absurd hall hb
    · exact absurd hall hb

/-! ### The form of a beginning -/

/-- The form of a character, between the text before it and the text behind
it. -/
theorem lowerFrom_cons_congr {cs cs' : List Char} (h : startsCased cs = startsCased cs')
    (before : List Char) (c : Char) : ∃ w, lowerFrom before (c :: cs) = w ++ lowerFrom (c :: before) cs ∧
      lowerFrom before (c :: cs') = w ++ lowerFrom (c :: before) cs' := by
  refine ⟨_, rfl, ?_⟩
  rw [h]
  rfl

/-- A beginning has one form in front of texts that begin alike. -/
theorem exists_lowerFrom_append {r r' : List Char} (h : startsCased r = startsCased r')
    (before a : List Char) : ∃ w, lowerFrom before (a ++ r) = w ++ lowerFrom (a.reverse ++ before) r ∧
      lowerFrom before (a ++ r') = w ++ lowerFrom (a.reverse ++ before) r' := by
  induction a generalizing before with
  | nil => exact ⟨[], rfl, rfl⟩
  | cons c a ih =>
    obtain ⟨v, hv, hv'⟩ := lowerFrom_cons_congr (startsCased_append_congr h a) before c
    obtain ⟨w, hw, hw'⟩ := ih (c :: before)
    refine ⟨v ++ w, ?_, ?_⟩
    · rw [List.cons_append, hv, hw, List.reverse_cons, List.append_assoc, List.append_assoc,
        List.singleton_append]
    · rw [List.cons_append, hv', hw', List.reverse_cons, List.append_assoc, List.append_assoc,
        List.singleton_append]

/-- A capital sigma behind a cased character is written in the inner form iff a
cased character also follows it, and in the final form at the end of a word. -/
theorem lowerFrom_sigma {before cs : List Char} (h : startsCased before = true) :
    lowerFrom before ('Σ' :: cs) =
      (if startsCased cs = true then 'σ' else 'ς') :: lowerFrom ('Σ' :: before) cs := by
  rw [lowerFrom]
  cases startsCased cs <;> simp [h]

/-- **The form of a beginning is the beginning of the form**, unless a word that
ends the beginning with a capital sigma goes on behind it. -/
theorem lowerFrom_isPrefix (before : List Char) (h : ¬WordGoesOn before p r) :
    lowerFrom before p <+: lowerFrom before (p ++ r) := by
  induction p generalizing before with
  | nil => exact List.nil_prefix
  | cons c p ih =>
    have hrest : ¬WordGoesOn (c :: before) p r := by
      rintro ⟨a, b, rfl, hbefore, hb, hr⟩
      refine h ⟨c :: a, b, rfl, ?_, hb, hr⟩
      rwa [List.reverse_cons, List.append_assoc]
    by_cases hcased : startsCased (p ++ r) = startsCased p
    · obtain ⟨w, hw, hw'⟩ := lowerFrom_cons_congr hcased before c
      rw [List.cons_append, hw, hw']
      exact (List.prefix_append_right_inj w).mpr (ih _ hrest)
    · -- all of `p` is skipped, so `c` is no sigma that ends a word
      obtain ⟨hp, hr⟩ := (startsCased_append p r).resolve_left hcased
      have hopen : startsCased r = true := by
        rw [hr, startsCased_eq_false_of_all hp] at hcased
        exact eq_true_of_ne_false hcased
      have hform : ∀ cs, lowerFrom before (c :: cs) =
          (if c = 'Σ' then ['σ'] else lowerChar c) ++ lowerFrom (c :: before) cs := by
        intro cs
        have hfinal : ¬(c = 'Σ' ∧ startsCased before = true) := fun hc =>
          h ⟨[], p, by rw [hc.1]; rfl, hc.2, hp, hopen⟩
        rw [lowerFrom]
        by_cases hc : c = 'Σ'
        · have hbefore : startsCased before = false := by simpa [hc] using hfinal
          simp [hc, hbefore]
        · simp [hc]
      rw [List.cons_append, hform, hform]
      exact (List.prefix_append_right_inj _).mpr (ih _ hrest)

/-- **The form of a beginning that ends in a word that goes on** parts from the
form of the text at the last capital sigma. -/
theorem exists_lowerFrom_of_wordGoesOn (h : WordGoesOn before p r) : ∃ w u v,
    lowerFrom before p = w ++ 'ς' :: u ∧ lowerFrom before (p ++ r) = w ++ 'σ' :: v := by
  obtain ⟨a, b, rfl, hbefore, hb, hr⟩ := h
  have hsame : startsCased ('Σ' :: b) = startsCased ('Σ' :: (b ++ r)) := by
    rw [startsCased_sigma, startsCased_sigma]
  obtain ⟨w, hw, hw'⟩ := exists_lowerFrom_append hsame before a
  have hfinal : startsCased b = false := startsCased_eq_false_of_all hb
  have hinner : startsCased (b ++ r) = true := (startsCased_append_of_all hb r).trans hr
  refine ⟨w, lowerFrom ('Σ' :: (a.reverse ++ before)) b,
    lowerFrom ('Σ' :: (a.reverse ++ before)) (b ++ r), ?_, ?_⟩
  · rw [hw, lowerFrom_sigma hbefore, hfinal, if_neg Bool.false_ne_true]
  · rw [List.append_assoc, List.cons_append, hw', lowerFrom_sigma hbefore, hinner, if_pos rfl]

end QueryShell.Text
