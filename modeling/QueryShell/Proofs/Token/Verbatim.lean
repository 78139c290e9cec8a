import Mathlib.Data.Option.Basic
import QueryShell.Proofs.Token.Scan

/-!
# Texts that stand for themselves in a string

A text can be put between two quotes as it stands if the string that is read
there has it as its value. Most texts can. One that has the quote in it cannot,
since the string ends there, and one that has a backslash in it cannot either,
with one exception: a backslash before `u` stays as it is unless four
hexadecimal digits follow that name a character.

That no other texts can is shown by counting. Each escape takes more characters
of the text than it adds to the value, so a string whose value is its text has
no escape in it (`length_value_lt`).

## Main statements

* `Lexeme.readQuoted_append_quote_iff`: which texts stand for themselves.
-/

namespace QueryShell.Lexeme

open Text

/-- **A text that stands for itself between two quotes**: there is no quote in
it, and no backslash but before a `u` that no code of a character follows. -/
inductive Verbatim (quote : Char) : List Char → Prop
  | nil : Verbatim quote []
  | plain {c : Char} {cs : List Char} (hq : c ≠ quote) (hs : c ≠ '\\') (h : Verbatim quote cs) :
      Verbatim quote (c :: cs)
  | noCode {cs : List Char}
      (hcs : ∀ h₁ h₂ h₃ h₄ rest, cs = h₁ :: h₂ :: h₃ :: h₄ :: rest → charOfHex? h₁ h₂ h₃ h₄ = none)
      (h : Verbatim quote cs) : Verbatim quote ('\\' :: 'u' :: cs)

variable {quote : Char} {cs rest : List Char}

/-- The closing quote adds nothing to the value. -/
theorem length_value_lt (h : (readQuoted quote cs).closed = true) :
    (readQuoted quote cs).value.length < (readQuoted quote cs).text.length := by
  fun_induction readQuoted quote cs <;> simp_all [Quoted.push] <;> omega

/-- A code of a character does not reach over the closing quote. -/
theorem charOfHex?_of_append_quote (hq : isQuote quote = true)
    (hcs : ∀ h₁ h₂ h₃ h₄ rest, cs = h₁ :: h₂ :: h₃ :: h₄ :: rest → charOfHex? h₁ h₂ h₃ h₄ = none)
    {h₁ h₂ h₃ h₄ : Char} {r : List Char} (he : cs ++ quote :: rest = h₁ :: h₂ :: h₃ :: h₄ :: r) :
    charOfHex? h₁ h₂ h₃ h₄ = none := by
  have hnone := hexDigit?_of_isQuote hq
  rcases cs with _ | ⟨_, _ | ⟨_, _ | ⟨_, _ | ⟨_, cs⟩⟩⟩⟩ <;> cases he
  · exact charOfHex?_eq_none hnone (.inl rfl)
  · exact charOfHex?_eq_none hnone (.inr (.inl rfl))
  · exact charOfHex?_eq_none hnone (.inr (.inr (.inl rfl)))
  · exact charOfHex?_eq_none hnone (.inr (.inr (.inr rfl)))
  · exact hcs _ _ _ _ _ rfl

/-- A verbatim text is read up to the quote behind it, and stands for itself. -/
theorem Verbatim.readQuoted_append (hq : isQuote quote = true) (h : Verbatim quote cs)
    (rest : List Char) :
    readQuoted quote (cs ++ quote :: rest) = ⟨cs, cs ++ [quote], rest, true⟩ := by
  induction h with
  | nil => exact readQuoted_quote rest
  | plain hc hs _ ih =>
    rw [List.cons_append, readQuoted_plain hc hs, ih]
    rfl
  | noCode hcs _ ih =>
    rw [List.cons_append, List.cons_append, readQuoted_noCode (ne_of_apply_ne hq rfl).symm
      fun _ _ _ _ _ he => charOfHex?_of_append_quote hq hcs he, ih]
    rfl

/-- What a string has in front is in front of its value, if its value is its
text. -/
theorem eq_of_push_eq {q : Quoted} {v : List Char} (h : q.push v v = ⟨v ++ cs, v ++ cs ++ [quote], rest, true⟩) :
    q = ⟨cs, cs ++ [quote], rest, true⟩ := by
  cases q
  simpa [Quoted.push] using h

/-- A string with an escape in front does not have its text as its value. -/
theorem push_ne {v t x : List Char} (hlt : v.length < t.length) :
    (readQuoted quote x).push v t ≠ ⟨cs, cs ++ [quote], rest, true⟩ := by
  intro h
  have hclosed : (readQuoted quote x).closed = true := congrArg Quoted.closed h
  have hinner := length_value_lt hclosed
  have hvalue := congrArg (fun q => q.value.length) h
  have htext := congrArg (fun q => q.text.length) h
  simp only [Quoted.push, List.length_append, List.length_singleton] at hvalue htext
  omega

/-- A text that is read up to the quote behind it and stands for itself is
verbatim. -/
theorem verbatim_of_readQuoted (hq : isQuote quote = true) {cs : List Char}
    (h : readQuoted quote (cs ++ quote :: rest) = ⟨cs, cs ++ [quote], rest, true⟩) :
    Verbatim quote cs := by
  have hbackslash : '\\' ≠ quote := (ne_of_apply_ne hq rfl).symm
  match cs with
  | [] => exact .nil
  | c :: cs =>
    rw [List.cons_append] at h
    by_cases hc : c = quote
    · rw [hc, readQuoted_quote] at h
      cases h
    by_cases hs : c = '\\'
    · subst hs
      match cs with
      | [] =>
        rw [List.nil_append, readQuoted_escape hbackslash (ne_of_apply_ne hq rfl)] at h
        exact absurd h (push_ne (by simp))
      | e :: cs =>
        rw [List.cons_append] at h
        by_cases he : e = 'u'
        · subst he
          by_cases hcode : ∀ h₁ h₂ h₃ h₄ r, cs ++ quote :: rest = h₁ :: h₂ :: h₃ :: h₄ :: r →
              charOfHex? h₁ h₂ h₃ h₄ = none
          · rw [readQuoted_noCode hbackslash hcode] at h
            refine .noCode (fun h₁ h₂ h₃ h₄ r hcs => hcode h₁ h₂ h₃ h₄ (r ++ quote :: rest) ?_)
              (verbatim_of_readQuoted hq (eq_of_push_eq h))
            rw [hcs]
            rfl
          · simp only [not_forall, exists_prop] at hcode
            obtain ⟨h₁, h₂, h₃, h₄, r, hr, hx⟩ := hcode
            obtain ⟨x, hx⟩ := Option.ne_none_iff_exists'.mp hx
            rw [hr, readQuoted_code hbackslash hx] at h
            exact absurd h (push_ne (by simp))
        · rw [readQuoted_escape hbackslash he] at h
          exact absurd h (push_ne (by simp))
    · rw [readQuoted_plain hc hs] at h
      exact .plain hc hs (verbatim_of_readQuoted hq (eq_of_push_eq h))

/-- **Which texts stand for themselves in a string**: those with no quote of the
same kind, and with no backslash but before a `u` that names no character. -/
theorem readQuoted_append_quote_iff (hq : isQuote quote = true) (cs rest : List Char) :
    readQuoted quote (cs ++ quote :: rest) = ⟨cs, cs ++ [quote], rest, true⟩ ↔ Verbatim quote cs :=
  ⟨verbatim_of_readQuoted hq, fun h => h.readQuoted_append hq rest⟩

/-- A plain character in front makes no difference. -/
theorem verbatim_cons_iff {c : Char} (hq : c ≠ quote) (hs : c ≠ '\\') :
    Verbatim quote (c :: cs) ↔ Verbatim quote cs := by
  refine ⟨fun h => ?_, .plain hq hs⟩
  cases h with
  | plain _ _ h => exact h
  | noCode => exact absurd rfl hs

/-! ## Strings as tokens -/

/-- A quote goes on with no token, nor is it skipped. -/
theorem continues_of_isQuote (hq : isQuote quote = true) :
    continues quote = false ∧ isBlank quote = false := by
  simp only [isQuote, Bool.or_eq_true, beq_iff_eq] at hq
  rcases hq with (rfl | rfl) | rfl <;> decide

/-- Behind a quote there is a string, whether it is closed or not. -/
theorem read_quote (hq : isQuote quote = true) (r : Bool) (cs : List Char) :
    read r quote cs = ⟨.string (String.ofList (readQuoted quote cs).value) quote (readQuoted quote cs).closed,
      quote :: (readQuoted quote cs).text, (readQuoted quote cs).rest⟩ := by
  rw [read, if_pos hq]

theorem eq_quote_of_kind_eq_string {r : Bool} {c : Char} {value : String} {closed : Bool}
    (h : (read r c cs).kind = .string value quote closed) : isQuote quote = true ∧ c = quote := by
  rcases read_cases r c cs with ⟨hc, hk⟩ | ⟨_, hk⟩ | ⟨_, hk⟩ | ⟨-, hk⟩ | hk
  · rw [hk] at h
    cases h
    exact ⟨hc, rfl⟩
  · rw [hk] at h
    cases h
  · rw [hk] at h
    cases h
  · rw [hk] at h
    rcases wordKind_cases (c :: cs.takeWhile isWordChar) with ⟨-, hw⟩ | hw <;> rw [hw] at h <;> cases h
  · rw [hk] at h
    unfold punctuation at h
    split at h <;> try cases h
    split at h <;> cases h

/-- **Which strings have their text as their value**: one that closes with the
first quote behind the text. What follows that quote does not matter. -/
theorem read_quote_iff (hq : isQuote quote = true) (r : Bool) (cs rest : List Char) :
    (read r quote (cs ++ quote :: rest)).kind = .string (String.ofList cs) quote true ∧
        byteLength (read r quote (cs ++ quote :: rest)).text = byteLength (quote :: (cs ++ [quote])) ↔
      Verbatim quote cs := by
  rw [read_quote hq, ← readQuoted_append_quote_iff hq cs rest]
  constructor
  · rintro ⟨hkind, hlen⟩
    have hparts := readQuoted_append quote (cs ++ quote :: rest)
    cases hread : readQuoted quote (cs ++ quote :: rest) with
    | mk value text rest' closed =>
      rw [hread] at hkind hlen hparts
      simp only [TokenKind.string.injEq, true_and] at hkind
      obtain ⟨hvalue, rfl⟩ := hkind
      rw [byteLength_cons, byteLength_cons] at hlen
      obtain ⟨rfl, rfl⟩ := append_inj_of_byteLength (Nat.add_left_cancel hlen) (x := rest') (y := rest)
        (by rw [hparts]; simp)
      rw [String.ofList_injective hvalue]
  · intro h
    rw [h]
    exact ⟨rfl, rfl⟩

end QueryShell.Lexeme
