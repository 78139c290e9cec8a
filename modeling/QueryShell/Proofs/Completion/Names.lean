import QueryShell.Proofs.Completion.Grammar
import QueryShell.Proofs.Query.Form
import QueryShell.Proofs.Token.Written

/-!
# The name of a collection among the tokens

A query's reader takes the name of a collection from the characters of the text:
letters, digits and underscores in any order. Completion has only the tokens,
and a name that begins with a digit is no word there. It is a numeral, with the
digits of an exponent where it has one, and if anything is left of the name
behind the numeral, that is a word.

The two agree on every name but those of `IsNumeralDb`, where the word behind
the numeral is `db`: it is a token of its own kind, and `IsCollection` has no
place for it behind a numeral.
-/

namespace QueryShell

open Text

namespace Lexeme

/-! ### Numerals without a point -/

/-- The token of a text that begins with a digit. -/
theorem read_digit {c : Char} (hc : c.isDigit = true) (r : Bool) (cs : List Char) :
    read r c cs = ⟨.number (String.ofList (numeral (c :: cs))), numeral (c :: cs),
      (c :: cs).drop (numeral (c :: cs)).length⟩ := by
  have hquote : isQuote c = false := isQuote_eq_false hc rfl rfl rfl
  have hslash : c ≠ '/' := ne_of_apply_ne hc rfl
  simp [read, hquote, hslash, hc]

/-- To drop as many characters as a scanner takes is to drop what it takes. -/
theorem drop_length_takeWhile (p : Char → Bool) (cs : List Char) :
    cs.drop (cs.takeWhile p).length = cs.dropWhile p := by
  have hsplit : cs.takeWhile p ++ cs.dropWhile p = cs := List.takeWhile_append_dropWhile
  calc cs.drop (cs.takeWhile p).length
    _ = (cs.takeWhile p ++ cs.dropWhile p).drop (cs.takeWhile p).length := by rw [hsplit]
    _ = cs.dropWhile p := List.drop_left

/-- Behind a fraction no digit follows, if none stood in front of it. -/
theorem headNot_drop_fraction {cs : List Char} (hcs : HeadNot Char.isDigit cs) :
    HeadNot Char.isDigit (cs.drop (fraction cs).length) := by
  unfold fraction
  split
  · split
    · simpa [drop_length_takeWhile] using headNot_dropWhile _ _
    · exact hcs
  · exact hcs

/-- Behind an exponent no digit follows, if none stood in front of it. -/
theorem headNot_drop_exponent {cs : List Char} (hcs : HeadNot Char.isDigit cs) :
    HeadNot Char.isDigit (cs.drop (exponent cs).length) := by
  unfold exponent
  split
  · split
    · split
      · simpa [drop_length_takeWhile] using headNot_dropWhile _ _
      · split
        · split
          · split
            · simpa [drop_length_takeWhile] using headNot_dropWhile _ _
            · exact hcs
          · exact hcs
        · exact hcs
    · exact hcs
  · exact hcs

/-- **A numeral takes all digits**: what is left of the text begins with no
digit. So what is left of a name behind its numeral is a word, or nothing. -/
theorem headNot_isDigit_drop_numeral (cs : List Char) :
    HeadNot Char.isDigit (cs.drop (numeral cs).length) := by
  have hwhole : HeadNot Char.isDigit (cs.drop (cs.takeWhile Char.isDigit).length) := by
    rw [drop_length_takeWhile]
    exact headNot_dropWhile _ _
  have hexponent := headNot_drop_exponent (headNot_drop_fraction hwhole)
  rw [List.drop_drop, List.drop_drop] at hexponent
  simpa [numeral, Nat.add_assoc] using hexponent

/-- What may follow a name: nothing that goes on with a word or with a
numeral. -/
structure EndsName (rest : List Char) : Prop where
  headNot : HeadNot continuesExponent rest
  fraction_eq_nil : fraction rest = []

theorem EndsName.headNot_isWordChar {rest : List Char} (h : EndsName rest) :
    HeadNot isWordChar rest :=
  h.headNot.mono fun c hc => by simp [continuesExponent, hc]

/-- A point behind a name, unless a digit follows it. -/
theorem endsName_point {x : List Char} (hx : HeadNot Char.isDigit x) : EndsName ('.' :: x) where
  headNot := headNot_cons.mpr (by decide)
  fraction_eq_nil := by
    cases x with
    | nil => exact fraction_singleton '.'
    | cons d x =>
      rw [fraction_cons_cons, if_neg]
      rw [headNot_cons.mp hx]
      exact fun h => Bool.false_ne_true h.2

theorem endsName_blank {c : Char} (hc : isBlank c = true) (x : List Char) : EndsName (c :: x) where
  headNot := headNot_cons.mpr (Bool.eq_false_iff.mpr fun h => by
    have hcontinues := continues_of_continuesExponent h
    rw [continues_of_isBlank hc] at hcontinues
    cases hcontinues)
  fraction_eq_nil := by
    cases x with
    | nil => exact fraction_singleton c
    | cons d x =>
      rw [fraction_cons_cons, if_neg]
      rintro ⟨rfl, -⟩
      cases hc

/-- Characters of a name begin no fraction, nor do they make one of what
follows. -/
theorem fraction_of_name {d rest : List Char} (hd : ∀ c ∈ d, Query.isNameChar c = true)
    (h : fraction rest = []) : fraction (d ++ rest) = [] := by
  cases d with
  | nil => exact h
  | cons c d =>
    have hc : c ≠ '.' := ne_of_apply_ne (hd c List.mem_cons_self) (by decide)
    cases hrest : d ++ rest with
    | nil =>
      rw [List.cons_append, hrest]
      exact fraction_singleton c
    | cons y x =>
      rw [List.cons_append, hrest, fraction_cons_cons, if_neg fun h => hc h.1]

/-- **The numeral of a name is one with what follows the name.** A point behind
the name is the reason for `EndsName`: with a digit behind it, the numeral would
go on. -/
theorem numeral_append_of_name {c rest : List Char} (hc : ∀ x ∈ c, Query.isNameChar x = true)
    (h : EndsName rest) : numeral (c ++ rest) = numeral c := by
  have hdigit : HeadNot Char.isDigit rest :=
    h.headNot_isWordChar.mono fun _ => isWordChar_of_isDigit
  have hwhole : (c.takeWhile Char.isDigit).length ≤ c.length :=
    (List.takeWhile_prefix Char.isDigit).length_le
  have hname : ∀ x ∈ c.drop (c.takeWhile Char.isDigit).length, Query.isNameChar x = true :=
    fun x hx => hc x (List.mem_of_mem_drop hx)
  have hfraction := fraction_of_name hname (show fraction [] = [] from rfl)
  rw [List.append_nil] at hfraction
  simp only [numeral, takeWhile_append_of_headNot hdigit, List.drop_append_of_le_length hwhole,
    fraction_of_name hname h.fraction_eq_nil, hfraction, List.length_nil, List.drop_zero,
    exponent_append_of_headNot _ h.headNot]

end Lexeme

namespace Completion

open Lexeme

/-! ### The tokens of a collection -/

/-- **A name that the tokens tell wrongly**: a numeral with the word `db` right
behind it. The word is a token of its own kind there, and a collection has no
place for it. -/
def IsNumeralDb (c : List Char) : Prop :=
  c.head?.any Char.isDigit = true ∧ c = numeral c ++ ['d', 'b']

instance (c : List Char) : Decidable (IsNumeralDb c) :=
  inferInstanceAs (Decidable (_ ∧ _))

/-- A character of a name that is no digit begins a word. -/
theorem isWordStart_of_isNameChar {c : Char} (h : Query.isNameChar c = true)
    (hdigit : c.isDigit = false) : isWordStart c = true := by
  simp only [Query.isNameChar, Char.isAlphanum, hdigit, Bool.or_false] at h
  rw [isWordStart, h, Bool.true_or]

/-- A name that begins with no digit is a word. -/
theorem kinds_word_name {c : Char} {w rest : List Char} (hc : isWordStart c = true)
    (hw : ∀ x ∈ w, Query.isNameChar x = true) (h : EndsName rest) (r : Bool) :
    Token.kinds r (c :: (w ++ rest)) = wordKind (c :: w) :: Token.kinds false rest :=
  Token.kinds_word hc (fun x hx => Query.isWordChar_of_isNameChar (hw x hx)) h.headNot_isWordChar r

/-- A name that begins with a digit is a numeral, and what is left of it
follows. -/
theorem kinds_digit_name {c : Char} {w rest : List Char} (hc : c.isDigit = true)
    (hw : ∀ x ∈ c :: w, Query.isNameChar x = true) (h : EndsName rest) (r : Bool) :
    Token.kinds r (c :: (w ++ rest)) = .number (String.ofList (numeral (c :: w))) ::
      Token.kinds false ((c :: w).drop (numeral (c :: w)).length ++ rest) := by
  have hblank : isBlank c = false := Query.isBlank_of_isNameChar (hw c List.mem_cons_self)
  have hnumeral : numeral (c :: (w ++ rest)) = numeral (c :: w) := numeral_append_of_name hw h
  have hle : (numeral (c :: w)).length ≤ (c :: w).length :=
    List.IsPrefix.length_le ⟨_, numeral_append (c :: w)⟩
  rw [Token.kinds_of_read hblank (read_digit hc r _), hnumeral, ← List.cons_append,
    List.drop_append_of_le_length hle]
  rfl

/-- **The name of a collection among the tokens.** The reader of queries takes a
name from the characters. The tokens tell the same name by a word, by a numeral,
or by a numeral and a word. -/
theorem exists_kinds_collection {c : List Char} (hc : ∀ x ∈ c, Query.isNameChar x = true)
    (hne : c ≠ []) : ∃ ks, (∀ k ∈ ks, k.isUnclosed = false) ∧
      (∀ r rest, EndsName rest → Token.kinds r (c ++ rest) = ks ++ Token.kinds false rest) ∧
      (¬IsNumeralDb c ∧ IsCollection ks ∨ IsNumeralDb c ∧ ∃ text, ks = [.number text, .db]) := by
  obtain ⟨x, w, rfl⟩ := List.exists_cons_of_ne_nil hne
  cases hdigit : x.isDigit with
  | false =>
    have hnot : ¬IsNumeralDb (x :: w) := fun h => by simp [IsNumeralDb, hdigit] at h
    have hx := isWordStart_of_isNameChar (hc x List.mem_cons_self) hdigit
    have hw := fun y hy => hc y (List.mem_cons_of_mem x hy)
    refine ⟨[wordKind (x :: w)], ?_, fun r rest h => kinds_word_name hx hw h r, .inl ⟨hnot, ?_⟩⟩
    · intro k hk
      rw [List.mem_singleton.mp hk]
      exact wordKind_isUnclosed _
    · rcases wordKind_cases (x :: w) with ⟨-, h⟩ | h <;> rw [h]
      · exact .db
      · exact .word _
  | true =>
    have hsplit := numeral_append (x :: w)
    have hleft := headNot_isDigit_drop_numeral (x :: w)
    have hkinds := fun r rest (h : EndsName rest) => kinds_digit_name hdigit hc h r
    -- what is left of the name behind the numeral is nothing or a word
    generalize (x :: w).drop (numeral (x :: w)).length = left at hsplit hleft hkinds
    cases left with
    | nil =>
      have hnot : ¬IsNumeralDb (x :: w) := by
        rintro ⟨-, h⟩
        rw [List.append_nil] at hsplit
        rw [hsplit] at h
        simp at h
      refine ⟨[.number (String.ofList (numeral (x :: w)))], ?_, hkinds, .inl ⟨hnot, .numeral _⟩⟩
      intro k hk
      rw [List.mem_singleton.mp hk]
      rfl
    | cons y v =>
      have hname : ∀ z ∈ y :: v, Query.isNameChar z = true := by
        intro z hz
        refine hc z ?_
        rw [← hsplit]
        exact List.mem_append_right _ hz
      have hy := isWordStart_of_isNameChar (hname y List.mem_cons_self) (headNot_cons.mp hleft)
      have hv := fun z hz => hname z (List.mem_cons_of_mem y hz)
      refine ⟨[.number (String.ofList (numeral (x :: w))), wordKind (y :: v)], ?_,
        fun r rest h => ?_, ?_⟩
      · intro k hk
        rcases List.mem_pair.mp hk with rfl | rfl
        · rfl
        · exact wordKind_isUnclosed _
      · rw [List.cons_append, hkinds r rest h, List.cons_append, kinds_word_name hy hv h]
        rfl
      · by_cases hdb : y :: v = ['d', 'b']
        · refine .inr ⟨⟨?_, ?_⟩, String.ofList (numeral (x :: w)), ?_⟩
          · simp [hdigit]
          · rw [← hdb, hsplit]
          · rw [hdb]
            rfl
        · refine .inl ⟨fun h => hdb ?_, ?_⟩
          · exact List.append_cancel_left (hsplit.trans h.2)
          · rw [wordKind, if_neg hdb]
            exact .numeralWord _ _

end Completion

end QueryShell
