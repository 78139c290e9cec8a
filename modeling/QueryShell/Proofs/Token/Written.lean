import QueryShell.Proofs.Number.Numeral

/-!
# Tokens of written text

What a printer writes is put together from few kinds of pieces: marks and
blanks, words, numerals, quoted texts and regular expressions. Each piece below
is read as one token, whatever comes before it, as long as what follows does not
go on with it. `Token.kinds` leaves the offsets of the tokens away, so that the
tokens of a written text are those of its pieces, one after the other.

A slash is the one character that is read in two ways, and only a regular
expression has one outside quotes: `kinds_regex` asks for a place where a value
may begin, which is where a printer writes one.

## Main statements

* `Token.kinds_word`, `Token.kinds_numeral`, `Token.kinds_quoted`,
  `Token.kinds_regex`: the token of a written piece.
-/

namespace QueryShell

open Text

namespace Lexeme

/-! ## Escapes -/

/-- A hexadecimal digit is read back as its value. -/
theorem hexDigit?_hexDigit {n : Nat} (h : n < 16) : hexDigit? (hexDigit n) = some n := by
  have hall : ∀ n < 16, hexDigit? (hexDigit n) = some n := by decide
  exact hall n h

/-- A control character is the character that its four digits name. -/
theorem charOfHex?_hexDigit {c : Char} (h : c.toNat < 0x20) :
    charOfHex? '0' '0' (hexDigit (c.toNat / 16)) (hexDigit (c.toNat % 16)) = some c := by
  have hzero : hexDigit? '0' = some 0 := by decide
  have hhigh := hexDigit?_hexDigit (show c.toNat / 16 < 16 by omega)
  have hlow := hexDigit?_hexDigit (show c.toNat % 16 < 16 by omega)
  have hcode : ((0 * 16 + 0) * 16 + c.toNat / 16) * 16 + c.toNat % 16 = c.toNat := by omega
  simp only [charOfHex?, hzero, hhigh, hlow, bind, Option.bind, hcode]
  rw [charOfCode?, if_pos (.inl (by omega)), Char.ofNat_toNat]

/-- The three ways to write a character: a letter behind a backslash, four
digits, and itself. -/
theorem escapeChar_cases (c : Char) :
    (∃ e, e ≠ 'u' ∧ unescape e = c ∧ escapeChar c = ['\\', e]) ∨
    (c.toNat < 0x20 ∧ escapeChar c =
      ['\\', 'u', '0', '0', hexDigit (c.toNat / 16), hexDigit (c.toNat % 16)]) ∨
    (c ≠ '"' ∧ c ≠ '\\' ∧ escapeChar c = [c]) := by
  unfold escapeChar
  split_ifs with h₁ h₂ h₃ h₄ h₅ h₆ h₇ h₈
  · subst h₁
    exact .inl ⟨'"', by decide, rfl, rfl⟩
  · subst h₂
    exact .inl ⟨'\\', by decide, rfl, rfl⟩
  · subst h₃
    exact .inl ⟨'b', by decide, rfl, rfl⟩
  · subst h₄
    exact .inl ⟨'f', by decide, rfl, rfl⟩
  · subst h₅
    exact .inl ⟨'n', by decide, rfl, rfl⟩
  · subst h₆
    exact .inl ⟨'r', by decide, rfl, rfl⟩
  · subst h₇
    exact .inl ⟨'t', by decide, rfl, rfl⟩
  · exact .inr (.inl ⟨h₈, rfl⟩)
  · exact .inr (.inr ⟨h₁, h₂, rfl⟩)

/-- **A written character is read as itself**, in front of any text. A character
that is written without an escape is neither a quote nor a backslash. -/
theorem readQuoted_escapeChar (c : Char) (cs : List Char) :
    readQuoted '"' (escapeChar c ++ cs) = (readQuoted '"' cs).push [c] (escapeChar c) := by
  have hq : '\\' ≠ '"' := by decide
  rcases escapeChar_cases c with ⟨e, hu, he, h⟩ | ⟨hlt, h⟩ | ⟨hquote, hslash, h⟩
  · rw [h, ← he]
    exact readQuoted_escape hq hu cs
  · rw [h]
    exact readQuoted_code hq (charOfHex?_hexDigit hlt) cs
  · rw [h]
    exact readQuoted_plain hquote hslash cs

/-- **A text that was written with escapes is read back**, up to the quote
behind it, by induction on the characters of the text. -/
theorem readQuoted_flatMap_escapeChar (s cs : List Char) :
    readQuoted '"' (s.flatMap escapeChar ++ '"' :: cs) =
      ⟨s, s.flatMap escapeChar ++ ['"'], cs, true⟩ := by
  induction s with
  | nil => exact readQuoted_quote cs
  | cons c s ih =>
    rw [List.flatMap_cons, List.append_assoc, readQuoted_escapeChar, ih]
    simp [Quoted.push]

end Lexeme

namespace Token

open Lexeme

/-! ## The tokens of a written piece -/

/-- The tokens of a text without their offsets. -/
def kinds (r : Bool) (cs : List Char) : List TokenKind :=
  (tokenizeFrom 0 r cs).map Token.kind

/-- The kinds of the tokens do not depend on where the text begins. -/
theorem map_kind_tokenizeFrom_eq_kinds (pos : Nat) (r : Bool) (cs : List Char) :
    (tokenizeFrom pos r cs).map Token.kind = kinds r cs :=
  map_kind_tokenizeFrom pos 0 r cs

@[simp] theorem kinds_nil (r : Bool) : kinds r [] = [.eof] := by
  rw [kinds, tokenizeFrom_nil]
  rfl

/-- A blank in front makes no difference to the kinds. -/
theorem kinds_blank {c : Char} (hc : isBlank c = true) (r : Bool) (cs : List Char) :
    kinds r (c :: cs) = kinds r cs := by
  rw [kinds, tokenizeFrom_blank hc, map_kind_tokenizeFrom_eq_kinds]

/-- Blanks in any number in front make no difference to the kinds. -/
theorem kinds_blanks {w : List Char} (hw : ∀ c ∈ w, isBlank c = true) (r : Bool) (cs : List Char) :
    kinds r (w ++ cs) = kinds r cs := by
  rw [kinds, tokenizeFrom_blanks hw, map_kind_tokenizeFrom_eq_kinds]

/-- A space in front makes no difference to the kinds. -/
theorem kinds_space (r : Bool) (cs : List Char) : kinds r (' ' :: cs) = kinds r cs :=
  kinds_blank (by decide) r cs

/-- One token, and then the tokens of the rest. -/
theorem kinds_of_read {r : Bool} {c : Char} {cs : List Char} {x : Lexeme}
    (hc : isBlank c = false) (h : read r c cs = x) :
    kinds r (c :: cs) = x.kind :: kinds x.kind.allowsRegex x.rest := by
  rw [kinds, tokenizeFrom_cons hc, List.map_cons, map_kind_tokenizeFrom_eq_kinds, h]

/-- A mark in front is the first token. -/
theorem kinds_mark {m : Char} (hm : m ∈ marks) (r : Bool) (cs : List Char) :
    kinds r (m :: cs) = punctuation m :: kinds (punctuation m).allowsRegex cs := by
  have hblank : (marks.all fun m => !isBlank m) = true := by decide
  have hm' : isBlank m = false := by simpa using List.all_eq_true.mp hblank m hm
  exact kinds_of_read hm' (read_mark hm r cs)

/-- A word in front is the first token, if what follows does not continue it. -/
theorem kinds_word {c : Char} {w cs : List Char} (hc : isWordStart c = true)
    (hw : ∀ x ∈ w, isWordChar x = true) (hcs : HeadNot isWordChar cs) (r : Bool) :
    kinds r (c :: (w ++ cs)) = wordKind (c :: w) :: kinds false cs := by
  have hblank : isBlank c = false := isBlank_of_isWordChar (isWordChar_of_isWordStart hc)
  have hregex : (wordKind (c :: w)).allowsRegex = false := by
    rcases wordKind_cases (c :: w) with ⟨-, h⟩ | h <;> rw [h] <;> rfl
  rw [kinds_of_read hblank (read_word hc hw hcs r), hregex]

/-- A text that the scanner of numerals takes as a whole is one token. -/
theorem kinds_number {c : Char} {t cs : List Char} (hc : c.isDigit = true)
    (ht : numeral (c :: t) = c :: t) (hcs : HeadNot continues cs) (r : Bool) :
    kinds r (c :: (t ++ cs)) = .number (String.ofList (c :: t)) :: kinds false cs :=
  kinds_of_read (isBlank_of_isWordChar (isWordChar_of_isDigit hc)) (read_numeral hc ht hcs r)

/-- A numeral in front is the first token, if what follows continues no
token. -/
theorem kinds_numeral {whole fraction cs : List Char} (hp : Numeral.IsPointed whole fraction)
    (hcs : HeadNot continues cs) (r : Bool) :
    kinds r (Numeral.pointed whole fraction ++ cs) =
      .number (String.ofList (Numeral.pointed whole fraction)) :: kinds false cs := by
  have hnum := Numeral.numeral_pointed hp
  obtain ⟨c, t, ht, hc⟩ : ∃ c t, Numeral.pointed whole fraction = c :: t ∧ c.isDigit = true := by
    cases whole with
    | nil => exact absurd rfl hp.whole_ne_nil
    | cons c w =>
      refine ⟨c, if fraction = [] then w else w ++ '.' :: fraction, ?_, hp.isDigit_whole c (by simp)⟩
      rw [Numeral.pointed]
      split <;> rfl
  rw [ht] at hnum ⊢
  exact kinds_number hc hnum hcs r

/-- **A quoted text is read as the string that it was made from**, whatever
stands behind the quote. -/
theorem kinds_quoted (s : List Char) (r : Bool) (cs : List Char) :
    kinds r (quoted s ++ cs) = .string (String.ofList s) '"' true :: kinds false cs := by
  have hread : read r '"' (s.flatMap escapeChar ++ '"' :: cs) =
      ⟨.string (String.ofList s) '"' true, '"' :: (s.flatMap escapeChar ++ ['"']), cs⟩ := by
    rw [Lexeme.read, if_pos (by decide), readQuoted_flatMap_escapeChar]
  rw [quoted, List.cons_append, List.cons_append, List.append_assoc, List.singleton_append,
    kinds_of_read (by decide) hread]
  rfl

/-- A regular expression is read as one where a value may begin. -/
theorem kinds_regex {pattern flags cs : List Char} (hp : IsPattern false pattern)
    (hf : ∀ c ∈ flags, c.isAlpha = true) (hcs : HeadNot Char.isAlpha cs) :
    kinds true ('/' :: (pattern ++ '/' :: (flags ++ cs))) =
      .regex (String.ofList pattern) (String.ofList flags) true :: kinds false cs := by
  have htake : (flags ++ cs).takeWhile Char.isAlpha = flags := by
    rw [List.takeWhile_append_of_pos hf, takeWhile_of_headNot hcs, List.append_nil]
  have hread : read true '/' (pattern ++ '/' :: (flags ++ cs)) =
      ⟨.regex (String.ofList pattern) (String.ofList flags) true,
        '/' :: (pattern ++ ['/']) ++ flags, cs⟩ := by
    rw [Lexeme.read, if_neg (by decide), if_pos (by decide), hp]
    simp [htake]
  rw [kinds_of_read (by decide) hread]
  rfl

end Token

end QueryShell
