import QueryShell.Token.Lexer

/-!
# Tokens of a text and of its parts

A scanner looks at the character behind a token only to see whether the token
goes on there. So the tokens of a text do not change when more text is put
behind it, as long as its literals are closed and the new text begins with a
character that continues no token. A closing parenthesis is such a character,
which is why the arguments of a call have the same tokens inside the query as
alone.

## Main statements

* `Token.tokenizeFrom_append`: the tokens of a text with more text behind it.
* `Lexeme.read_mark`, `Lexeme.read_word`, `Lexeme.read_numeral`: which token a
  text begins with.
* `Token.eq_of_tokenizeFrom_eq_cons`: what a text looks like that begins with a
  given token.
-/

namespace QueryShell

namespace Text

/-- **A text that does not go on**: it is empty or begins with a character
without the property `p`. A scanner that takes characters with the property
stops in front of it. -/
def HeadNot (p : Char → Bool) (b : List Char) : Prop := ∀ c ∈ b.head?, p c = false

variable {p : Char → Bool} {a b : List Char}

/-- The empty text does not go on, whatever it would go on with. -/
theorem headNot_nil : HeadNot p [] := by
  intro c hc
  cases hc

@[simp] theorem headNot_cons {c : Char} {cs : List Char} :
    HeadNot p (c :: cs) ↔ p c = false := by
  simp [HeadNot]

/-- A text that does not go on with a character of some kind does not go on with
one of a narrower kind. -/
theorem HeadNot.mono {q : Char → Bool} (hb : HeadNot p b) (h : ∀ c, q c = true → p c = true) :
    HeadNot q b := by
  intro c hc
  have hp := hb c hc
  cases hq : q c with
  | false => rfl
  | true => rw [h c hq] at hp; cases hp

/-- From a text that does not go on nothing is taken. -/
theorem takeWhile_of_headNot (hb : HeadNot p b) : b.takeWhile p = [] := by
  cases b with
  | nil => rfl
  | cons c b => simp [headNot_cons.mp hb]

/-- From a text that does not go on nothing is dropped: all of it is left. -/
theorem dropWhile_of_headNot (hb : HeadNot p b) : b.dropWhile p = b := by
  cases b with
  | nil => rfl
  | cons c b => simp [headNot_cons.mp hb]

/-- What is left when the characters with a property have been dropped does not
go on with one. -/
theorem headNot_dropWhile (p : Char → Bool) (cs : List Char) : HeadNot p (cs.dropWhile p) := by
  intro c hc
  have hhead := List.head?_dropWhile_not p cs
  rwa [Option.mem_def.mp hc] at hhead

/-- **What a scanner takes is the same with more text behind it**, as long as
that text does not go on with what the scanner takes. -/
theorem takeWhile_append_of_headNot (hb : HeadNot p b) :
    (a ++ b).takeWhile p = a.takeWhile p := by
  induction a with
  | nil => rw [List.nil_append, takeWhile_of_headNot hb, List.takeWhile_nil]
  | cons c a ih => simp only [List.cons_append, List.takeWhile_cons, ih]

/-- What a scanner leaves of a text has the new text behind it, as it stands. -/
theorem dropWhile_append_of_headNot (hb : HeadNot p b) :
    (a ++ b).dropWhile p = a.dropWhile p ++ b := by
  induction a with
  | nil => rw [List.nil_append, dropWhile_of_headNot hb, List.dropWhile_nil, List.nil_append]
  | cons c a ih =>
    simp only [List.cons_append, List.dropWhile_cons, ih]
    split <;> rfl

/-- Two cuts of a text at the first character without the property `p` are
one. -/
theorem append_inj_of_headNot {x y : List Char} (ha : ∀ c ∈ a, p c = true)
    (hb : ∀ c ∈ b, p c = true) (hx : HeadNot p x) (hy : HeadNot p y) (h : a ++ x = b ++ y) :
    a = b ∧ x = y := by
  have hab : a = b := by
    have htake := congrArg (List.takeWhile p) h
    rwa [List.takeWhile_append_of_pos ha, List.takeWhile_append_of_pos hb, takeWhile_of_headNot hx,
      takeWhile_of_headNot hy, List.append_nil, List.append_nil] at htake
  rw [hab] at h
  exact ⟨hab, List.append_cancel_left h⟩

/-- Two initial parts of a text of one length in bytes are one. -/
theorem append_inj_of_byteLength {x y : List Char} (hlen : byteLength a = byteLength b)
    (h : a ++ x = b ++ y) : a = b ∧ x = y := by
  have hab : a = b := by
    rw [← takeBytes_byteLength a x, h, hlen, takeBytes_byteLength]
  rw [hab] at h
  exact ⟨hab, List.append_cancel_left h⟩

/-- The code points of the blanks. -/
def blankCodes : List Nat :=
  [0x09, 0x0A, 0x0B, 0x0C, 0x0D, 0x20, 0x85, 0xA0, 0x1680, 0x2000, 0x2001, 0x2002, 0x2003, 0x2004,
    0x2005, 0x2006, 0x2007, 0x2008, 0x2009, 0x200A, 0x2028, 0x2029, 0x202F, 0x205F, 0x3000]

/-- Every blank is in the list, so that a property of all blanks can be checked
one code point after the other. -/
theorem toNat_mem_blankCodes {c : Char} (h : isBlank c = true) : c.toNat ∈ blankCodes := by
  simp only [isBlank, Bool.or_eq_true, Bool.and_eq_true, decide_eq_true_eq, beq_iff_eq] at h
  simp only [blankCodes, List.mem_cons, List.not_mem_nil, or_false]
  omega

end Text

namespace Lexeme

open Text

/-! ## More text behind a token -/

/-- The same quoted text with more text behind it. -/
def Quoted.followedBy (q : Quoted) (b : List Char) : Quoted := { q with rest := q.rest ++ b }

/-- The same regular expression with more text behind it. -/
def Pattern.followedBy (p : Pattern) (b : List Char) : Pattern := { p with rest := p.rest ++ b }

/-- The same token with more text behind it. -/
def followedBy (x : Lexeme) (b : List Char) : Lexeme := { x with rest := x.rest ++ b }

/-- Text that is put behind a quoted text stays behind it when a piece is put
before it. -/
@[simp] theorem Quoted.followedBy_push (q : Quoted) (value text b : List Char) :
    (q.push value text).followedBy b = (q.followedBy b).push value text := rfl

/-- Text that is put behind a pattern stays behind it when a piece is put before
it. -/
@[simp] theorem Pattern.followedBy_push (p : Pattern) (text b : List Char) :
    (p.push text).followedBy b = (p.followedBy b).push text := rfl

section

variable {quote : Char}

theorem readQuoted_quote (cs : List Char) :
    readQuoted quote (quote :: cs) = ⟨[], [quote], cs, true⟩ := by
  rw [readQuoted.eq_def]
  simp

/-- A character that is neither the quote nor a backslash stands for itself. -/
theorem readQuoted_plain {c : Char} (hc : c ≠ quote) (hs : c ≠ '\\') (cs : List Char) :
    readQuoted quote (c :: cs) = (readQuoted quote cs).push [c] [c] := by
  rw [readQuoted.eq_def]
  simp [hc, hs]

/-- A backslash and the character behind it stand for one character, unless that
is the beginning of a code. -/
theorem readQuoted_escape (hq : '\\' ≠ quote) {e : Char} (he : e ≠ 'u') (cs : List Char) :
    readQuoted quote ('\\' :: e :: cs) = (readQuoted quote cs).push [unescape e] ['\\', e] := by
  simp [readQuoted, hq, he]

/-- A backslash, the letter of a code and four hexadecimal digits stand for the
character that has the code. -/
theorem readQuoted_code (hq : '\\' ≠ quote) {h₁ h₂ h₃ h₄ x : Char}
    (hx : charOfHex? h₁ h₂ h₃ h₄ = some x) (cs : List Char) :
    readQuoted quote ('\\' :: 'u' :: h₁ :: h₂ :: h₃ :: h₄ :: cs) =
      (readQuoted quote cs).push [x] ['\\', 'u', h₁, h₂, h₃, h₄] := by
  simp [readQuoted, hq, hx]

/-- Where there are no four digits, or none with a character, the backslash and
the letter stand for themselves. This is also the way in which a surrogate is
read. -/
theorem readQuoted_noCode (hq : '\\' ≠ quote) {cs : List Char}
    (h : ∀ h₁ h₂ h₃ h₄ rest, cs = h₁ :: h₂ :: h₃ :: h₄ :: rest → charOfHex? h₁ h₂ h₃ h₄ = none) :
    readQuoted quote ('\\' :: 'u' :: cs) = (readQuoted quote cs).push ['\\', 'u'] ['\\', 'u'] := by
  match cs with
  | h₁ :: h₂ :: h₃ :: h₄ :: rest => simp [readQuoted, hq, h h₁ h₂ h₃ h₄ rest rfl]
  | [] | [_] | [_, _] | [_, _, _] => simp [readQuoted, hq]

/-- A quoted text that is closed has its quote in it. -/
theorem quote_mem_of_closed {cs : List Char}
    (h : (readQuoted quote cs).closed = true) : quote ∈ cs := by
  fun_induction readQuoted quote cs <;> simp_all [Quoted.push]

/-- One character among the four that is no digit is enough for them to be no
code. -/
theorem charOfHex?_eq_none {x : Char} (hx : hexDigit? x = none) {a b c d : Char}
    (h : x = a ∨ x = b ∨ x = c ∨ x = d) : charOfHex? a b c d = none := by
  unfold charOfHex?
  rcases h with rfl | rfl | rfl | rfl
  · simp [hx]
  · cases hexDigit? a <;> simp [hx]
  · cases hexDigit? a <;> cases hexDigit? b <;> simp [hx]
  · cases hexDigit? a <;> cases hexDigit? b <;> cases hexDigit? c <;> simp [hx]

/-- **A closed quoted text is read the same with more text behind it.** The
quote must be no hexadecimal digit: otherwise it could be the end of the text
when that is read alone, and a digit of a code when more follows. -/
theorem readQuoted_append_of_closed (hq : hexDigit? quote = none)
    {cs : List Char} (h : (readQuoted quote cs).closed = true) (b : List Char) :
    readQuoted quote (cs ++ b) = (readQuoted quote cs).followedBy b := by
  fun_induction readQuoted quote cs with
  | case1 => simp at h
  | case2 cs => exact readQuoted_quote _
  | case3 => simp at h
  | case4 h₁ h₂ h₃ h₄ rest x hx hne ih =>
    simp only [List.cons_append, Quoted.followedBy_push, readQuoted_code hne hx, ih h]
  | case5 h₁ h₂ h₃ h₄ rest hx hne ih =>
    rw [Quoted.followedBy_push, ← ih h]
    refine readQuoted_noCode hne fun _ _ _ _ _ he => ?_
    cases he
    exact hx
  | case6 rest hshort hne ih =>
    -- fewer than four characters are left, and the text behind them may make up for that; still there
    -- is no code, because the closing quote is among the four and is no hexadecimal digit
    rw [Quoted.followedBy_push, ← ih h]
    refine readQuoted_noCode hne fun h₁ h₂ h₃ h₄ r he => charOfHex?_eq_none hq ?_
    have hlen : rest.length ≤ 4 := by
      rcases rest with _ | ⟨_, _ | ⟨_, _ | ⟨_, _ | ⟨_, _⟩⟩⟩⟩
      case cons.cons.cons.cons => exact absurd rfl (hshort _ _ _ _ _)
      all_goals simp
    have hpre : rest <+: [h₁, h₂, h₃, h₄] :=
      List.prefix_of_prefix_length_le ⟨b, he⟩ ⟨r, rfl⟩ hlen
    have hmem : quote ∈ rest := quote_mem_of_closed h
    simpa using hpre.subset hmem
  | case7 e rest _ he hne ih =>
    simp only [List.cons_append, Quoted.followedBy_push, readQuoted_escape hne he, ih h]
  | case8 c cs hc hne ih =>
    simp only [List.cons_append, Quoted.followedBy_push, readQuoted_plain hc hne, ih h]

end

/-- **A closed pattern is read the same with more text behind it**, in a
character class and outside of one. An open one may be closed by the text behind
it. -/
theorem readPattern_append_of_closed {inClass : Bool} {cs : List Char}
    (h : (readPattern inClass cs).closed = true) (b : List Char) :
    readPattern inClass (cs ++ b) = (readPattern inClass cs).followedBy b := by
  fun_induction readPattern inClass cs with
  | case1 => simp at h
  | case2 => simp at h
  | case3 inClass e rest ih =>
    rw [Pattern.followedBy_push, ← ih h, readPattern.eq_def]
    simp
  | case4 inClass cs _ ih =>
    rw [Pattern.followedBy_push, ← ih h, readPattern.eq_def]
    simp
  | case5 inClass cs _ _ ih =>
    rw [Pattern.followedBy_push, ← ih h, readPattern.eq_def]
    simp
  | case6 inClass c cs _ _ _ hc =>
    obtain ⟨rfl, rfl⟩ := hc
    rw [readPattern.eq_def]
    simp [Pattern.followedBy]
  | case7 => simp at h
  | case8 inClass c cs h₁ h₂ h₃ h₄ h₅ ih =>
    rw [Pattern.followedBy_push, ← ih h, readPattern.eq_def]
    simp only [List.cons_append, h₁, h₂, h₃, h₄, h₅, if_false]

/-- **A pattern that a slash closes**: read from after an opening slash, it ends
at the first slash behind it. -/
def IsPattern (inClass : Bool) (pattern : List Char) : Prop :=
  ∀ b, readPattern inClass (pattern ++ '/' :: b) = ⟨pattern, pattern ++ ['/'], b, true⟩

/-- What is read as the pattern of a closed regular expression reads the same
again. -/
theorem isPattern_of_closed {inClass : Bool} {cs : List Char}
    (h : (readPattern inClass cs).closed = true) :
    IsPattern inClass (readPattern inClass cs).pattern := by
  fun_induction readPattern inClass cs with
  | case1 => simp at h
  | case2 => simp at h
  | case3 inClass e rest ih =>
    intro b
    rw [readPattern.eq_def]
    simp [Pattern.push, ih h b]
  | case4 inClass cs _ ih =>
    intro b
    rw [readPattern.eq_def]
    simp [Pattern.push, ih h b]
  | case5 inClass cs _ _ ih =>
    intro b
    rw [readPattern.eq_def]
    simp [Pattern.push, ih h b]
  | case6 inClass c cs _ _ _ hc =>
    obtain ⟨rfl, rfl⟩ := hc
    intro b
    rw [readPattern.eq_def]
    simp
  | case7 => simp at h
  | case8 inClass c cs h₁ h₂ h₃ h₄ h₅ ih =>
    intro b
    rw [readPattern.eq_def]
    simp only [Pattern.push, List.cons_append, List.nil_append, h₁, h₂, h₃, h₄, h₅, if_false,
      ih h b]

/-- Characters that continue a word, a numeral or the flags of a regular
expression. -/
def continues (c : Char) : Bool :=
  isWordChar c || c == '.' || c == '+' || c == '-'

/-- The capital and the small letters, by their code points. -/
theorem toNat_of_isAlpha {c : Char} (h : c.isAlpha = true) :
    65 ≤ c.toNat ∧ c.toNat ≤ 90 ∨ 97 ≤ c.toNat ∧ c.toNat ≤ 122 := by
  rcases Bool.or_eq_true_iff.mp (show (c.isUpper || c.isLower) = true from h) with hupper | hlower
  · exact .inl (of_decide_eq_true (p := 65 ≤ c.toNat ∧ c.toNat ≤ 90) hupper)
  · obtain ⟨hl, hu⟩ := Bool.and_eq_true_iff.mp hlower
    exact .inr ⟨of_decide_eq_true (p := 97 ≤ c.toNat) hl, of_decide_eq_true (p := c.toNat ≤ 122) hu⟩

/-- The letters and digits of `Char.isAlphanum` are all in ASCII. -/
theorem toNat_lt_of_isAlphanum {c : Char} (h : c.isAlphanum = true) : c.toNat < 0x80 := by
  rcases Bool.or_eq_true_iff.mp (show (c.isAlpha || c.isDigit) = true from h) with halpha | hdigit
  · have := toNat_of_isAlpha halpha
    omega
  · exact Nat.lt_of_le_of_lt (Char.isDigit_iff_toNat.mp hdigit).2 (by decide)

theorem isWordChar_of_isAlphanum {c : Char} (h : c.isAlphanum = true) : isWordChar c = true := by
  simp [isWordChar, isAlphanumeric_of_lt (toNat_lt_of_isAlphanum h), h]

/-- A word may go on with a digit, though it cannot begin with one. -/
theorem isWordChar_of_isDigit {c : Char} (h : c.isDigit = true) : isWordChar c = true :=
  isWordChar_of_isAlphanum (by simp [Char.isAlphanum, h])

theorem continues_of_isWordChar {c : Char} (h : isWordChar c = true) : continues c = true := by
  simp [continues, h]

/-- What continues the flags of a regular expression continues some token. -/
theorem continues_of_isAlphanum {c : Char} (h : c.isAlphanum = true) : continues c = true :=
  continues_of_isWordChar (isWordChar_of_isAlphanum h)

theorem continues_of_isDigit {c : Char} (h : c.isDigit = true) : continues c = true :=
  continues_of_isWordChar (isWordChar_of_isDigit h)

section

variable {b : List Char}

/-- A fraction is a point with at least one digit behind it, and all the digits
that follow. -/
theorem fraction_cons_cons (c d : Char) (rest : List Char) :
    fraction (c :: d :: rest) =
      if c = '.' ∧ d.isDigit = true then c :: d :: rest.takeWhile Char.isDigit else [] := by
  unfold fraction
  split
  · simp_all
  · next h =>
    rw [if_neg]
    rintro ⟨rfl, -⟩
    exact h d rest rfl

@[simp] theorem fraction_singleton (c : Char) : fraction [c] = [] := by
  unfold fraction
  split <;> simp_all

/-- **The fraction is the same with more text behind it**, since the new text
begins neither with a point nor with a digit. -/
theorem fraction_append_of_headNot (cs : List Char) (hb : HeadNot continues b) :
    fraction (cs ++ b) = fraction cs := by
  have hdigit : HeadNot Char.isDigit b := hb.mono fun c => continues_of_isDigit
  match cs, b with
  | [], [] => rfl
  | [], [c] => exact fraction_singleton c
  | [], c :: d :: b =>
    have hc : c ≠ '.' := by
      rintro rfl
      exact absurd (headNot_cons.mp hb) (by decide)
    rw [List.nil_append, fraction_cons_cons, if_neg fun h => hc h.1]
    rfl
  | [_], [] => rfl
  | [c], d :: b =>
    rw [List.singleton_append, fraction_cons_cons, fraction_singleton, if_neg]
    rw [headNot_cons.mp hdigit]
    exact fun h => Bool.false_ne_true h.2
  | c :: d :: rest, b =>
    simp only [List.cons_append, fraction_cons_cons, takeWhile_append_of_headNot hdigit]

/-- Characters that continue an exponent, or begin one. -/
def continuesExponent (c : Char) : Bool :=
  isWordChar c || c == '+' || c == '-'

/-- What continues an exponent continues some token. The signs are among the
latter for this reason. -/
theorem continues_of_continuesExponent {c : Char} (h : continuesExponent c = true) :
    continues c = true := by
  simp only [continuesExponent, Bool.or_eq_true] at h
  rcases h with (h | h) | h <;> simp [continues, h]

/-- **The exponent is the same with more text behind it.** -/
theorem exponent_append_of_headNot (cs : List Char) (hb : HeadNot continuesExponent b) :
    exponent (cs ++ b) = exponent cs := by
  have hdigit : HeadNot Char.isDigit b := hb.mono fun c hc => by
    simp [continuesExponent, isWordChar_of_isDigit hc]
  match cs, b with
  | [], [] => rfl
  | [], [_] => rfl
  | [], c :: d :: b =>
    have hc : ¬(c = 'e' ∨ c = 'E') := by
      rintro (rfl | rfl) <;> exact absurd (headNot_cons.mp hb) (by decide)
    simp [exponent, hc]
  | [_], [] => rfl
  | [c], d :: b =>
    have hd : ¬(d = '+' ∨ d = '-') := by
      rintro (rfl | rfl) <;> exact absurd (headNot_cons.mp hb) (by decide)
    simp [exponent, headNot_cons.mp hdigit, hd]
  | [c, d], [] => rfl
  | [c, d], d' :: b =>
    simp [exponent, headNot_cons.mp hdigit]
  | c :: d :: d' :: rest, b =>
    simp only [List.cons_append, exponent, List.takeWhile_cons, takeWhile_append_of_headNot hdigit]

/-- **A numeral is the same with more text behind it**, since each of its three
parts is. -/
theorem numeral_append_of_headNot (cs : List Char) (hb : HeadNot continues b) :
    numeral (cs ++ b) = numeral cs := by
  have hdigit : HeadNot Char.isDigit b := hb.mono fun c => continues_of_isDigit
  have hwhole : (cs.takeWhile Char.isDigit).length ≤ cs.length :=
    (List.takeWhile_prefix Char.isDigit).length_le
  have hfrac (xs : List Char) : (fraction xs).length ≤ xs.length :=
    List.IsPrefix.length_le ⟨_, fraction_append xs⟩
  simp only [numeral, takeWhile_append_of_headNot hdigit,
    List.drop_append_of_le_length hwhole, fraction_append_of_headNot _ hb,
    List.drop_append_of_le_length (hfrac _),
    exponent_append_of_headNot _ (hb.mono fun _ => continues_of_continuesExponent)]

/-- No quote is a hexadecimal digit, as the scanner of quoted texts needs it. -/
theorem hexDigit?_of_isQuote {c : Char} (h : isQuote c = true) : hexDigit? c = none := by
  simp only [isQuote, Bool.or_eq_true, beq_iff_eq] at h
  rcases h with (rfl | rfl) | rfl <;> rfl

/-- **A token is read the same with more text behind it**, if it is closed and
if the new text begins with a character that continues no token. Every scanner
has its own reason, so there is one case for each of them. -/
theorem read_append_of_headNot {r : Bool} {c : Char} {cs : List Char} (hb : HeadNot continues b)
    (h : (read r c cs).kind.isUnclosed = false) :
    read r c (cs ++ b) = (read r c cs).followedBy b := by
  unfold read at h ⊢
  split at h
  · next hc =>
    have hclosed : (readQuoted c cs).closed = true := by simpa [TokenKind.isUnclosed] using h
    rw [if_pos hc, if_pos hc, readQuoted_append_of_closed (hexDigit?_of_isQuote hc) hclosed]
    rfl
  · next hc =>
    rw [if_neg hc, if_neg hc]
    split at h
    · next hr =>
      have hclosed : (readPattern false cs).closed = true := by
        simpa [TokenKind.isUnclosed] using h
      have halpha : HeadNot Char.isAlpha b :=
        hb.mono fun c h => continues_of_isAlphanum (by simp [Char.isAlphanum, h])
      have hle (xs : List Char) : (xs.takeWhile Char.isAlpha).length ≤ xs.length :=
        (List.takeWhile_prefix Char.isAlpha).length_le
      rw [if_pos hr, if_pos hr, readPattern_append_of_closed hclosed]
      simp only [Pattern.followedBy, followedBy, hclosed, if_true,
        takeWhile_append_of_headNot halpha, List.drop_append_of_le_length (hle _)]
    · next hr =>
      rw [if_neg hr, if_neg hr]
      split
      · have hle : (numeral (c :: cs)).length ≤ (c :: cs).length :=
          List.IsPrefix.length_le ⟨_, numeral_append (c :: cs)⟩
        rw [← List.cons_append, numeral_append_of_headNot _ hb]
        simp only [followedBy, List.drop_append_of_le_length hle]
      · split
        · have hword : HeadNot isWordChar b := hb.mono fun c => continues_of_isWordChar
          simp only [followedBy, takeWhile_append_of_headNot hword,
            dropWhile_append_of_headNot hword]
        · rfl

end

/-! ## Which characters a token begins with -/

theorem isWordChar_of_isBlank {c : Char} (h : isBlank c = true) : isWordChar c = false := by
  have hall : ∀ n ∈ blankCodes, isWordChar (Char.ofNat n) = false := by decide +kernel
  have hc := hall c.toNat (toNat_mem_blankCodes h)
  rwa [Char.ofNat_toNat] at hc

theorem isBlank_of_isWordChar {c : Char} (h : isWordChar c = true) : isBlank c = false := by
  cases hb : isBlank c with
  | false => rfl
  | true => rw [isWordChar_of_isBlank hb] at h; cases h

theorem isWordChar_of_isWordStart {c : Char} (h : isWordStart c = true) :
    isWordChar c = true := by
  simp only [isWordStart, Bool.or_eq_true, beq_iff_eq] at h
  rcases h with (h | rfl) | rfl
  · exact isWordChar_of_isAlphanum (by simp [Char.isAlphanum, h])
  · rfl
  · rfl

theorem isDigit_of_isWordStart {c : Char} (h : isWordStart c = true) : c.isDigit = false := by
  simp only [isWordStart, Bool.or_eq_true, beq_iff_eq] at h
  rcases h with (h | rfl) | rfl
  · refine Bool.eq_false_iff.mpr fun hd => ?_
    have halpha := toNat_of_isAlpha h
    have hdigit : c.toNat ≤ 57 := (Char.isDigit_iff_toNat.mp hd).2
    omega
  · rfl
  · rfl

/-- Two characters differ if a property tells them apart. -/
theorem ne_of_apply_ne {p : Char → Bool} {c d : Char} (hc : p c = true) (hd : p d = false) :
    c ≠ d := by
  rintro rfl
  rw [hc] at hd
  cases hd

/-- A character with a property that no quote has is no quote. -/
theorem continues_of_isBlank {c : Char} (h : isBlank c = true) : continues c = false := by
  have hpoint : c ≠ '.' := ne_of_apply_ne h rfl
  have hplus : c ≠ '+' := ne_of_apply_ne h rfl
  have hminus : c ≠ '-' := ne_of_apply_ne h rfl
  simp [continues, isWordChar_of_isBlank h, hpoint, hplus, hminus]

/-- To be no quote is to differ from each of the three. -/
theorem isQuote_eq_false {p : Char → Bool} {c : Char} (hc : p c = true) (hdouble : p '"' = false)
    (hsingle : p '\'' = false) (hgrave : p '\x60' = false) : isQuote c = false := by
  simp [isQuote, ne_of_apply_ne hc hdouble, ne_of_apply_ne hc hsingle, ne_of_apply_ne hc hgrave]

/-- A single character is never taken for the end of the text. -/
theorem punctuation_ne_eof (c : Char) : punctuation c ≠ .eof := by
  unfold punctuation
  split
  all_goals try simp
  split <;> simp

/-- A single character is never taken for a literal without an end. -/
theorem punctuation_isUnclosed (c : Char) : (punctuation c).isUnclosed = false := by
  unfold punctuation
  split
  all_goals try rfl
  split <;> rfl

/-! ## The first token -/

/-- Behind a token and behind what is left after it the text ends at the same
offset. -/
theorem add_byteLength_rest (pos : Nat) (r : Bool) (c : Char) (cs : List Char) :
    pos + byteLength (read r c cs).text + byteLength (read r c cs).rest =
      pos + byteLength (c :: cs) := by
  rw [← text_append_rest r c cs, byteLength_append, Nat.add_assoc]

/-- **What a token can be**, with the scanner that it comes from. Proofs about
all tokens go by these cases. -/
theorem read_cases (r : Bool) (c : Char) (cs : List Char) :
    (isQuote c = true ∧
      (read r c cs).kind =
        .string (String.ofList (readQuoted c cs).value) c (readQuoted c cs).closed) ∨
    (∃ flags, (read r c cs).kind =
      .regex (String.ofList (readPattern false cs).pattern) flags (readPattern false cs).closed) ∨
    (∃ text, (read r c cs).kind = .number text) ∨
    (isWordStart c = true ∧
      read r c cs = ⟨wordKind (c :: cs.takeWhile isWordChar), c :: cs.takeWhile isWordChar,
        cs.dropWhile isWordChar⟩) ∨
    read r c cs = ⟨punctuation c, [c], cs⟩ := by
  unfold read
  split
  · next hc => exact .inl ⟨hc, rfl⟩
  split
  · exact .inr (.inl ⟨_, rfl⟩)
  split
  · exact .inr (.inr (.inl ⟨_, rfl⟩))
  split
  · next hc => exact .inr (.inr (.inr (.inl ⟨hc, rfl⟩)))
  · exact .inr (.inr (.inr (.inr rfl)))

/-- A numeral is what the scanner of numerals takes. -/
theorem eq_numeral_of_kind_eq_number {r : Bool} {c : Char} {cs : List Char} {text : String}
    (h : (read r c cs).kind = .number text) :
    c.isDigit = true ∧ text = String.ofList (numeral (c :: cs)) := by
  unfold read at h
  split at h
  · cases h
  split at h
  · cases h
  split at h
  · next hc =>
    cases h
    exact ⟨hc, rfl⟩
  split at h
  · unfold wordKind at h
    split at h <;> cases h
  · unfold punctuation at h
    split at h <;> try cases h
    split at h <;> cases h

/-- A word is the name of the database or an identifier, and nothing else. -/
theorem wordKind_cases (w : List Char) :
    (w = ['d', 'b'] ∧ wordKind w = .db) ∨ wordKind w = .ident (String.ofList w) := by
  unfold wordKind
  split
  · next h => exact .inl ⟨h, rfl⟩
  · exact .inr rfl

theorem wordKind_isUnclosed (w : List Char) : (wordKind w).isUnclosed = false := by
  rcases wordKind_cases w with ⟨-, h⟩ | h <;> rw [h] <;> rfl

/-- **Where there is a character there is a token** other than the end of the
text, be it a token of no use. -/
theorem kind_ne_eof (r : Bool) (c : Char) (cs : List Char) : (read r c cs).kind ≠ .eof := by
  rcases read_cases r c cs with ⟨-, h⟩ | ⟨_, h⟩ | ⟨_, h⟩ | ⟨-, h⟩ | h
  · simp [h]
  · simp [h]
  · simp [h]
  · rcases wordKind_cases (c :: cs.takeWhile isWordChar) with ⟨-, hw⟩ | hw <;> simp [h, hw]
  · rw [h]
    exact punctuation_ne_eof c

/-- The characters that are a token of their own wherever they stand. -/
def marks : List Char := ['.', '(', ')', '[', ']', '{', '}', ',', ':', '-']

/-- **A mark at the beginning** is a token of its own, whatever stands before it
or behind it. -/
theorem read_mark {m : Char} (hm : m ∈ marks) (r : Bool) (cs : List Char) :
    read r m cs = ⟨punctuation m, [m], cs⟩ := by
  simp only [marks, List.mem_cons, List.not_mem_nil, or_false] at hm
  rcases hm with rfl | rfl | rfl | rfl | rfl | rfl | rfl | rfl | rfl | rfl <;> rfl

/-- **A word at the beginning**: its characters up to the first that continues
no word. -/
theorem read_word {c : Char} {w cs : List Char} (hc : isWordStart c = true)
    (hw : ∀ x ∈ w, isWordChar x = true) (hcs : HeadNot isWordChar cs) (r : Bool) :
    read r c (w ++ cs) = ⟨wordKind (c :: w), c :: w, cs⟩ := by
  have hquote : isQuote c = false := isQuote_eq_false hc rfl rfl rfl
  have hslash : c ≠ '/' := ne_of_apply_ne hc rfl
  have htake : (w ++ cs).takeWhile isWordChar = w := by
    rw [List.takeWhile_append_of_pos hw, takeWhile_of_headNot hcs, List.append_nil]
  have hdrop : (w ++ cs).dropWhile isWordChar = cs := by
    rw [List.dropWhile_append_of_pos hw, dropWhile_of_headNot hcs]
  simp [read, hquote, hslash, isDigit_of_isWordStart hc, hc, htake, hdrop]

/-- **A numeral at the beginning**: its characters up to the first that
continues no token. -/
theorem read_numeral {c : Char} {t cs : List Char} (hc : c.isDigit = true)
    (ht : numeral (c :: t) = c :: t) (hcs : HeadNot continues cs) (r : Bool) :
    read r c (t ++ cs) = ⟨.number (String.ofList (c :: t)), c :: t, cs⟩ := by
  have hquote : isQuote c = false := isQuote_eq_false hc rfl rfl rfl
  have hslash : c ≠ '/' := ne_of_apply_ne hc rfl
  have hnum : numeral (c :: (t ++ cs)) = c :: t := by
    rw [← List.cons_append, numeral_append_of_headNot _ hcs, ht]
  simp [read, hquote, hslash, hc, hnum]

/-- A point and a parenthesis are the only characters with their kinds. -/
theorem punctuation_inj_of_mark {m c : Char} (hm : m ∈ ['.', '(', ')'])
    (h : punctuation c = punctuation m) : c = m := by
  simp only [List.mem_cons, List.not_mem_nil, or_false] at hm
  unfold punctuation at h
  rcases hm with rfl | rfl | rfl <;> split at h <;> simp_all <;> split at h <;> simp at h

/-- **A mark is one character**: a token that is a point or a parenthesis is
that character. -/
theorem read_eq_of_kind_eq_punctuation {m : Char} (hm : m ∈ ['.', '(', ')']) {r : Bool} {c : Char}
    {cs : List Char} (h : (read r c cs).kind = punctuation m) :
    c = m ∧ read r c cs = ⟨punctuation m, [m], cs⟩ := by
  have hmark : punctuation m = .dot ∨ ∃ b, punctuation m = .opener b ∨ punctuation m = .closer b := by
    simp only [List.mem_cons, List.not_mem_nil, or_false] at hm
    rcases hm with rfl | rfl | rfl <;> simp [punctuation]
  rcases read_cases r c cs with ⟨-, hk⟩ | ⟨_, hk⟩ | ⟨_, hk⟩ | ⟨-, hk⟩ | hk
  · rw [← h, hk] at hmark
    simp at hmark
  · rw [← h, hk] at hmark
    simp at hmark
  · rw [← h, hk] at hmark
    simp at hmark
  · rw [← h, hk] at hmark
    rcases wordKind_cases (c :: cs.takeWhile isWordChar) with ⟨-, hw⟩ | hw <;> simp [hw] at hmark
  · rw [hk] at h
    obtain rfl := punctuation_inj_of_mark hm h
    exact ⟨rfl, hk⟩

/-- **A word has its characters**: a token that is a word was read from that
word. -/
theorem text_eq_of_kind_eq_word {r : Bool} {c : Char} {cs : List Char} {w : String}
    (h : (read r c cs).kind = .ident w ∨ ((read r c cs).kind = .db ∧ w = "db")) :
    (read r c cs).text = w.toList := by
  rcases read_cases r c cs with ⟨-, hk⟩ | ⟨_, hk⟩ | ⟨_, hk⟩ | ⟨-, hk⟩ | hk
  · simp [hk] at h
  · simp [hk] at h
  · simp [hk] at h
  · rw [hk] at h ⊢
    rcases wordKind_cases (c :: cs.takeWhile isWordChar) with ⟨hdb, hw⟩ | hw
    · simp only [hw, reduceCtorEq, false_or, true_and] at h
      rw [h]
      exact hdb
    · simp only [hw, TokenKind.ident.injEq, reduceCtorEq, false_and, or_false] at h
      rw [← h, String.toList_ofList]
  · have hp : punctuation c ≠ .ident w ∧ punctuation c ≠ .db := by
      unfold punctuation
      split <;> try simp
      split <;> simp
    rw [hk] at h
    rcases h with h | ⟨h, -⟩
    · exact absurd h hp.1
    · exact absurd h hp.2

end Lexeme

namespace Token

open Text

/-- The empty text has one token, which is its end. -/
@[simp] theorem tokenizeFrom_nil (pos : Nat) (r : Bool) :
    tokenizeFrom pos r [] = [⟨.eof, ⟨pos, pos⟩⟩] := by
  rw [tokenizeFrom]

/-- A blank moves on by its bytes, and changes nothing else. -/
theorem tokenizeFrom_blank {c : Char} (hc : isBlank c = true) (pos : Nat) (r : Bool)
    (cs : List Char) : tokenizeFrom pos r (c :: cs) = tokenizeFrom (pos + c.utf8Size) r cs := by
  rw [tokenizeFrom, if_pos hc]

/-- Any other character begins a token. The tokens behind it are those of what
the token has left, and whether they may be regular expressions is up to its
kind. -/
theorem tokenizeFrom_cons {c : Char} (hc : isBlank c = false) (pos : Nat) (r : Bool)
    (cs : List Char) : tokenizeFrom pos r (c :: cs) =
      ⟨(Lexeme.read r c cs).kind, ⟨pos, pos + byteLength (Lexeme.read r c cs).text⟩⟩ ::
        tokenizeFrom (pos + byteLength (Lexeme.read r c cs).text)
          (Lexeme.read r c cs).kind.allowsRegex (Lexeme.read r c cs).rest := by
  rw [tokenizeFrom, if_neg (by simp [hc])]

/-- Blanks in any number move on by all their bytes. -/
theorem tokenizeFrom_blanks {w : List Char} (hw : ∀ c ∈ w, isBlank c = true) (pos : Nat)
    (r : Bool) (cs : List Char) :
    tokenizeFrom pos r (w ++ cs) = tokenizeFrom (pos + byteLength w) r cs := by
  induction w generalizing pos with
  | nil => rfl
  | cons c w ih =>
    rw [List.cons_append, tokenizeFrom_blank (hw c List.mem_cons_self),
      ih fun d hd => hw d (List.mem_cons_of_mem c hd), byteLength_cons, Nat.add_assoc]

/-- **The tokens of a text with more text behind it** are those of the text and,
in place of its end, those of the rest. -/
theorem tokenizeFrom_append {b : List Char} (hb : HeadNot Lexeme.continues b) (pos : Nat)
    (r : Bool) (a : List Char) (h : ∀ t ∈ tokenizeFrom pos r a, t.isUnclosed = false) :
    ∃ ts r', tokenizeFrom pos r a =
        ts ++ [⟨.eof, ⟨pos + byteLength a, pos + byteLength a⟩⟩] ∧
      tokenizeFrom pos r (a ++ b) = ts ++ tokenizeFrom (pos + byteLength a) r' b := by
  fun_induction tokenizeFrom pos r a with
  | case1 pos r => exact ⟨[], r, rfl, rfl⟩
  | case2 pos r c cs hc ih =>
    obtain ⟨ts, r', h₁, h₂⟩ := ih h
    refine ⟨ts, r', ?_, ?_⟩
    · rw [h₁, byteLength_cons, Nat.add_assoc]
    · rw [List.cons_append, tokenizeFrom_blank hc, h₂, byteLength_cons, Nat.add_assoc]
  | case3 pos r c cs hc x stop ih =>
    obtain ⟨ts, r', h₁, h₂⟩ := ih fun t ht => h t (List.mem_cons_of_mem _ ht)
    have hx : x.kind.isUnclosed = false := h _ List.mem_cons_self
    have hlen : stop + byteLength x.rest = pos + byteLength (c :: cs) :=
      Lexeme.add_byteLength_rest pos r c cs
    rw [hlen] at h₁ h₂
    refine ⟨⟨x.kind, ⟨pos, stop⟩⟩ :: ts, r', ?_, ?_⟩
    · rw [h₁, List.cons_append]
    · rw [List.cons_append, tokenizeFrom_cons (by simpa using hc),
        Lexeme.read_append_of_headNot hb hx, List.cons_append, ← h₂]
      rfl

/-- What the tokens of a text are, the end of the text not among them. -/
theorem tokenizeFrom_eq_append_eof (pos : Nat) (r : Bool) (cs : List Char) :
    ∃ ts, tokenizeFrom pos r cs =
        ts ++ [⟨.eof, ⟨pos + byteLength cs, pos + byteLength cs⟩⟩] ∧
      ∀ t ∈ ts, t.kind ≠ .eof := by
  fun_induction tokenizeFrom pos r cs with
  | case1 pos r => exact ⟨[], rfl, by simp⟩
  | case2 pos r c cs _ ih =>
    obtain ⟨ts, h₁, h₂⟩ := ih
    exact ⟨ts, by rw [h₁, byteLength_cons, Nat.add_assoc], h₂⟩
  | case3 pos r c cs _ x stop ih =>
    obtain ⟨ts, h₁, h₂⟩ := ih
    have hlen : stop + byteLength x.rest = pos + byteLength (c :: cs) :=
      Lexeme.add_byteLength_rest pos r c cs
    refine ⟨⟨x.kind, ⟨pos, stop⟩⟩ :: ts, by rw [h₁, hlen, List.cons_append], ?_⟩
    rintro t (_ | ⟨_, ht⟩)
    · exact Lexeme.kind_ne_eof r c cs
    · exact h₂ t ht

section

variable {pos : Nat} {r : Bool} {cs : List Char} {t : Token}

/-- Where a token of a text begins, that it is read from there, and where it
ends. -/
theorem exists_read_of_mem (h : t ∈ tokenizeFrom pos r cs) (ht : t.kind ≠ .eof) :
    ∃ a c rest r', cs = a ++ c :: rest ∧ t.span.start = pos + byteLength a ∧
      t.kind = (Lexeme.read r' c rest).kind ∧
      t.span.stop = t.span.start + byteLength (Lexeme.read r' c rest).text := by
  fun_induction tokenizeFrom pos r cs with
  | case1 pos r =>
    cases List.mem_singleton.mp h
    exact absurd rfl ht
  | case2 pos r c cs _ ih =>
    obtain ⟨a, d, rest, r', rfl, hstart, hread⟩ := ih h
    exact ⟨c :: a, d, rest, r', rfl, by rw [hstart, byteLength_cons, Nat.add_assoc], hread⟩
  | case3 pos r c cs _ x stop ih =>
    rcases List.mem_cons.mp h with rfl | h
    · exact ⟨[], c, cs, r, rfl, rfl, rfl, rfl⟩
    · obtain ⟨a, d, rest, r', hrest, hstart, hread⟩ := ih h
      refine ⟨x.text ++ a, d, rest, r', ?_, ?_, hread⟩
      · rw [List.append_assoc, ← hrest, Lexeme.text_append_rest]
      · rw [hstart, byteLength_append, ← Nat.add_assoc]

/-- The end of a text is an empty token behind its last byte. -/
theorem span_eq_of_eof (h : t ∈ tokenizeFrom pos r cs) (ht : t.kind = .eof) :
    t.span = ⟨pos + byteLength cs, pos + byteLength cs⟩ := by
  obtain ⟨ts, hts, hne⟩ := tokenizeFrom_eq_append_eof pos r cs
  rw [hts, List.mem_append, List.mem_singleton] at h
  rcases h with h | rfl
  · exact absurd ht (hne t h)
  · rfl

/-- **A token begins on a boundary**: what stands before it is an initial part
of the text. Every offset that is reported for a token comes from here. -/
theorem exists_start_of_mem (h : t ∈ tokenizeFrom pos r cs) :
    ∃ a b, cs = a ++ b ∧ t.span.start = pos + byteLength a := by
  by_cases ht : t.kind = .eof
  · exact ⟨cs, [], (List.append_nil cs).symm, congrArg Span.start (span_eq_of_eof h ht)⟩
  · obtain ⟨a, c, rest, _, hcs, hstart, -⟩ := exists_read_of_mem h ht
    exact ⟨a, c :: rest, hcs, hstart⟩

end

/-- What a token that was read says about itself: a string has one of the three
quotes, and a closed regular expression has a pattern that its slash closes. -/
def IsScanned : TokenKind → Prop
  | .string _ quote _ => Lexeme.isQuote quote = true
  | .regex pattern _ closed => closed = true → Lexeme.IsPattern false pattern.toList
  | _ => True

/-- Every token that is read says of itself what is true. -/
theorem isScanned_read (r : Bool) (c : Char) (cs : List Char) :
    IsScanned (Lexeme.read r c cs).kind := by
  rcases Lexeme.read_cases r c cs with ⟨hc, h⟩ | ⟨_, h⟩ | ⟨_, h⟩ | ⟨-, h⟩ | h
  · rw [h]
    exact hc
  · rw [h]
    intro hclosed
    rw [String.toList_ofList]
    exact Lexeme.isPattern_of_closed hclosed
  · rw [h]
    trivial
  · rw [h]
    rcases Lexeme.wordKind_cases (c :: cs.takeWhile Lexeme.isWordChar) with ⟨-, hw⟩ | hw <;>
      simp [hw, IsScanned]
  · rw [h]
    unfold Lexeme.punctuation
    split <;> try trivial
    split <;> trivial

/-- Every token of a text says of itself what is true, the end of the text
included. -/
theorem isScanned_of_mem_tokenizeFrom {pos : Nat} {r : Bool} {cs : List Char} {t : Token}
    (h : t ∈ tokenizeFrom pos r cs) : IsScanned t.kind := by
  fun_induction tokenizeFrom pos r cs with
  | case1 =>
    rw [List.mem_singleton.mp h]
    trivial
  | case2 pos r c cs _ ih => exact ih h
  | case3 pos r c cs _ x stop ih =>
    rcases List.mem_cons.mp h with rfl | h
    · exact isScanned_read r c cs
    · exact ih h

/-- What the tokens of a text are does not depend on where the text begins. -/
theorem map_kind_tokenizeFrom (pos pos' : Nat) (r : Bool) (cs : List Char) :
    (tokenizeFrom pos r cs).map Token.kind = (tokenizeFrom pos' r cs).map Token.kind := by
  fun_induction tokenizeFrom pos r cs generalizing pos' with
  | case1 => simp
  | case2 pos r c cs hc ih => rw [tokenizeFrom_blank hc, ih]
  | case3 pos r c cs hc x stop ih =>
    rw [tokenizeFrom_cons (by simpa using hc), List.map_cons, List.map_cons, ih]

/-- Whether the tokens are closed depends on what they are alone. -/
theorem isUnclosed_of_map_kind {ts us : List Token} (h : ts.map Token.kind = us.map Token.kind)
    (hts : ∀ t ∈ ts, t.isUnclosed = false) : ∀ u ∈ us, u.isUnclosed = false := by
  intro u hu
  have hk := List.mem_map_of_mem (f := Token.kind) hu
  rw [← h] at hk
  obtain ⟨t, ht, htk⟩ := List.mem_map.mp hk
  rw [isUnclosed, ← htk]
  exact hts t ht

/-- **What a text looks like that begins with a given token**: blanks, then the
characters of the token, then a text that has the other tokens. -/
theorem eq_of_tokenizeFrom_eq_cons {pos : Nat} {r : Bool} {cs : List Char} {t : Token}
    {ts : List Token} (h : tokenizeFrom pos r cs = t :: ts) (ht : t.kind ≠ .eof) :
    ∃ w c rest, (∀ x ∈ w, isBlank x = true) ∧ isBlank c = false ∧ cs = w ++ c :: rest ∧
      t.kind = (Lexeme.read r c rest).kind ∧
      t.span = ⟨pos + byteLength w,
        pos + byteLength w + byteLength (Lexeme.read r c rest).text⟩ ∧
      ts = tokenizeFrom t.span.stop t.kind.allowsRegex (Lexeme.read r c rest).rest := by
  fun_induction tokenizeFrom pos r cs with
  | case1 pos r =>
    cases h
    exact absurd rfl ht
  | case2 pos r c cs hc ih =>
    obtain ⟨w, d, rest, hw, hd, rfl, hk, hs, hts⟩ := ih h
    refine ⟨c :: w, d, rest, ?_, hd, rfl, hk, ?_, hts⟩
    · rintro x (_ | ⟨_, hx⟩)
      · exact hc
      · exact hw x hx
    · rw [hs, byteLength_cons, Nat.add_assoc]
  | case3 pos r c cs hc x stop ih =>
    cases h
    exact ⟨[], c, cs, by simp, by simpa using hc, rfl, rfl, rfl, rfl⟩

/-- A text whose first token is the end of the text is blank. -/
theorem blank_of_tokenizeFrom_eq_eof {pos : Nat} {r : Bool} {cs : List Char} {t : Token}
    {ts : List Token} (h : tokenizeFrom pos r cs = t :: ts) (ht : t.kind = .eof) :
    ∀ c ∈ cs, isBlank c = true := by
  fun_induction tokenizeFrom pos r cs with
  | case1 => simp
  | case2 pos r c cs hc ih =>
    rintro x (_ | ⟨_, hx⟩)
    · exact hc
    · exact ih h x hx
  | case3 pos r c cs hc x stop ih =>
    cases h
    exact absurd ht (Lexeme.kind_ne_eof r c cs)

end Token

end QueryShell
