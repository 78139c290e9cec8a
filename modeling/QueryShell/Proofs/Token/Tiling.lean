import QueryShell.Proofs.Token.Cut

/-!
# Tokens tile their text

No character of a text is lost when its tokens are read. Each token takes the
characters of its span and at least one, the spans stand one behind the other on
boundaries of the text, and what lies between them is blank. This holds of every
text, however malformed, because a scanner hands on what it does not take
(`Lexeme.text_append_rest`) and always takes something (`Lexeme.text_ne_nil`).

What a token says is what its span covers, word for word, unless it is a quoted
text or a regular expression, which are told apart from the characters that they
are written with (`TokenKind.spelling?`).

## Main statements

* `Lexeme.text_eq_of_spelling?`: a token is read from its spelling.
* `Token.isBlank_of_not_contains`: what no token contains is blank.
* `Token.tokenize_tiles`: the tokens of a text tile it.
-/

namespace QueryShell

open Text

/-- **The offset lies in the span.** -/
def Span.Contains (x : Span) (n : Nat) : Prop :=
  x.start ≤ n ∧ n < x.stop

/-- **How a token is written**, where there is only one way: a quoted text and a
regular expression can be written in several, and the end of the text is not
written at all. -/
def TokenKind.spelling? : TokenKind → Option (List Char)
  | db => some ['d', 'b']
  | ident name => some name.toList
  | number text => some text.toList
  | opener b => some [b.opener]
  | closer b => some [b.closer]
  | dot => some ['.']
  | comma => some [',']
  | colon => some [':']
  | semicolon => some [';']
  | operator c | unknown c => some [c]
  | string .. | regex .. | eof => none

namespace Lexeme

theorem spelling?_punctuation (c : Char) : (punctuation c).spelling? = some [c] := by
  unfold punctuation
  split <;> try rfl
  split <;> rfl

/-- A word is spelled by itself, also where it is a word with a meaning of its
own. -/
theorem spelling?_wordKind (w : List Char) : (wordKind w).spelling? = some w := by
  rcases wordKind_cases w with ⟨rfl, h⟩ | h
  · rw [h]
    rfl
  · rw [h, TokenKind.spelling?, String.toList_ofList]

/-- **A token is read from its spelling.** Strings, regular expressions and
the end of the text have none: what they stand for is not what is written. -/
theorem text_eq_of_spelling? {r : Bool} {c : Char} {cs w : List Char}
    (h : (read r c cs).kind.spelling? = some w) : (read r c cs).text = w := by
  unfold read at h ⊢
  split at h
  · cases h
  next hquote =>
  rw [if_neg hquote]
  split at h
  · cases h
  next hslash =>
  rw [if_neg hslash]
  split at h
  · next hdigit =>
    rw [if_pos hdigit]
    rw [TokenKind.spelling?, String.toList_ofList] at h
    exact Option.some.inj h
  next hdigit =>
  rw [if_neg hdigit]
  split at h
  · next hword =>
    rw [if_pos hword]
    exact Option.some.inj ((spelling?_wordKind _).symm.trans h)
  · next hword =>
    rw [if_neg hword]
    exact Option.some.inj ((spelling?_punctuation c).symm.trans h)

end Lexeme

namespace Token

variable {pos : Nat} {r : Bool} {cs : List Char} {t : Token}

theorem start_lt_stop (h : t ∈ tokenizeFrom pos r cs) (ht : t.kind ≠ .eof) :
    t.span.start < t.span.stop := by
  obtain ⟨_, d, rest, r', -, -, -, hstop⟩ := exists_read_of_mem h ht
  have hpos : byteLength (Lexeme.read r' d rest).text ≠ 0 :=
    mt byteLength_eq_zero_iff.mp (Lexeme.text_ne_nil r' d rest)
  omega

/-- **The span of a token covers its spelling**, as it is cut out of the
text. -/
theorem slice_eq_of_spelling? (h : t ∈ tokenizeFrom pos r cs) {w : List Char}
    (hw : t.kind.spelling? = some w) : slice (t.span.start - pos) (t.span.stop - pos) cs = w := by
  have ht : t.kind ≠ .eof := by
    intro heof
    rw [heof] at hw
    cases hw
  obtain ⟨a, d, rest, r', rfl, hstart, hkind, hstop⟩ := exists_read_of_mem h ht
  rw [hkind] at hw
  rw [Lexeme.text_eq_of_spelling? hw] at hstop
  have hfront : t.span.start - pos = byteLength a := by omega
  have hlen : t.span.stop - pos - byteLength a = byteLength w := by omega
  rw [slice, hfront, hlen, dropBytes_byteLength, ← Lexeme.text_append_rest r' d rest,
    Lexeme.text_eq_of_spelling? hw, takeBytes_byteLength]

/-- **What no token contains is blank.** The scanner passes over blanks only,
and all else begins some token. -/
theorem isBlank_of_not_contains (pos : Nat) (r : Bool) (cs : List Char) :
    ∀ a c b, cs = a ++ c :: b →
      (∀ t ∈ tokenizeFrom pos r cs, ¬t.span.Contains (pos + byteLength a)) → isBlank c = true := by
  fun_induction tokenizeFrom pos r cs with
  | case1 =>
    intro a c b hcs _
    exact absurd hcs.symm (List.append_ne_nil_of_right_ne_nil a (List.cons_ne_nil c b))
  | case2 pos r d cs hd ih =>
    intro a c b hcs h
    cases a with
    | nil =>
      obtain ⟨rfl, -⟩ := List.cons.inj hcs
      exact hd
    | cons e a =>
      obtain ⟨rfl, htail⟩ := List.cons.inj hcs
      rw [byteLength_cons, ← Nat.add_assoc] at h
      exact ih a c b htail h
  | case3 pos r d cs hd x stop ih =>
    intro a c b hcs h
    obtain ⟨hfirst, hrest⟩ := List.forall_mem_cons.mp h
    -- the first token contains the offsets of all its characters, so `c` stands behind it
    have hbehind : byteLength x.text ≤ byteLength a := by
      have hout : ¬(pos ≤ pos + byteLength a ∧ pos + byteLength a < pos + byteLength x.text) := hfirst
      omega
    have hparts : a ++ c :: b = x.text ++ x.rest :=
      hcs.symm.trans (Lexeme.text_append_rest r d cs).symm
    obtain ⟨z, rfl, hz⟩ := exists_eq_append_of_byteLength_le hparts hbehind
    rw [byteLength_append, ← Nat.add_assoc] at hrest
    exact ih z c b hz hrest

/-- **Tokens tile a text**: they lie in it one behind the other without
overlapping, none is empty, and what lies between them is blank. -/
structure Tiles (s : List Char) (ts : List Token) : Prop where
  /-- No token is empty. -/
  start_lt_stop : ∀ t ∈ ts, t.span.start < t.span.stop
  /-- No token begins or ends inside a character or behind the text. -/
  isBoundary : ∀ t ∈ ts, IsBoundary t.span.start s ∧ IsBoundary t.span.stop s
  /-- The tokens stand one behind the other. -/
  stop_le_start : ts.Pairwise fun t u => t.span.stop ≤ u.span.start
  /-- A character in front of the tokens, between them or behind them is
  blank. -/
  isBlank : ∀ a c b, s = a ++ c :: b → (∀ t ∈ ts, ¬t.span.Contains (byteLength a)) → isBlank c = true
  /-- A token has the characters of its span. -/
  spelling : ∀ t ∈ ts, ∀ w, t.kind.spelling? = some w → slice t.span.start t.span.stop s = w

/-- **The tokens of a text tile it**, whatever the text is. The end of the text
is behind them, and there only. -/
theorem tokenize_tiles (s : List Char) :
    ∃ ts, tokenize s = ts ++ [⟨.eof, ⟨byteLength s, byteLength s⟩⟩] ∧ (∀ t ∈ ts, t.kind ≠ .eof) ∧
      Tiles s ts := by
  obtain ⟨ts, hts, hne⟩ := tokenizeFrom_eq_append_eof 0 true s
  rw [Nat.zero_add] at hts
  have hmem : ∀ t ∈ ts, t ∈ tokenizeFrom 0 true s := fun t ht => hts ▸ List.mem_append_left _ ht
  refine ⟨ts, hts, hne, ?_, fun t ht => ?_, ?_, fun a c b hs hout => ?_, fun t ht w hw => ?_⟩
  · exact fun t ht => Token.start_lt_stop (hmem t ht) (hne t ht)
  · obtain ⟨a, x, hax, hstart⟩ := exists_start_of_mem (hmem t ht)
    obtain ⟨b, y, hby, hstop⟩ := exists_stop_of_mem (hmem t ht)
    rw [Nat.zero_add] at hstart hstop
    exact ⟨⟨a, x, hax, hstart.symm⟩, ⟨b, y, hby, hstop.symm⟩⟩
  · have hpairwise := pairwise_span 0 true s
    rw [hts] at hpairwise
    exact (List.pairwise_append.mp hpairwise).1
  · -- the end of the text is a span that contains nothing
    refine isBlank_of_not_contains 0 true s a c b hs ?_
    rw [hts, Nat.zero_add]
    refine List.forall_mem_append.mpr ⟨hout, List.forall_mem_singleton.mpr fun hend => ?_⟩
    exact absurd hend.2 (Nat.not_lt.mpr hend.1)
  · exact slice_eq_of_spelling? (hmem t ht) hw

end Token

end QueryShell
