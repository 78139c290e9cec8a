import QueryShell.Proofs.Token.Cut
import QueryShell.Proofs.Token.Verbatim

/-!
# Literals that are left open

A literal that is not closed takes all that is left of its text, so nothing can
stand behind it. A string is left open at the end of the text only. A regular
expression is left open at the end of its line too, unless a backslash takes the
line break in, and then the text goes on behind it (`Token.IsCutOff`). The
scanners decide this: what they leave behind an open literal is nothing, or
begins with the line break.

Where the text is a part of a longer one, cut at a cursor, the open literal of
the part is the literal of the longer text that the cursor stands in
(`Token.Encloses`), since a scanner takes no less if there is more to take.

## Main statements

* `Lexeme.rest_of_isUnclosed`: what stands behind a literal that is left open.
* `Token.endsText_iff`: a literal that is left open is the last token if it is
  not cut off.
* `Lexeme.encloses_append`: it reaches a cursor behind it in every longer text.
-/

namespace QueryShell

open Text

namespace Lexeme

variable {r : Bool} {c : Char} {cs : List Char}

/-- A string that is left open takes the rest of its text. -/
theorem rest_readQuoted_eq_nil {quote : Char} (h : (readQuoted quote cs).closed = false) :
    (readQuoted quote cs).rest = [] := by
  fun_induction readQuoted quote cs <;> simp_all [Quoted.push]

/-- A regular expression that is left open takes the rest of its text, or of a
line of it. -/
theorem head?_rest_readPattern {inClass : Bool} (h : (readPattern inClass cs).closed = false) :
    (readPattern inClass cs).rest = [] ∨ (readPattern inClass cs).rest.head? = some '\n' := by
  fun_induction readPattern inClass cs <;> simp_all [Pattern.push]

/-- **What stands behind a literal that is left open**: nothing, or a line break
behind a regular expression. -/
theorem rest_of_isUnclosed (h : (read r c cs).kind.isUnclosed = true) :
    (read r c cs).rest = [] ∨
      (∃ pattern flags, (read r c cs).kind = .regex pattern flags false) ∧
        (read r c cs).rest.head? = some '\n' := by
  unfold read at h ⊢
  split at h
  · next hquote =>
    rw [if_pos hquote]
    refine .inl (rest_readQuoted_eq_nil ?_)
    simpa [TokenKind.isUnclosed] using h
  next hquote =>
  rw [if_neg hquote]
  split at h
  · next hslash =>
    have hopen : (readPattern false cs).closed = false := by simpa [TokenKind.isUnclosed] using h
    rw [if_pos hslash]
    simp only [hopen, Bool.false_eq_true, if_false, List.length_nil, List.drop_zero]
    exact (head?_rest_readPattern hopen).imp_right fun hbreak => ⟨⟨_, _, rfl⟩, hbreak⟩
  next hslash =>
  -- no other token is a literal
  split at h
  · cases h
  split at h
  · rw [wordKind_isUnclosed] at h
    cases h
  · rw [punctuation_isUnclosed] at h
    cases h

/-- A literal that is left open begins with a quote or a slash, which goes on
with no token and is not skipped. -/
theorem continues_of_isUnclosed (h : (read r c cs).kind.isUnclosed = true) :
    continues c = false ∧ isBlank c = false := by
  unfold read at h
  split at h
  · next hquote => exact continues_of_isQuote hquote
  split at h
  · next hslash =>
    rw [hslash.1]
    decide
  split at h
  · cases h
  split at h
  · rw [wordKind_isUnclosed] at h
    cases h
  · rw [punctuation_isUnclosed] at h
    cases h

end Lexeme

namespace Token

variable {pos : Nat} {r : Bool} {cs s : List Char} {t : Token} {ts us : List Token}

/-- A token of a text is read from its characters, and the tokens behind it from
what these leave. -/
theorem exists_read_of_eq_append (h : tokenizeFrom pos r cs = ts ++ t :: us) (ht : t.kind ≠ .eof) :
    ∃ a c rest r', cs = a ++ c :: rest ∧ t.span.start = pos + byteLength a ∧
      t.kind = (Lexeme.read r' c rest).kind ∧
      t.span.stop = t.span.start + byteLength (Lexeme.read r' c rest).text ∧
      us = tokenizeFrom t.span.stop t.kind.allowsRegex (Lexeme.read r' c rest).rest := by
  induction ts generalizing pos r cs with
  | nil =>
    obtain ⟨w, c, rest, -, -, rfl, hkind, hspan, hus⟩ := eq_of_tokenizeFrom_eq_cons h ht
    exact ⟨w, c, rest, r, rfl, by rw [hspan], hkind, by rw [hspan], hus⟩
  | cons u ts ih =>
    have hu : u.kind ≠ .eof := kind_ne_eof_of_append h (List.cons_ne_nil t us) u List.mem_cons_self
    obtain ⟨w, d, x, -, -, rfl, -, hspan, hrest⟩ := eq_of_tokenizeFrom_eq_cons h hu
    obtain ⟨a, c, rest, r', hx, hstart, hread⟩ := ih hrest.symm
    refine ⟨w ++ ((Lexeme.read r d x).text ++ a), c, rest, r', ?_, ?_, hread⟩
    · rw [List.append_assoc, List.append_assoc, ← hx, Lexeme.text_append_rest]
    · rw [hstart, hspan, byteLength_append, byteLength_append, Nat.add_assoc, Nat.add_assoc]

/-- **A regular expression that is cut off**: it is not closed, and behind it
comes a line break. -/
def IsCutOff (s : List Char) (t : Token) : Prop :=
  (∃ pattern flags, t.kind = .regex pattern flags false) ∧ (dropBytes t.span.stop s).head? = some '\n'

/-- **The last token of a text**: the text ends where the token does, and only
this end comes behind it. -/
structure EndsText (s : List Char) (t : Token) (us : List Token) : Prop where
  stop_eq : t.span.stop = byteLength s
  behind : us = [⟨.eof, ⟨byteLength s, byteLength s⟩⟩]

theorem kind_ne_eof_of_isUnclosed (ht : t.isUnclosed = true) : t.kind ≠ .eof := by
  intro heof
  rw [isUnclosed, heof] at ht
  cases ht

/-- Where a text goes on with a line break it does not end. -/
theorem IsCutOff.stop_ne (h : IsCutOff s t) : t.span.stop ≠ byteLength s := by
  intro hend
  have hnil := dropBytes_byteLength s []
  rw [List.append_nil, ← hend] at hnil
  have hbreak := h.2
  rw [hnil] at hbreak
  cases hbreak

/-- **A literal that is left open is the last token of its text**, unless it is
cut off. In that case the text goes on at the line break, and there may be any
tokens behind it. -/
theorem endsText_iff (h : tokenize s = ts ++ t :: us) (ht : t.isUnclosed = true) :
    EndsText s t us ↔ ¬IsCutOff s t := by
  obtain ⟨a, c, rest, r, rfl, hstart, hkind, hstop, hus⟩ :=
    exists_read_of_eq_append h (kind_ne_eof_of_isUnclosed ht)
  have hparts := Lexeme.text_append_rest r c rest
  have hlen : t.span.stop = byteLength (a ++ (Lexeme.read r c rest).text) := by
    rw [hstop, hstart, Nat.zero_add, byteLength_append]
  have hdrop : dropBytes t.span.stop (a ++ c :: rest) = (Lexeme.read r c rest).rest := by
    rw [hlen, ← hparts, ← List.append_assoc, dropBytes_byteLength]
  rw [isUnclosed, hkind] at ht
  constructor
  · exact fun hend hcut => hcut.stop_ne hend.stop_eq
  · intro hcut
    rcases Lexeme.rest_of_isUnclosed ht with hnil | ⟨hregex, hbreak⟩
    · rw [hnil, List.append_nil] at hparts
      rw [hparts] at hlen
      rw [hnil, tokenizeFrom_nil, hlen] at hus
      exact ⟨hlen, hus⟩
    · rw [← hkind] at hregex
      rw [← hdrop] at hbreak
      exact absurd ⟨hregex, hbreak⟩ hcut

/-- **Before a literal that is left open** all others that are have been cut
off. Any other literal would have taken the rest of the text. -/
theorem isCutOff_of_mem (h : tokenize s = ts ++ t :: us) (ht : t.isUnclosed = true) {u : Token}
    (hu : u ∈ ts) (hopen : u.isUnclosed = true) : IsCutOff s u := by
  obtain ⟨xs, ys, rfl⟩ := List.append_of_mem hu
  rw [List.append_assoc, List.cons_append] at h
  refine Classical.byContradiction fun hcut => ?_
  -- there would be nothing but the end of the text between `u` and `t`
  obtain ⟨-, hbehind⟩ := (endsText_iff h hopen).mpr hcut
  have hmem : t ∈ ys ++ t :: us := List.mem_append_right ys List.mem_cons_self
  rw [hbehind, List.mem_singleton] at hmem
  exact kind_ne_eof_of_isUnclosed ht (by rw [hmem])

/-! ## The same literal in a longer text -/

/-- **The first literal that is left open** is read from the same place in every
text that begins as its text does before it, and begins there with the same
character. -/
theorem exists_front_of_find? (hfind : (tokenize s).find? isUnclosed = some t) :
    ∃ front c rest r, s = front ++ c :: rest ∧ isBlank c = false ∧
      t = ⟨(Lexeme.read r c rest).kind,
        ⟨byteLength front, byteLength front + byteLength (Lexeme.read r c rest).text⟩⟩ ∧
      ∀ x, ∃ ts, tokenize (front ++ c :: x) = ts ++ tokenizeFrom (byteLength front) r (c :: x) := by
  obtain ⟨hopen, ts, us, htokens, hts⟩ := List.find?_eq_some_iff_append.mp hfind
  obtain ⟨front, c, rest, r, rfl, hstart, hkind, -⟩ :=
    exists_read_of_eq_append htokens (kind_ne_eof_of_isUnclosed hopen)
  rw [isUnclosed, hkind] at hopen
  obtain ⟨hcontinues, hblank⟩ := Lexeme.continues_of_isUnclosed hopen
  -- the tokens are cut where the literal begins
  have horder := pairwise_span 0 true (front ++ c :: rest)
  rw [show tokenizeFrom 0 true _ = _ from htokens, List.pairwise_append, List.pairwise_cons] at horder
  obtain ⟨-, ⟨hafter, -⟩, hbefore⟩ := horder
  have hmem : t ∈ tokenizeFrom 0 true (front ++ c :: rest) := List.mem_of_find?_eq_some hfind
  have hends : ∀ u ∈ ts, u.kind ≠ .eof ∧ u.span.stop ≤ 0 + byteLength front := fun u hu =>
    ⟨kind_ne_eof_of_append htokens (List.cons_ne_nil t us) u hu,
      hstart ▸ hbefore u hu t List.mem_cons_self⟩
  have hbegins : ∀ u ∈ t :: us, 0 + byteLength front ≤ u.span.start := List.forall_mem_cons.mpr
    ⟨Nat.le_of_eq hstart.symm, fun u hu =>
      hstart ▸ Nat.le_trans (start_le_stop hmem) (hafter u hu)⟩
  obtain ⟨hfront, hback⟩ := tokenizeFrom_cut htokens hends hbegins
  rw [Nat.zero_add] at hback
  refine ⟨front, c, rest, regexAllowedAfter true ts, rfl, hblank, ?_, fun x => ⟨ts, ?_⟩⟩
  · rw [tokenizeFrom_cons hblank] at hback
    exact (List.cons.inj hback).1
  · -- the literals before this one are closed, so what they are does not depend on what follows
    have hclosed : ∀ u ∈ tokenizeFrom 0 true front, u.isUnclosed = false := by
      rw [hfront]
      exact List.forall_mem_append.mpr
        ⟨fun u hu => by simpa using hts u hu, List.forall_mem_singleton.mpr rfl⟩
    obtain ⟨ts', r', hts', happend⟩ :=
      tokenizeFrom_append (headNot_cons.mpr hcontinues) 0 true front hclosed (b := c :: x)
    obtain ⟨rfl, -⟩ := List.append_inj' (hts'.symm.trans hfront) rfl
    obtain ⟨-, hback⟩ := tokenizeFrom_cut happend hends fun u hu => le_start hu
    rw [Nat.zero_add] at happend hback
    rw [tokenize, tokenizeAt, happend, hback]

/-- **An offset inside a literal**: behind its beginning, and before its end
unless it is left open there. -/
def Encloses (t : Token) (n : Nat) : Prop :=
  t.span.start < n ∧ (n < t.span.stop ∨ n = t.span.stop ∧ t.isUnclosed = true)

end Token

namespace Lexeme

/-- **A literal that takes its whole text encloses the end of it** in every
longer text. It may be closed there, but not before that end. -/
theorem encloses_append {r : Bool} {c : Char} {a : List Char} (h : (read r c a).kind.isUnclosed = true)
    (hrest : (read r c a).rest = []) (n : Nat) (b : List Char) :
    Token.Encloses ⟨(read r c (a ++ b)).kind, ⟨n, n + byteLength (read r c (a ++ b)).text⟩⟩
      (n + byteLength (c :: a)) := by
  have hbegin : n < n + byteLength (c :: a) := by
    have hpos := c.utf8Size_pos
    rw [byteLength_cons]
    omega
  refine ⟨hbegin, ?_⟩
  have hparts := text_append_rest r c (a ++ b)
  by_cases hle : b.length ≤ (read r c (a ++ b)).rest.length
  · -- it takes no more than before
    have hwhole : (read r c a).text = c :: a := by
      have hparts := text_append_rest r c a
      rwa [hrest, List.append_nil] at hparts
    rw [read_append_of_le hle]
    refine .inr ⟨?_, h⟩
    rw [followedBy, hwhole]
  · left
    obtain ⟨z, hz, hb⟩ : ∃ z, (read r c (a ++ b)).text = (c :: a) ++ z ∧ b = z ++ (read r c (a ++ b)).rest := by
      rcases List.append_eq_append_iff.mp (hparts.trans (List.cons_append).symm) with
        ⟨z, -, hz⟩ | ⟨z, hz, hb⟩
      · rw [hz, List.length_append] at hle
        omega
      · exact ⟨z, hz, hb⟩
    have hne : byteLength z ≠ 0 := by
      intro hzero
      rw [byteLength_eq_zero_iff.mp hzero, List.nil_append] at hb
      rw [← hb] at hle
      exact hle (Nat.le_refl _)
    show n + byteLength (c :: a) < n + byteLength (read r c (a ++ b)).text
    rw [hz, byteLength_append]
    omega

end Lexeme

end QueryShell
