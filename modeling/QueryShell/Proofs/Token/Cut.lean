import QueryShell.Proofs.Text.Boundary
import QueryShell.Proofs.Token.Scan

/-!
# Tokens of a cut text

Reading tokens can be stopped between two of them and taken up again. A scanner
looks past the token that it reads, as far as five characters for the code of an
escape, but what it sees there can only make the token longer: if it leaves a
part `b` of the text behind, then it reads the same token where the text ends
before `b` (`Lexeme.read_append_of_le`). So the tokens of an initial part of a
text are the first tokens of the text, wherever the text is cut outside its
tokens.

What comes behind the cut depends on the text before it in one thing, namely
whether a slash would begin a regular expression there. The last token alone
decides that (`Token.regexAllowedAfter`).

## Main statements

* `Lexeme.read_append_of_le`: a token does not depend on the text behind it.
* `Token.tokenizeFrom_cut`: the tokens on the two sides of a cut.
* `Token.pairwise_span`: tokens stand one behind the other.
-/

namespace QueryShell

open Text

namespace Lexeme

/-! ## What a scanner leaves behind -/

variable {quote : Char} {inClass : Bool} {a b : List Char}

/-- A run that ends before `b` does not depend on `b`. -/
theorem takeWhile_append_of_le {p : Char → Bool} (h : ((a ++ b).takeWhile p).length ≤ a.length) :
    (a ++ b).takeWhile p = a.takeWhile p := by
  rw [List.takeWhile_append] at h ⊢
  split
  · next hall =>
    rw [if_pos hall, List.length_append] at h
    have hnil : b.takeWhile p = [] := List.eq_nil_of_length_eq_zero (by omega)
    rw [hnil, List.append_nil]
    exact ((List.takeWhile_prefix p).eq_of_length hall).symm
  · rfl

/-- Where all of `b` is left behind a run, the run is that of `a` alone, and `b`
stands behind what it leaves of `a`. -/
theorem dropWhile_append_of_le {p : Char → Bool} (h : b.length ≤ ((a ++ b).dropWhile p).length) :
    (a ++ b).takeWhile p = a.takeWhile p ∧ (a ++ b).dropWhile p = a.dropWhile p ++ b := by
  have happ := List.takeWhile_append_dropWhile (p := p) (l := a ++ b)
  have hlen := congrArg List.length happ
  rw [List.length_append, List.length_append] at hlen
  have hrun : (a ++ b).takeWhile p = a.takeWhile p := takeWhile_append_of_le (by omega)
  have hsplit : a.takeWhile p ++ (a ++ b).dropWhile p = a.takeWhile p ++ (a.dropWhile p ++ b) := by
    rw [← hrun, happ, hrun, ← List.append_assoc, List.takeWhile_append_dropWhile]
  exact ⟨hrun, List.append_cancel_left hsplit⟩

/-- The fraction of a numeral that ends before `b` does not depend on `b`. -/
theorem fraction_append_of_le (h : (fraction (a ++ b)).length ≤ a.length) :
    fraction (a ++ b) = fraction a := by
  match a, b with
  | [], _ => exact List.eq_nil_of_length_eq_zero (Nat.le_zero.mp h)
  | [c], [] => rfl
  | [c], d :: b =>
    rw [List.singleton_append, fraction_cons_cons] at h ⊢
    split
    · next hpoint =>
      rw [if_pos hpoint] at h
      simp at h
    · rw [fraction_singleton]
  | c :: d :: a, b =>
    simp only [List.cons_append, fraction_cons_cons] at h ⊢
    split
    · next hpoint =>
      rw [if_pos hpoint] at h
      rw [takeWhile_append_of_le (by simpa using h)]
    · rfl

/-- The exponent of a numeral that ends before `b` does not depend on `b`. -/
theorem exponent_append_of_le (h : (exponent (a ++ b)).length ≤ a.length) :
    exponent (a ++ b) = exponent a := by
  match a, b with
  | [], _ => exact List.eq_nil_of_length_eq_zero (Nat.le_zero.mp h)
  | [c], [] => rfl
  | [c], d :: b =>
    -- an exponent has at least two characters
    show _ = []
    simp only [List.singleton_append, exponent] at h ⊢
    repeat' split at h
    all_goals simp_all
  | [c, d], [] => rfl
  | [c, d], d' :: b =>
    simp only [List.cons_append, List.nil_append, exponent, List.takeWhile_cons, List.takeWhile_nil]
      at h ⊢
    repeat' split at h
    all_goals simp_all
  | c :: d :: d' :: a, b =>
    have htake (h : ((a ++ b).takeWhile Char.isDigit).length ≤ a.length) :
        (a ++ b).takeWhile Char.isDigit = a.takeWhile Char.isDigit := takeWhile_append_of_le h
    simp only [List.cons_append, exponent, List.takeWhile_cons] at h ⊢
    repeat' split at h
    all_goals simp_all

/-- A numeral that ends before `b` does not depend on `b`. -/
theorem numeral_append_of_le (h : (numeral (a ++ b)).length ≤ a.length) :
    numeral (a ++ b) = numeral a := by
  have hprefix (cs : List Char) : (fraction cs).length ≤ cs.length :=
    List.IsPrefix.length_le ⟨_, fraction_append cs⟩
  have hwholeLe : (a.takeWhile Char.isDigit).length ≤ a.length :=
    (List.takeWhile_prefix Char.isDigit).length_le
  simp only [numeral, List.length_append] at h ⊢
  have hwhole : (a ++ b).takeWhile Char.isDigit = a.takeWhile Char.isDigit :=
    takeWhile_append_of_le (by omega)
  rw [hwhole, List.drop_append_of_le_length hwholeLe] at h ⊢
  -- what is left of `a` behind its digits has room for the fraction and the exponent
  generalize hrest : a.drop (a.takeWhile Char.isDigit).length = rest at h ⊢
  have hlen : rest.length + (a.takeWhile Char.isDigit).length = a.length := by
    rw [← hrest, List.length_drop]
    omega
  have hfraction : fraction (rest ++ b) = fraction rest := fraction_append_of_le (by omega)
  have hfractionLe := hprefix rest
  rw [hfraction, List.drop_append_of_le_length hfractionLe] at h ⊢
  rw [exponent_append_of_le]
  rw [List.length_drop]
  omega

/-- What a quoted string takes and what it leaves make up the text. -/
theorem length_rest_readQuoted_add (quote : Char) (cs : List Char) :
    (readQuoted quote cs).text.length + (readQuoted quote cs).rest.length = cs.length := by
  rw [← List.length_append, readQuoted_append]

/-- A quoted text takes at least one character of a text that has one. -/
theorem text_readQuoted_cons_ne_nil (quote c : Char) (cs : List Char) :
    (readQuoted quote (c :: cs)).text ≠ [] := by
  rw [readQuoted.eq_def]
  dsimp only
  repeat' split
  all_goals simp [Quoted.push]

/-- An escape takes the character behind the backslash. -/
theorem two_le_length_text_readQuoted (hq : '\\' ≠ quote) (e : Char) (cs : List Char) :
    2 ≤ (readQuoted quote ('\\' :: e :: cs)).text.length := by
  rw [readQuoted.eq_def]
  simp only [hq, if_false, if_true]
  repeat' split
  all_goals simp_all [Quoted.push]

/-- **A quoted text does not depend on what it leaves behind.** If at least `b`
is left of `a ++ b`, then `a` alone is read the same. The induction follows the
scanner. -/
theorem readQuoted_append_of_le (h : b.length ≤ (readQuoted quote (a ++ b)).rest.length) :
    readQuoted quote (a ++ b) = (readQuoted quote a).followedBy b := by
  fun_induction readQuoted quote a with
  | case1 =>
    cases b with
    | nil => rfl
    | cons c b =>
      have hlen := length_rest_readQuoted_add quote (c :: b)
      have hpos := List.length_pos_iff.mpr (text_readQuoted_cons_ne_nil quote c b)
      rw [List.nil_append] at h
      omega
  | case2 cs => exact readQuoted_quote _
  | case3 hq =>
    cases b with
    | nil =>
      rw [List.append_nil, readQuoted.eq_def]
      simp [hq, Quoted.followedBy]
    | cons e b =>
      have hlen := length_rest_readQuoted_add quote ('\\' :: e :: b)
      have hpos := two_le_length_text_readQuoted hq e b
      rw [List.singleton_append] at h
      simp only [List.length_cons] at h hlen
      omega
  | case4 h₁ h₂ h₃ h₄ rest x hx hne ih =>
    simp only [List.cons_append, readQuoted_code hne hx] at h ⊢
    rw [ih h, Quoted.followedBy_push]
  | case5 h₁ h₂ h₃ h₄ rest hx hne ih =>
    have hcode : ∀ k₁ k₂ k₃ k₄ r, h₁ :: h₂ :: h₃ :: h₄ :: rest ++ b = k₁ :: k₂ :: k₃ :: k₄ :: r →
        charOfHex? k₁ k₂ k₃ k₄ = none := by
      intro k₁ k₂ k₃ k₄ r he
      cases he
      exact hx
    have heq := readQuoted_noCode hne hcode
    rw [List.cons_append, List.cons_append, heq] at h ⊢
    rw [ih h, Quoted.followedBy_push]
  | case6 rest hshort hne ih =>
    -- a code would have to take some of `b`, for what is left of `a` is too short for one
    have hlen : rest.length < 4 := by
      rcases rest with _ | ⟨_, _ | ⟨_, _ | ⟨_, _ | ⟨_, _⟩⟩⟩⟩
      case cons.cons.cons.cons => exact absurd rfl (hshort _ _ _ _ _)
      all_goals simp
    have hcode : ∀ k₁ k₂ k₃ k₄ r, rest ++ b = k₁ :: k₂ :: k₃ :: k₄ :: r →
        charOfHex? k₁ k₂ k₃ k₄ = none := by
      intro k₁ k₂ k₃ k₄ r he
      cases hx : charOfHex? k₁ k₂ k₃ k₄ with
      | none => rfl
      | some x =>
        have htotal := congrArg List.length he
        have hrest := length_rest_readQuoted_add quote r
        rw [List.cons_append, List.cons_append, he, readQuoted_code hne hx] at h
        simp only [Quoted.push, List.length_append, List.length_cons] at h htotal
        omega
    have heq := readQuoted_noCode hne hcode
    rw [List.cons_append, List.cons_append, heq] at h ⊢
    rw [ih h, Quoted.followedBy_push]
  | case7 e rest _ he hne ih =>
    simp only [List.cons_append, readQuoted_escape hne he] at h ⊢
    rw [ih h, Quoted.followedBy_push]
  | case8 c cs hc hne ih =>
    simp only [List.cons_append, readQuoted_plain hc hne] at h ⊢
    rw [ih h, Quoted.followedBy_push]

/-- What a pattern takes and what it leaves make up the text. -/
theorem length_rest_readPattern_add (inClass : Bool) (cs : List Char) :
    (readPattern inClass cs).text.length + (readPattern inClass cs).rest.length = cs.length := by
  rw [← List.length_append, readPattern_append]

/-- A pattern without characters is one that the text or its line ends
before. -/
theorem readPattern_of_text_eq_nil {cs : List Char} (h : (readPattern inClass cs).text = []) :
    readPattern inClass cs = ⟨[], [], cs, false⟩ := by
  cases cs with
  | nil => rfl
  | cons c cs =>
    rw [readPattern.eq_def] at h ⊢
    dsimp only at h ⊢
    repeat' split at h
    all_goals simp_all [Pattern.push]

/-- **A regular expression does not depend on what it leaves behind**, inside of
a character class and outside. -/
theorem readPattern_append_of_le (h : b.length ≤ (readPattern inClass (a ++ b)).rest.length) :
    readPattern inClass (a ++ b) = (readPattern inClass a).followedBy b := by
  fun_induction readPattern inClass a with
  | case1 inClass =>
    have hlen := length_rest_readPattern_add inClass b
    rw [List.nil_append] at h ⊢
    exact readPattern_of_text_eq_nil (List.eq_nil_of_length_eq_zero (by omega))
  | case2 inClass =>
    cases b with
    | nil => simp [readPattern, Pattern.followedBy]
    | cons e b =>
      have hlen := length_rest_readPattern_add inClass b
      rw [List.singleton_append, readPattern.eq_def] at h
      simp [Pattern.push] at h
      omega
  | case3 inClass e rest ih =>
    rw [List.cons_append, List.cons_append, readPattern.eq_def] at h ⊢
    simp only [if_true] at h ⊢
    rw [ih h, Pattern.followedBy_push]
  | case4 inClass cs hslash ih =>
    rw [List.cons_append, readPattern.eq_def] at h ⊢
    simp only [hslash, if_false, if_true] at h ⊢
    rw [ih h, Pattern.followedBy_push]
  | case5 inClass cs hslash hopen ih =>
    rw [List.cons_append, readPattern.eq_def] at h ⊢
    simp only [hslash, hopen, if_false, if_true] at h ⊢
    rw [ih h, Pattern.followedBy_push]
  | case6 inClass c cs h₁ h₂ h₃ hc =>
    obtain ⟨rfl, rfl⟩ := hc
    rw [List.cons_append, readPattern.eq_def]
    rfl
  | case7 inClass cs h₁ h₂ h₃ h₄ =>
    rw [List.cons_append, readPattern.eq_def]
    simp only [h₁, h₂, h₃, h₄, if_false, if_true]
    rfl
  | case8 inClass c cs h₁ h₂ h₃ h₄ h₅ ih =>
    rw [List.cons_append, readPattern.eq_def] at h ⊢
    simp only [h₁, h₂, h₃, h₄, h₅, if_false] at h ⊢
    rw [ih h, Pattern.followedBy_push]

/-- **A token does not depend on the text behind it.** All kinds of tokens are
put together here, each with the scanner that it comes from. -/
theorem read_append_of_le {r : Bool} {c : Char} (h : b.length ≤ (read r c (a ++ b)).rest.length) :
    read r c (a ++ b) = (read r c a).followedBy b := by
  unfold read at h ⊢
  split at h
  · next hc =>
    rw [if_pos hc, if_pos hc, readQuoted_append_of_le h]
    rfl
  · next hc =>
    rw [if_neg hc, if_neg hc]
    split at h
    · next hr =>
      rw [if_pos hr, if_pos hr]
      dsimp only at h ⊢
      rw [List.length_drop] at h
      have hpattern := readPattern_append_of_le (Nat.le_trans h (Nat.sub_le _ _))
      rw [hpattern] at h ⊢
      generalize readPattern false a = p at h ⊢
      cases hclosed : p.closed with
      | false => simp [Pattern.followedBy, followedBy, hclosed]
      | true =>
        -- the flags stand in front of `b` too
        have hlen : ((p.rest ++ b).takeWhile Char.isAlpha).length ≤ p.rest.length := by
          simp only [Pattern.followedBy, hclosed, if_true, List.length_append] at h
          have hle := (List.takeWhile_prefix (l := p.rest ++ b) Char.isAlpha).length_le
          rw [List.length_append] at hle
          omega
        have hflags := takeWhile_append_of_le hlen
        rw [hflags] at hlen
        simp [Pattern.followedBy, followedBy, hclosed, hflags, List.drop_append_of_le_length hlen]
    · next hr =>
      rw [if_neg hr, if_neg hr]
      split at h
      · next hdigit =>
        rw [if_pos hdigit, if_pos hdigit]
        dsimp only at h ⊢
        rw [← List.cons_append] at h ⊢
        have hle : (numeral (c :: a ++ b)).length ≤ (c :: a ++ b).length :=
          List.IsPrefix.length_le ⟨_, numeral_append (c :: a ++ b)⟩
        rw [List.length_drop, List.length_append] at h
        rw [List.length_append] at hle
        have hlen : (numeral (c :: a ++ b)).length ≤ (c :: a).length := by omega
        have hnumeral := numeral_append_of_le hlen
        rw [hnumeral] at hlen ⊢
        rw [List.drop_append_of_le_length hlen]
        rfl
      · next hdigit =>
        rw [if_neg hdigit, if_neg hdigit]
        split at h
        · next hword =>
          rw [if_pos hword, if_pos hword]
          dsimp only at h ⊢
          obtain ⟨hrun, hrest⟩ := dropWhile_append_of_le h
          rw [hrun, hrest]
          rfl
        · next hword =>
          rw [if_neg hword, if_neg hword]
          rfl

/-- A token begins with the character that it is read from. -/
theorem exists_text_eq_cons (r : Bool) (c : Char) (cs : List Char) :
    ∃ text, (read r c cs).text = c :: text ∧ cs = text ++ (read r c cs).rest := by
  have hparts := text_append_rest r c cs
  obtain ⟨d, text, htext⟩ := List.exists_cons_of_ne_nil (text_ne_nil r c cs)
  rw [htext] at hparts
  obtain ⟨rfl, hcs⟩ := List.cons.inj hparts
  exact ⟨text, htext, hcs.symm⟩

/-- A token reads the same where its text ends before a part that it leaves
behind. -/
theorem exists_read_eq_followedBy {r : Bool} {c : Char} {rest z : List Char}
    (hz : (read r c rest).rest = z ++ b) :
    ∃ x, rest = x ++ b ∧ (read r c x).rest = z ∧ read r c rest = (read r c x).followedBy b := by
  obtain ⟨y, -, hrest⟩ := exists_text_eq_cons r c rest
  rw [hz, ← List.append_assoc] at hrest
  subst hrest
  have hread := read_append_of_le (r := r) (c := c) (a := y ++ z) (b := b)
    (by rw [hz, List.length_append]; exact Nat.le_add_left _ _)
  rw [hread] at hz
  exact ⟨y ++ z, rfl, List.append_cancel_right hz, hread⟩

end Lexeme

namespace Token

variable {pos : Nat} {r : Bool} {cs a b : List Char} {t : Token} {ts us : List Token}

/-! ## The order of the tokens -/

/-- No token begins before the place where the reading began. -/
theorem le_start (h : t ∈ tokenizeFrom pos r cs) : pos ≤ t.span.start := by
  by_cases ht : t.kind = .eof
  · rw [span_eq_of_eof h ht]
    exact Nat.le_add_right _ _
  · obtain ⟨a, _, _, _, _, hstart, _⟩ := exists_read_of_mem h ht
    rw [hstart]
    exact Nat.le_add_right _ _

theorem start_le_stop (h : t ∈ tokenizeFrom pos r cs) : t.span.start ≤ t.span.stop := by
  by_cases ht : t.kind = .eof
  · have hspan := span_eq_of_eof h ht
    exact Nat.le_of_eq ((congrArg Span.start hspan).trans (congrArg Span.stop hspan).symm)
  · obtain ⟨_, _, _, _, -, -, -, hstop⟩ := exists_read_of_mem h ht
    rw [hstop]
    exact Nat.le_add_right _ _

/-- **Tokens stand one behind the other**: each ends before the next one begins,
or where it does. -/
theorem pairwise_span (pos : Nat) (r : Bool) (cs : List Char) :
    (tokenizeFrom pos r cs).Pairwise fun t u => t.span.stop ≤ u.span.start := by
  fun_induction tokenizeFrom pos r cs with
  | case1 => exact List.pairwise_singleton _ _
  | case2 pos r c cs _ ih => exact ih
  | case3 pos r c cs _ x stop ih => exact List.pairwise_cons.mpr ⟨fun u hu => le_start hu, ih⟩

theorem exists_stop_of_mem (h : t ∈ tokenizeFrom pos r cs) :
    ∃ a b, cs = a ++ b ∧ t.span.stop = pos + byteLength a := by
  by_cases ht : t.kind = .eof
  · exact ⟨cs, [], (List.append_nil cs).symm, congrArg Span.stop (span_eq_of_eof h ht)⟩
  · obtain ⟨a, c, rest, r', rfl, hstart, -, hstop⟩ := exists_read_of_mem h ht
    refine ⟨a ++ (Lexeme.read r' c rest).text, (Lexeme.read r' c rest).rest, ?_, ?_⟩
    · rw [List.append_assoc, Lexeme.text_append_rest]
    · rw [hstop, hstart, byteLength_append, Nat.add_assoc]

/-- Only the last token is the end of the text. -/
theorem kind_ne_eof_of_append (h : tokenizeFrom pos r cs = ts ++ us) (hus : us ≠ []) :
    ∀ t ∈ ts, t.kind ≠ .eof := by
  obtain ⟨xs, hxs, hne⟩ := tokenizeFrom_eq_append_eof pos r cs
  obtain ⟨vs, v, rfl⟩ := List.eq_nil_or_concat us |>.resolve_left hus
  rw [hxs, List.concat_eq_append, ← List.append_assoc] at h
  obtain ⟨rfl, -⟩ := List.append_inj' h rfl
  exact fun t ht => hne t (List.mem_append_left vs ht)

/-! ## Where the text begins -/

/-- The same token `n` bytes further on. -/
def shifted (n : Nat) (t : Token) : Token :=
  ⟨t.kind, ⟨t.span.start + n, t.span.stop + n⟩⟩

/-- **Where a text begins only shifts its tokens.** Their kinds are the same,
and so is the distance between any two of them. -/
theorem tokenizeFrom_add (n pos : Nat) (r : Bool) (cs : List Char) :
    tokenizeFrom (pos + n) r cs = (tokenizeFrom pos r cs).map (shifted n) := by
  fun_induction tokenizeFrom pos r cs with
  | case1 => simp [shifted]
  | case2 pos r c cs hc ih => rw [tokenizeFrom_blank hc, Nat.add_right_comm, ih]
  | case3 pos r c cs hc x stop ih =>
    rw [tokenizeFrom_cons (by simpa using hc), List.map_cons, ← ih, shifted, Nat.add_right_comm]

/-! ## Cuts -/

/-- Whether a slash begins a regular expression behind some tokens, if it does
in front of them as `r` says. -/
def regexAllowedAfter (r : Bool) (ts : List Token) : Bool :=
  ts.foldl (fun _ t => t.kind.allowsRegex) r

/-- A text is blank as far as no token begins in it. -/
theorem isBlank_of_le_start (h : ∀ u ∈ tokenizeFrom pos r (a ++ b), pos + byteLength a ≤ u.span.start) :
    ∀ c ∈ a, isBlank c = true := by
  induction a generalizing pos with
  | nil => simp
  | cons c a ih =>
    rw [byteLength_cons] at h
    cases hc : isBlank c with
    | true =>
      rw [List.cons_append, tokenizeFrom_blank hc, ← Nat.add_assoc] at h
      exact List.forall_mem_cons.mpr ⟨hc, ih h⟩
    | false =>
      rw [List.cons_append, tokenizeFrom_cons hc] at h
      have hle := h _ List.mem_cons_self
      have hpos := c.utf8Size_pos
      dsimp only at hle
      omega

/-- **The tokens on the two sides of a cut** that lies inside no token. Those
before it are the tokens of the first part, without its end, and those behind it
are the tokens of the second part, read in the state that the first one
leaves. -/
theorem tokenizeFrom_cut (h : tokenizeFrom pos r (a ++ b) = ts ++ us)
    (hts : ∀ t ∈ ts, t.kind ≠ .eof ∧ t.span.stop ≤ pos + byteLength a)
    (hus : ∀ u ∈ us, pos + byteLength a ≤ u.span.start) :
    tokenizeFrom pos r a = ts ++ [⟨.eof, ⟨pos + byteLength a, pos + byteLength a⟩⟩] ∧
      us = tokenizeFrom (pos + byteLength a) (regexAllowedAfter r ts) b := by
  induction ts generalizing pos r a with
  | nil =>
    rw [List.nil_append] at h
    rw [← h] at hus
    have hblank := isBlank_of_le_start hus
    have ha := tokenizeFrom_blanks hblank pos r []
    rw [List.append_nil, tokenizeFrom_nil] at ha
    exact ⟨ha, by rw [← h, tokenizeFrom_blanks hblank]; rfl⟩
  | cons t ts ih =>
    obtain ⟨⟨hne, hstop⟩, hts⟩ := List.forall_mem_cons.mp hts
    obtain ⟨w, c, rest, hw, hc, hcs, hkind, hspan, hrest⟩ := eq_of_tokenizeFrom_eq_cons h hne
    have hlast : t.span.stop = pos + byteLength (w ++ (Lexeme.read r c rest).text) := by
      rw [hspan, byteLength_append, ← Nat.add_assoc]
    -- the blanks and the first token stand in front of the cut, with some text `z` behind them
    obtain ⟨z, rfl, hz⟩ : ∃ z, a = (w ++ (Lexeme.read r c rest).text) ++ z ∧
        (Lexeme.read r c rest).rest = z ++ b := by
      refine exists_eq_append_of_byteLength_le ?_ (by omega)
      rw [hcs, List.append_assoc, Lexeme.text_append_rest]
    obtain ⟨x, rfl, rfl, hread⟩ := Lexeme.exists_read_eq_followedBy hz
    have hlen (z : List Char) : pos + byteLength (w ++ (Lexeme.read r c (x ++ b)).text ++ z) =
        t.span.stop + byteLength z := by
      rw [hlast, byteLength_append (w ++ _), Nat.add_assoc]
    rw [hlen] at hts hus ⊢
    rw [hz] at hrest
    obtain ⟨hfront, hback⟩ := ih hrest.symm hts hus
    have ht : t = ⟨(Lexeme.read r c x).kind, ⟨pos + byteLength w,
        pos + byteLength w + byteLength (Lexeme.read r c x).text⟩⟩ := by
      rw [hread] at hkind hspan
      exact congr (congrArg Token.mk hkind) hspan
    refine ⟨?_, hback⟩
    rw [hread, List.append_assoc, tokenizeFrom_blanks hw]
    show tokenizeFrom _ r ((Lexeme.read r c x).text ++ (Lexeme.read r c x).rest) = _
    rw [Lexeme.text_append_rest, tokenizeFrom_cons hc, List.cons_append, ← hfront, ht]

end Token

end QueryShell
