import QueryShell.Proofs.Literal.Faults
import QueryShell.Proofs.Query.Form

/-!
# The reader on its way through a chain of calls

The reader walks along the tokens of everything behind the collection. What it
meets on the way from one call to the next does not depend on how the text ends:
it stops at a fault, or it finds a call that has a form and goes on behind it.
Three relations say so, one for each stretch: up to the parenthesis that opens
the arguments, from there to the one that closes them (`InsideStep`), and the
two together (`Step`). Each is about the result of the reader, whatever it is,
and about the calls that the reader has read by then (`callsRead`), which it
forgets when it fails.

The reader counts parentheses and cuts the arguments out of the text by their
offsets, and only then reads them a second time as literals. The relations keep
the two apart as the reader does.

## Main statements

* `Query.insideStep_readCalls`: the way through the arguments of a call.
* `Query.step_readCalls`: the way through a whole call.
-/

namespace QueryShell.Query

open Text

variable {base : Nat} {text : List Char} {index : Nat}

/-! ## Calls that were read -/

/-- **The calls that the reader has read** when it stops, be it at a fault or at
the end of the text. The reader itself returns no calls together with a fault;
this one goes the same way and keeps them. -/
def callsRead (base : Nat) (text : List Char) : Place → List Token → List Call
  | _, [] => []
  | .outside, t :: ts => if t.kind = .dot then callsRead base text .afterDot ts else []
  | .afterDot, t :: ts =>
    match t.kind with
    | .ident name =>
      if isCallName name.toList then callsRead base text (.afterName name t.span.start) ts else []
    | .db => callsRead base text (.afterName "db" t.span.start) ts
    | _ => []
  | .afterName name start, t :: ts =>
    if t.kind = .opener .paren then callsRead base text (.inside name start t.span 0) ts else []
  | .inside name start opener depth, t :: ts =>
    if t.isUnclosed then []
    else
      match t.kind with
      | .opener .paren => callsRead base text (.inside name start opener (depth + 1)) ts
      | .closer .paren =>
        match depth with
        | depth + 1 => callsRead base text (.inside name start opener depth) ts
        | 0 =>
          let inner := slice (opener.stop - base) (t.span.start - base) text
          match Literal.parseListAt opener.stop inner with
          | .error _ => []
          | .ok args => ⟨name, args, ⟨start, t.span.stop⟩⟩ :: callsRead base text .outside ts
      | .eof => []
      | _ => callsRead base text (.inside name start opener depth) ts

/-- The part of a text between two offsets, counted from the offset where the
text begins. -/
theorem slice_middle (pre a b : List Char) : slice (base + byteLength pre - base)
    (base + byteLength pre + byteLength a - base) (pre ++ (a ++ b)) = a := by
  have hstart : base + byteLength pre - base = byteLength pre := by omega
  have hlen : base + byteLength pre + byteLength a - base - byteLength pre = byteLength a := by omega
  rw [slice, hstart, hlen, dropBytes_byteLength, takeBytes_byteLength]

/-- Every text has a token, be it the end of the text. -/
theorem exists_tokenizeFrom_eq_cons (pos : Nat) (r : Bool) (cs : List Char) :
    ∃ t ts, Token.tokenizeFrom pos r cs = t :: ts := by
  obtain ⟨us, hus, -⟩ := Token.tokenizeFrom_eq_append_eof pos r cs
  cases us with
  | nil => exact ⟨_, _, hus⟩
  | cons t us => exact ⟨t, _, hus⟩

/-! ## Through the arguments -/

/-- **The reader inside the parentheses of a call**, in the text `cs` from the
offset `pos` on: it stops at a fault, or it finds the parenthesis that closes
the call and goes on behind it. -/
inductive InsideStep (base : Nat) (text : List Char) (index : Nat) (name : String) (start : Nat)
    (opener : Span) (pos : Nat) (cs : List Char) : Except QueryError (List Call) → List Call → Prop
  /-- The arguments are accepted. -/
  | closed {a b : List Char} {args : List Literal} (hcs : cs = a ++ ')' :: b)
    (hargs : Literal.parseListAt opener.stop
      (slice (opener.stop - base) (pos + byteLength a - base) text) = .ok args) :
    InsideStep base text index name start opener pos cs
      (readCalls base text (index + 1) .outside
          (Token.tokenizeFrom (pos + byteLength a + 1) false b) >>= fun calls =>
        .ok (⟨name, args, ⟨start, pos + byteLength a + 1⟩⟩ :: calls))
      (⟨name, args, ⟨start, pos + byteLength a + 1⟩⟩ ::
        callsRead base text .outside (Token.tokenizeFrom (pos + byteLength a + 1) false b))
  /-- The arguments are refused. -/
  | refused {a b : List Char} {e : QueryError} (hcs : cs = a ++ ')' :: b)
    (hargs : Literal.parseListAt opener.stop
      (slice (opener.stop - base) (pos + byteLength a - base) text) = .error e) :
    InsideStep base text index name start opener pos cs (.error (e.inCall index)) []
  /-- A token on the way is at fault. -/
  | fault {a b : List Char} {f : Fault} (hcs : cs = a ++ b) :
    InsideStep base text index name start opener pos cs
      (.error ((f.toError (pos + byteLength a)).inCall index)) []
  /-- The text ends before the call is closed. -/
  | unbalanced : InsideStep base text index name start opener pos cs
      (.error ((Fault.unbalanced.toError opener.start).inCall index)) []

section

variable {name : String} {start depth pos : Nat} {opener : Span} {t : Token} {ts : List Token}

/-- An inner token leaves the reader where it is. -/
theorem readCalls_inner (ht : IsInner t) :
    readCalls base text index (.inside name start opener depth) (t :: ts) =
      readCalls base text index (.inside name start opener depth) ts := by
  obtain ⟨hclosed, hopener, hcloser, heof⟩ := ht
  rw [readCalls.eq_def]
  dsimp only
  rw [if_neg (by simp [hclosed])]
  split
  · contradiction
  · contradiction
  · contradiction
  · rfl

/-- An inner token adds no call to those that were read. -/
theorem callsRead_inner (ht : IsInner t) :
    callsRead base text (.inside name start opener depth) (t :: ts) =
      callsRead base text (.inside name start opener depth) ts := by
  obtain ⟨hclosed, hopener, hcloser, heof⟩ := ht
  rw [callsRead.eq_def]
  dsimp only
  rw [if_neg (by simp [hclosed])]
  split
  · contradiction
  · contradiction
  · contradiction
  · rfl

theorem InsideStep.append {cs : List Char} {result : Except QueryError (List Call)}
    {calls : List Call} (x : List Char)
    (h : InsideStep base text index name start opener (pos + byteLength x) cs result calls) :
    InsideStep base text index name start opener pos (x ++ cs) result calls := by
  have hlen (a : List Char) : pos + byteLength x + byteLength a = pos + byteLength (x ++ a) := by
    rw [byteLength_append, ← Nat.add_assoc]
  cases h with
  | @closed a b args hcs hargs =>
    rw [hlen] at hargs ⊢
    exact .closed (b := b) (by rw [hcs, List.append_assoc]) hargs
  | @refused a b e hcs hargs =>
    rw [hlen] at hargs
    exact .refused (b := b) (by rw [hcs, List.append_assoc]) hargs
  | @fault a b f hcs =>
    rw [hlen]
    exact .fault (b := b) (by rw [hcs, List.append_assoc])
  | unbalanced => exact .unbalanced

/-- **The way through the arguments of a call.** It ends in one of four ways:
the call is closed and its arguments are accepted, they are refused, a token is
at fault, or the text ends. -/
theorem insideStep_readCalls (r : Bool) (cs : List Char) :
    InsideStep base text index name start opener pos cs
      (readCalls base text index (.inside name start opener depth) (Token.tokenizeFrom pos r cs))
      (callsRead base text (.inside name start opener depth) (Token.tokenizeFrom pos r cs)) := by
  -- the depth goes up and down on the way, so the induction is over the text for every depth
  fun_induction Token.tokenizeFrom pos r cs generalizing depth with
  | case1 pos r => exact .unbalanced
  | case2 pos r c cs hc ih => exact ih.append [c]
  | case3 pos r c cs hc x stop =>
    rename_i ih
    have hskip (depth' : Nat) : InsideStep base text index name start opener pos (c :: cs)
        (readCalls base text index (.inside name start opener depth')
          (Token.tokenizeFrom stop x.kind.allowsRegex x.rest))
        (callsRead base text (.inside name start opener depth')
          (Token.tokenizeFrom stop x.kind.allowsRegex x.rest)) := by
      rw [← Lexeme.text_append_rest r c cs]
      exact ih.append x.text
    by_cases hinner : IsInner ⟨x.kind, ⟨pos, stop⟩⟩
    · rw [readCalls_inner hinner, callsRead_inner hinner]
      exact hskip depth
    rw [readCalls.eq_def, callsRead.eq_def]
    dsimp only
    by_cases hopen : x.kind.isUnclosed = true
    · rw [Token.isUnclosed, if_pos hopen, if_pos hopen]
      exact .fault (a := []) rfl
    rw [Token.isUnclosed, if_neg hopen, if_neg hopen]
    generalize hts : Token.tokenizeFrom stop x.kind.allowsRegex x.rest = ts at hskip ⊢
    by_cases hparen : x.kind = .opener .paren
    · simp only [hparen]
      exact hskip (depth + 1)
    by_cases hclose : x.kind = .closer .paren
    · simp only [hclose]
      cases depth with
      | succ depth => exact hskip depth
      | zero =>
        obtain ⟨rfl, hx⟩ := Lexeme.read_eq_of_kind_eq_punctuation (m := ')') (by decide) hclose
        have hrest : ts = Token.tokenizeFrom (pos + byteLength [] + 1) false cs := by
          rw [← hts]
          simp only [x, stop, hx]
          rfl
        have hstop : stop = pos + byteLength [] + 1 := by
          simp only [stop, x, hx]
          rfl
        dsimp only
        rw [hrest, hstop]
        cases hargs : Literal.parseListAt opener.stop (slice (opener.stop - base) (pos - base) text) with
        | error e => exact .refused (a := []) rfl hargs
        | ok args => exact .closed (a := []) rfl hargs
    by_cases heof : x.kind = .eof
    · simp only [heof]
      exact .unbalanced
    · exact absurd ⟨Bool.eq_false_iff.mpr hopen, hparen, hclose, heof⟩ hinner

end

/-! ## Up to the arguments -/

/-- **The reader behind a point**, in the text `cs` from the offset `pos` on: it
stops at a fault, or it finds the name of a call and, behind the name, an
opening parenthesis. -/
inductive NameStep (base : Nat) (text : List Char) (index : Nat) (pos : Nat) (cs : List Char) :
    Except QueryError (List Call) → List Call → Prop
  | fault {a b : List Char} {f : Fault} (hcs : cs = a ++ b) :
    NameStep base text index pos cs (.error ((f.toError (pos + byteLength a)).inCall index)) []
  | opened {w n w' rest : List Char} (hw : ∀ c ∈ w, isBlank c = true) (hn : isCallName n = true)
    (hw' : ∀ c ∈ w', isBlank c = true) (hcs : cs = w ++ (n ++ (w' ++ '(' :: rest))) :
    NameStep base text index pos cs
      (readCalls base text index (.inside (String.ofList n) (pos + byteLength w)
          ⟨pos + byteLength (w ++ (n ++ w')), pos + byteLength (w ++ (n ++ w')) + 1⟩ 0)
        (Token.tokenizeFrom (pos + byteLength (w ++ (n ++ w')) + 1) true rest))
      (callsRead base text (.inside (String.ofList n) (pos + byteLength w)
          ⟨pos + byteLength (w ++ (n ++ w')), pos + byteLength (w ++ (n ++ w')) + 1⟩ 0)
        (Token.tokenizeFrom (pos + byteLength (w ++ (n ++ w')) + 1) true rest))

/-- The reader behind the name of a call. -/
theorem nameStep_afterName {w n : List Char} (hw : ∀ c ∈ w, isBlank c = true)
    (hn : isCallName n = true) (pos : Nat) (r : Bool) (cs : List Char) :
    NameStep base text index pos (w ++ (n ++ cs))
      (readCalls base text index (.afterName (String.ofList n) (pos + byteLength w))
        (Token.tokenizeFrom (pos + byteLength (w ++ n)) r cs))
      (callsRead base text (.afterName (String.ofList n) (pos + byteLength w))
        (Token.tokenizeFrom (pos + byteLength (w ++ n)) r cs)) := by
  obtain ⟨t, ts, hts⟩ := exists_tokenizeFrom_eq_cons (pos + byteLength (w ++ n)) r cs
  have hmem : t ∈ Token.tokenizeFrom (pos + byteLength (w ++ n)) r cs := by
    rw [hts]
    exact List.mem_cons_self
  rw [hts, readCalls.eq_def, callsRead.eq_def]
  dsimp only
  split
  · next hparen =>
    obtain ⟨w', c, rest, hw', -, rfl, hk, hspan, rfl⟩ :=
      Token.eq_of_tokenizeFrom_eq_cons hts (by rw [hparen]; exact nofun)
    rw [hparen] at hk ⊢
    obtain ⟨rfl, hread⟩ := Lexeme.read_eq_of_kind_eq_punctuation (m := '(') (by decide) hk.symm
    have hlen : pos + byteLength (w ++ n) + byteLength w' = pos + byteLength (w ++ (n ++ w')) := by
      rw [← List.append_assoc, byteLength_append (w ++ n), Nat.add_assoc]
    rw [hspan, hread, hlen]
    exact .opened hw hn hw' rfl
  · obtain ⟨a, b, rfl, hstart⟩ := Token.exists_start_of_mem hmem
    have hlen : pos + byteLength (w ++ n) + byteLength a = pos + byteLength (w ++ (n ++ a)) := by
      rw [← List.append_assoc, byteLength_append (w ++ n), Nat.add_assoc]
    rw [hstart, hlen]
    exact .fault (b := b) (by simp)

/-- **The way from a point to the arguments of a call.** If no name or no
parenthesis follows, the token that stands there instead is at fault. -/
theorem nameStep_readCalls (pos : Nat) (r : Bool) (cs : List Char) :
    NameStep base text index pos cs
      (readCalls base text index .afterDot (Token.tokenizeFrom pos r cs))
      (callsRead base text .afterDot (Token.tokenizeFrom pos r cs)) := by
  obtain ⟨t, ts, hts⟩ := exists_tokenizeFrom_eq_cons pos r cs
  have hmem : t ∈ Token.tokenizeFrom pos r cs := by
    rw [hts]
    exact List.mem_cons_self
  have hfault : NameStep base text index pos cs
      (.error ((Fault.noName.toError t.span.start).inCall index)) [] := by
    obtain ⟨a, b, rfl, hstart⟩ := Token.exists_start_of_mem hmem
    rw [hstart]
    exact .fault rfl
  have hname {n : String} (hk : t.kind = .ident n ∨ (t.kind = .db ∧ n = "db"))
      (hn : isCallName n.toList = true) : NameStep base text index pos cs
        (readCalls base text index (.afterName n t.span.start) ts)
        (callsRead base text (.afterName n t.span.start) ts) := by
    obtain ⟨w, c, rest, hw, -, rfl, hkind, hspan, rfl⟩ := Token.eq_of_tokenizeFrom_eq_cons hts (by
      rcases hk with hk | ⟨hk, -⟩ <;> rw [hk] <;> exact nofun)
    rw [hkind] at hk
    have htext := Lexeme.text_eq_of_kind_eq_word hk
    have hrest := Lexeme.text_append_rest r c rest
    rw [htext] at hrest
    have hlen : pos + byteLength w + byteLength n.toList = pos + byteLength (w ++ n.toList) := by
      rw [byteLength_append, Nat.add_assoc]
    have hstep : NameStep base text index pos _ _ _ :=
      nameStep_afterName hw hn pos t.kind.allowsRegex (Lexeme.read r c rest).rest
    rw [String.ofList_toList, hrest] at hstep
    rwa [hspan, htext, hlen]
  rw [hts, readCalls.eq_def, callsRead.eq_def]
  dsimp only
  cases hk : t.kind with
  | ident n =>
    dsimp only
    split
    · next hn => exact hname (.inl hk) hn
    · exact hfault
  | db => exact hname (.inr ⟨hk, rfl⟩) (by decide)
  | _ => exact hfault

/-! ## Through a whole call -/

/-- **The reader behind a call or the collection**, in the text `cs` behind the
text `pre`: only blanks follow, or it stops at a fault, or it finds a call that
has a form and goes on behind it. A fault names the call at hand, unless there
is no call but something else. -/
inductive Step (base : Nat) (text : List Char) (index : Nat) (pre cs : List Char) :
    Except QueryError (List Call) → List Call → Prop
  | done (hcs : ∀ c ∈ cs, isBlank c = true) : Step base text index pre cs (.ok []) []
  | fault {a b : List Char} {e : QueryError} (hcs : cs = a ++ b)
    (hoffset : e.offset = some (base + byteLength pre + byteLength a))
    (hindex : e.callIndex = some index ∨ e.callIndex = none ∧ e.kind = .malformedQuery) :
    Step base text index pre cs (.error e) []
  | call {f : CallForm} {b : List Char} {c : Call} (hf : f.IsCall) (hcs : cs = f.chars ++ b)
    (hd : f.Denotes (base + byteLength pre + byteLength f.lead) c) :
    Step base text index pre cs
      (readCalls base text (index + 1) .outside
          (Token.tokenizeFrom (base + byteLength pre + byteLength f.chars) false b) >>= fun calls =>
        .ok (c :: calls))
      (c :: callsRead base text .outside
        (Token.tokenizeFrom (base + byteLength pre + byteLength f.chars) false b))

section

variable {pre rest : List Char} {result : Except QueryError (List Call)} {calls : List Call}

/-- What the reader does with the arguments is what it does with the call. The
form `f` has the parts up to the opening parenthesis, and `rest` is what stands
behind it. -/
theorem InsideStep.step {f : CallForm} (hdot : ∀ c ∈ f.beforeDot, isBlank c = true)
    (hlead : ∀ c ∈ f.beforeName, isBlank c = true) (hname : isCallName f.name = true)
    (hparen : ∀ c ∈ f.beforeParen, isBlank c = true) (htext : text = pre ++ (f.opening ++ rest))
    (h : InsideStep base text index (String.ofList f.name) (base + byteLength pre + byteLength f.lead)
      ⟨base + byteLength (pre ++ (f.lead ++ (f.name ++ f.beforeParen))),
        base + byteLength (pre ++ f.opening)⟩
      (base + byteLength (pre ++ f.opening)) rest result calls) :
    Step base text index pre (f.opening ++ rest) result calls := by
  have hpre (x : List Char) : base + byteLength (pre ++ x) = base + byteLength pre + byteLength x := by
    rw [byteLength_append, Nat.add_assoc]
  have hslice {a b : List Char} (hrest : rest = a ++ b) :
      slice (base + byteLength (pre ++ f.opening) - base)
        (base + byteLength (pre ++ f.opening) + byteLength a - base) text = a := by
    rw [htext, hrest, ← List.append_assoc]
    exact slice_middle ..
  cases h with
  | @closed a b args hcs hargs =>
    dsimp only at hargs
    rw [hslice hcs] at hargs
    have hargs' := (Literal.parseList_ofList_eq_ok_iff _).mpr hargs
    let g : CallForm := { f with args := a }
    have hchars : g.chars = f.opening ++ (a ++ [')']) := g.chars_eq_opening
    have hstop : base + byteLength (pre ++ f.opening) + byteLength a + 1 =
        base + byteLength pre + byteLength g.chars := by
      rw [hpre, Nat.add_assoc, Nat.add_assoc, ← Nat.add_assoc (byteLength f.opening)]
      exact congrArg _ g.byteLength_chars_eq_opening.symm
    rw [hstop]
    refine .call (f := g) ⟨hdot, hlead, hname, hparen, args, hargs'⟩ ?_ ⟨rfl, hargs', ?_⟩
    · rw [hcs, hchars]
      simp
    · show Span.mk _ _ = Span.mk _ _
      rw [g.byteLength_chars, ← Nat.add_assoc]
      rfl
  | @refused a b e hcs hargs =>
    dsimp only at hargs
    rw [hslice hcs] at hargs
    obtain ⟨fault, x, y, rfl, rfl, -⟩ := Literal.exists_of_parseListAt_error hargs
    refine .fault (a := f.opening ++ x) (b := y ++ ')' :: b) ?_ ?_ (.inl rfl)
    · rw [hcs]
      simp
    · show some _ = some _
      rw [hpre, byteLength_append, ← Nat.add_assoc]
  | @fault a b fault hcs =>
    refine .fault (a := f.opening ++ a) (b := b) ?_ ?_ (.inl rfl)
    · rw [hcs, List.append_assoc]
    · show some _ = some _
      rw [hpre, byteLength_append, ← Nat.add_assoc]
  | unbalanced =>
    refine .fault (a := f.lead ++ (f.name ++ f.beforeParen)) (b := '(' :: rest) ?_ ?_ (.inl rfl)
    · simp [CallForm.opening]
    · show some _ = some _
      rw [hpre]

/-- What the reader does behind a point is what it does with the call. -/
theorem NameStep.step {w cs : List Char} (hw : ∀ c ∈ w, isBlank c = true)
    (htext : text = pre ++ (w ++ '.' :: cs))
    (h : NameStep base text index (base + byteLength pre + byteLength w + 1) cs result calls) :
    Step base text index pre (w ++ '.' :: cs) result calls := by
  have hpos (x : List Char) : base + byteLength pre + byteLength w + 1 + byteLength x =
      base + byteLength (pre ++ (w ++ '.' :: x)) := by
    rw [byteLength_append, byteLength_append, byteLength_cons]
    have hdot : '.'.utf8Size = 1 := rfl
    omega
  cases h with
  | @fault a b f hcs =>
    refine .fault (a := w ++ '.' :: a) (b := b) ?_ ?_ (.inl rfl)
    · rw [hcs]
      simp
    · show some _ = some _
      rw [hpos, byteLength_append, Nat.add_assoc]
  | @opened w₁ n w₂ rest hw₁ hn hw₂ hcs =>
    let f : CallForm := ⟨w, w₁, n, w₂, []⟩
    have hopening : w ++ '.' :: cs = f.opening ++ rest := by
      rw [hcs]
      simp [f, CallForm.opening, CallForm.lead]
    have hlead : base + byteLength pre + byteLength w + 1 + byteLength w₁ =
        base + byteLength pre + byteLength f.lead := by
      rw [hpos, byteLength_append, Nat.add_assoc]
      rfl
    have hname : base + byteLength pre + byteLength w + 1 + byteLength (w₁ ++ (n ++ w₂)) =
        base + byteLength (pre ++ (f.lead ++ (f.name ++ f.beforeParen))) := by
      rw [hpos]
      simp [f, CallForm.lead]
    have hparen : base + byteLength (pre ++ (f.lead ++ (f.name ++ f.beforeParen))) + 1 =
        base + byteLength (pre ++ f.opening) := by
      have hopen : pre ++ f.opening = pre ++ (f.lead ++ (f.name ++ f.beforeParen)) ++ ['('] := by
        simp [CallForm.opening]
      rw [hopen, byteLength_append _ ['('], ← Nat.add_assoc]
      rfl
    rw [hopening] at htext ⊢
    rw [hlead, hname, hparen]
    exact (insideStep_readCalls true rest).step hw hw₁ hn hw₂ htext

/-- **The way through a whole call.** The cases of `parse_error_localised` are
those of this lemma, call by call. -/
theorem step_readCalls {cs : List Char} (htext : text = pre ++ cs) (r : Bool) :
    Step base text index pre cs
      (readCalls base text index .outside (Token.tokenizeFrom (base + byteLength pre) r cs))
      (callsRead base text .outside (Token.tokenizeFrom (base + byteLength pre) r cs)) := by
  obtain ⟨t, ts, hts⟩ := exists_tokenizeFrom_eq_cons (base + byteLength pre) r cs
  have hmem : t ∈ Token.tokenizeFrom (base + byteLength pre) r cs := by
    rw [hts]
    exact List.mem_cons_self
  rw [hts, readCalls.eq_def, callsRead.eq_def]
  dsimp only
  split
  · next hk =>
    rw [hk]
    exact .done (Token.blank_of_tokenizeFrom_eq_eof hts hk)
  · next hk =>
    obtain ⟨w, c, rest, hw, -, rfl, hkind, hspan, rfl⟩ :=
      Token.eq_of_tokenizeFrom_eq_cons hts (by rw [hk]; exact nofun)
    rw [hk] at hkind
    obtain ⟨rfl, hread⟩ :=
      Lexeme.read_eq_of_kind_eq_punctuation (m := '.') (by decide) hkind.symm
    rw [if_pos hk, hspan, hread]
    exact (nameStep_readCalls _ _ rest).step hw htext
  · next hne =>
    obtain ⟨a, b, rfl, hstart⟩ := Token.exists_start_of_mem hmem
    rw [if_neg hne]
    exact .fault rfl (congrArg some hstart) (.inr ⟨rfl, rfl⟩)

end

end QueryShell.Query
