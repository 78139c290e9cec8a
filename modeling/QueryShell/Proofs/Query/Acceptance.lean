import QueryShell.Proofs.Outcome
import QueryShell.Proofs.Query.Walk
import QueryShell.Proofs.Text.Ending

/-!
# Accepted query texts

A query text is accepted exactly if it has a form, and the query that is
returned is the one that the form stands for. The reader walks along the tokens
of everything behind the collection, while a form is about characters. That a
form was read follows from `step_readCalls`, which says what a whole call on the
way is. That a form is read is shown along the form: from a point to the
parenthesis that opens the arguments, and from there to the one that closes
them.

The reader counts parentheses and cuts the arguments out of the text by their
offsets, and only then reads them a second time as literals. Nothing in it says
that the two readings agree. They do, because an accepted argument text has no
parenthesis among its tokens and the closing parenthesis behind it changes none
of them.

## Main statements

* `Query.exists_forms_of_readCalls`: calls that were read have forms.
* `Query.readCalls_of_callsDenote`: calls that have forms are read.
* `Query.parse_eq_ok_iff_form`: what a query text is accepted as.
-/

namespace QueryShell.Query

open Text

variable {base : Nat} {text : List Char} {index : Nat}

/-! ## From tokens to forms -/

/-- **One call is read**: what follows a call or the collection is blank, or it
begins with a call that has a form, and the reader goes on behind its closing
parenthesis. -/
theorem exists_form_of_readCalls {pre cs : List Char} {r : Bool} {calls : List Call}
    (htext : text = pre ++ cs) (h : readCalls base text index .outside
      (Token.tokenizeFrom (base + byteLength pre) r cs) = .ok calls) :
    ((∀ c ∈ cs, isBlank c = true) ∧ calls = [] ∧
      callsRead base text .outside (Token.tokenizeFrom (base + byteLength pre) r cs) = []) ∨
    ∃ (f : CallForm) (b : List Char) (c : Call) (rest : List Call), f.IsCall ∧ cs = f.chars ++ b ∧
      f.Denotes (base + byteLength pre + byteLength f.lead) c ∧
      readCalls base text (index + 1) .outside
        (Token.tokenizeFrom (base + byteLength pre + byteLength f.chars) false b) = .ok rest ∧
      calls = c :: rest ∧
      callsRead base text .outside (Token.tokenizeFrom (base + byteLength pre) r cs) =
        c :: callsRead base text .outside
          (Token.tokenizeFrom (base + byteLength pre + byteLength f.chars) false b) := by
  have hstep : Step base text index pre cs _ _ := step_readCalls htext r
  rw [h] at hstep
  generalize callsRead base text .outside _ = read at hstep ⊢
  generalize hresult : Except.ok calls = result at hstep
  cases hstep with
  | done hcs =>
    cases hresult
    exact .inl ⟨hcs, rfl, rfl⟩
  | fault => cases hresult
  | call hf hcs hd =>
    obtain ⟨rest, hrest, hcalls⟩ := bind_eq_ok.mp hresult.symm
    exact .inr ⟨_, _, _, rest, hf, hcs, hd, hrest, (Except.ok.inj hcalls).symm, rfl⟩

/-- **Calls that were read have forms**, by induction on the calls. What the
reader passed over between their tokens is blank, and goes into the forms. -/
theorem exists_forms_of_readCalls {pre cs : List Char} {r : Bool} {calls : List Call}
    (htext : text = pre ++ cs) (h : readCalls base text index .outside
      (Token.tokenizeFrom (base + byteLength pre) r cs) = .ok calls) :
    ∃ fs w, cs = fs.flatMap CallForm.chars ++ w ∧ (∀ c ∈ w, isBlank c = true) ∧
      (∀ f ∈ fs, f.IsCall) ∧ CallsDenote (base + byteLength pre) fs calls := by
  induction calls generalizing pre cs r index with
  | nil =>
    rcases exists_form_of_readCalls htext h with
      ⟨hblank, -⟩ | ⟨f, b, c, rest, -, -, -, -, hcalls, -⟩
    · exact ⟨[], cs, rfl, hblank, by simp, .nil⟩
    · cases hcalls
  | cons c calls ih =>
    rcases exists_form_of_readCalls htext h with
      ⟨-, hnil, -⟩ | ⟨f, b, d, rest, hf, rfl, hd, hrest, hcalls, -⟩
    · cases hnil
    · cases hcalls
      have hpos : base + byteLength pre + byteLength f.chars = base + byteLength (pre ++ f.chars) := by
        rw [byteLength_append, Nat.add_assoc]
      rw [hpos] at hrest
      obtain ⟨fs, w, rfl, hw, hfs, hds⟩ := ih (by rw [htext, List.append_assoc]) hrest
      refine ⟨f :: fs, w, ?_, hw, List.forall_mem_cons.mpr ⟨hf, hfs⟩, .cons hd ?_⟩
      · rw [List.flatMap_cons, List.append_assoc]
      · rwa [hpos]

/-- The calls that were read are those that the reader returns. -/
theorem callsRead_of_readCalls {pre cs : List Char} {r : Bool} {calls : List Call}
    (htext : text = pre ++ cs) (h : readCalls base text index .outside
      (Token.tokenizeFrom (base + byteLength pre) r cs) = .ok calls) :
    callsRead base text .outside (Token.tokenizeFrom (base + byteLength pre) r cs) = calls := by
  induction calls generalizing pre cs r index with
  | nil =>
    rcases exists_form_of_readCalls htext h with ⟨-, -, hread⟩ | ⟨f, b, c, rest, -, -, -, -, hcalls, -⟩
    · exact hread
    · cases hcalls
  | cons c calls ih =>
    rcases exists_form_of_readCalls htext h with
      ⟨-, hnil, -⟩ | ⟨f, b, d, rest, -, rfl, -, hrest, hcalls, hread⟩
    · cases hnil
    · cases hcalls
      rw [Nat.add_assoc, ← byteLength_append] at hrest hread
      rw [hread, ih (by rw [htext, List.append_assoc]) hrest]

/-! ## From forms to tokens -/

section

variable {name : String} {start depth : Nat} {opener s : Span} {ts : List Token}

theorem readCalls_dot : readCalls base text index .outside (⟨.dot, s⟩ :: ts) =
    readCalls base text index .afterDot ts := rfl

/-- A word behind a point is the name of a call if it may be one; `db` is such a
word. -/
theorem readCalls_word {n : List Char} (hn : isCallName n = true) :
    readCalls base text index .afterDot (⟨Lexeme.wordKind n, s⟩ :: ts) =
      readCalls base text index (.afterName (String.ofList n) s.start) ts := by
  rcases Lexeme.wordKind_cases n with ⟨rfl, hk⟩ | hk
  · rw [hk]
    rfl
  · rw [hk]
    show (if isCallName (String.ofList n).toList = true then _ else _) = _
    rw [String.toList_ofList, if_pos hn]

theorem readCalls_opener : readCalls base text index (.afterName name start)
    (⟨.opener .paren, s⟩ :: ts) = readCalls base text index (.inside name start s 0) ts := rfl

/-- Inner tokens, any number of them, leave the reader where it is. -/
theorem readCalls_inners {us : List Token} (hts : ∀ t ∈ ts, IsInner t) :
    readCalls base text index (.inside name start opener depth) (ts ++ us) =
      readCalls base text index (.inside name start opener depth) us := by
  induction ts with
  | nil => rfl
  | cons t ts ih =>
    rw [List.cons_append, readCalls_inner (hts t List.mem_cons_self),
      ih fun u hu => hts u (List.mem_cons_of_mem t hu)]

/-- The parenthesis that closes the arguments makes a call of them, before the
calls that follow. -/
theorem readCalls_closer {args : List Literal} {rest : List Call}
    (hargs : Literal.parseListAt opener.stop
      (slice (opener.stop - base) (s.start - base) text) = .ok args)
    (hrest : readCalls base text (index + 1) .outside ts = .ok rest) :
    readCalls base text index (.inside name start opener 0) (⟨.closer .paren, s⟩ :: ts) =
      .ok (⟨name, args, ⟨start, s.stop⟩⟩ :: rest) := by
  have hclosed : ¬Token.isUnclosed ⟨.closer .paren, s⟩ = true := Bool.false_ne_true
  rw [readCalls.eq_def]
  dsimp only
  rw [if_neg hclosed, hargs, hrest]
  rfl

end

/-- The tokens of a call up to its opening parenthesis, where the text of the
call begins at `pos`. -/
def CallForm.openingTokens (f : CallForm) (pos : Nat) : List Token :=
  [⟨.dot, ⟨pos + byteLength f.beforeDot, pos + byteLength f.beforeDot + 1⟩⟩,
    ⟨Lexeme.wordKind f.name, ⟨pos + byteLength f.lead, pos + byteLength f.lead + byteLength f.name⟩⟩,
    ⟨.opener .paren, ⟨pos + byteLength f.lead + byteLength f.name + byteLength f.beforeParen,
      pos + byteLength f.opening⟩⟩]

/-- **A call that has a form begins with a point, its name and a parenthesis.**
The name may be the word `db`, which is a token of its own kind. -/
theorem CallForm.IsCall.tokenizeFrom_opening {f : CallForm} (hf : f.IsCall) (pos : Nat) (r : Bool)
    (x : List Char) : Token.tokenizeFrom pos r (f.opening ++ x) =
      f.openingTokens pos ++ Token.tokenizeFrom (pos + byteLength f.opening) true x := by
  obtain ⟨-, -, c, t, hname, hc, ht⟩ := isCallName_spec hf.name
  have hblank : isBlank c = false := Lexeme.isBlank_of_isWordChar (Lexeme.isWordChar_of_isWordStart hc)
  have hword : HeadNot Lexeme.isWordChar (f.beforeParen ++ '(' :: x) :=
    headNot_isWordChar_append hf.beforeParen (headNot_cons.mpr (by decide))
  have hparts : f.opening ++ x = f.beforeDot ++ '.' :: (f.beforeName ++
      (f.name ++ (f.beforeParen ++ '(' :: x))) := by
    simp [CallForm.opening, CallForm.lead]
  have hlead : pos + byteLength f.beforeDot + byteLength ['.'] + byteLength f.beforeName =
      pos + byteLength f.lead := by
    have hdot : byteLength ['.'] = 1 := rfl
    rw [f.byteLength_lead, hdot]
    omega
  have hopening : pos + byteLength f.lead + byteLength f.name + byteLength f.beforeParen +
      byteLength ['('] = pos + byteLength f.opening := by
    have hparen : byteLength ['('] = 1 := rfl
    rw [f.byteLength_opening, hparen]
    omega
  rw [hparts, Token.tokenizeFrom_blanks hf.beforeDot, Token.tokenizeFrom_cons (by decide),
    Lexeme.read_mark (by decide)]
  dsimp only
  rw [Token.tokenizeFrom_blanks hf.beforeName, hname, List.cons_append,
    Token.tokenizeFrom_cons hblank, Lexeme.read_word hc ht hword, ← hname]
  dsimp only
  rw [Token.tokenizeFrom_blanks hf.beforeParen, Token.tokenizeFrom_cons (by decide),
    Lexeme.read_mark (by decide), hlead, hopening]
  rfl

/-- Up to the opening parenthesis of a call that has a form, the reader finds
the name. -/
theorem readCalls_opening {f : CallForm} (hf : f.IsCall) (pos : Nat) (r : Bool) (x : List Char) :
    readCalls base text index .outside (Token.tokenizeFrom pos r (f.opening ++ x)) =
      readCalls base text index (.inside (String.ofList f.name) (pos + byteLength f.lead)
          ⟨pos + byteLength f.lead + byteLength f.name + byteLength f.beforeParen,
            pos + byteLength f.opening⟩ 0)
        (Token.tokenizeFrom (pos + byteLength f.opening) true x) := by
  rw [hf.tokenizeFrom_opening, CallForm.openingTokens, List.cons_append, readCalls_dot,
    List.cons_append, readCalls_word hf.name, List.cons_append, readCalls_opener, List.nil_append]

/-- From the opening parenthesis on, the reader finds the arguments of a call
that has a form. -/
theorem readCalls_args {name : String} {start pos : Nat} {opener : Span} {a b : List Char}
    {args : List Literal} {rest : List Call} (hargs : Literal.parseList (String.ofList a) = .ok args)
    (hslice : slice (opener.stop - base) (pos + byteLength a - base) text = a)
    (hrest : readCalls base text (index + 1) .outside
      (Token.tokenizeFrom (pos + byteLength a + 1) false b) = .ok rest) :
    readCalls base text index (.inside name start opener 0)
        (Token.tokenizeFrom pos true (a ++ ')' :: b)) =
      .ok (⟨name, args, ⟨start, pos + byteLength a + 1⟩⟩ :: rest) := by
  obtain ⟨ts, hts, -, htoks⟩ := exists_tokens_of_accepted hargs pos b
  rw [htoks, readCalls_inners hts]
  refine readCalls_closer ?_ hrest
  rw [hslice]
  exact (Literal.parseList_ofList_eq_ok_iff _).mp hargs

/-- **A call that has a form is read**, if what follows it is. Its arguments are
accepted on their own, and so their tokens are nested and lead the reader to the
closing parenthesis. -/
theorem readCalls_of_denotes {f : CallForm} {pre b : List Char} {c : Call} {rest : List Call}
    (hf : f.IsCall) (htext : text = pre ++ (f.chars ++ b))
    (hd : f.Denotes (base + byteLength pre + byteLength f.lead) c)
    (hrest : readCalls base text (index + 1) .outside
      (Token.tokenizeFrom (base + byteLength pre + byteLength f.chars) false b) = .ok rest)
    (r : Bool) :
    readCalls base text index .outside (Token.tokenizeFrom (base + byteLength pre) r (f.chars ++ b)) =
      .ok (c :: rest) := by
  have hchars : f.chars ++ b = f.opening ++ (f.args ++ ')' :: b) := by
    rw [f.chars_eq_opening]
    simp
  have hopen : base + byteLength pre + byteLength f.opening = base + byteLength (pre ++ f.opening) := by
    rw [byteLength_append, Nat.add_assoc]
  have hstop : base + byteLength (pre ++ f.opening) + byteLength f.args + 1 =
      base + byteLength pre + byteLength f.chars := by
    rw [← hopen, f.byteLength_chars_eq_opening]
    omega
  have hslice : slice (base + byteLength (pre ++ f.opening) - base)
      (base + byteLength (pre ++ f.opening) + byteLength f.args - base) text = f.args := by
    rw [htext, hchars, ← List.append_assoc]
    exact slice_middle ..
  have hc : c = ⟨String.ofList f.name, c.args, ⟨base + byteLength pre + byteLength f.lead,
      base + byteLength pre + byteLength f.chars⟩⟩ := by
    have hname := hd.name
    have hspan := hd.span
    rw [f.byteLength_chars, ← Nat.add_assoc]
    cases c
    dsimp only at hname hspan
    rw [hname, hspan]
  rw [← hstop] at hrest
  rw [hchars, readCalls_opening hf, hopen, hc, ← hstop]
  exact readCalls_args hd.args hslice hrest

/-- **Calls that have forms are read**, one behind the other, by induction on
the forms. -/
theorem readCalls_of_callsDenote {fs : List CallForm} {calls : List Call} {pos : Nat}
    (hd : CallsDenote pos fs calls) (hfs : ∀ f ∈ fs, f.IsCall) {pre : List Char}
    (hpos : pos = base + byteLength pre) (htext : text = pre ++ fs.flatMap CallForm.chars) (r : Bool) :
    readCalls base text index .outside (Token.tokenizeFrom pos r (fs.flatMap CallForm.chars)) =
      .ok calls := by
  induction hd generalizing pre index r with
  | nil =>
    rw [List.flatMap_nil, Token.tokenizeFrom_nil]
    rfl
  | @cons pos f fs c cs h hs ih =>
    subst hpos
    rw [List.flatMap_cons] at htext ⊢
    refine readCalls_of_denotes (hfs f List.mem_cons_self) htext h ?_ r
    have hpos : base + byteLength pre + byteLength f.chars = base + byteLength (pre ++ f.chars) := by
      rw [byteLength_append, Nat.add_assoc]
    have hrest : text = pre ++ f.chars ++ fs.flatMap CallForm.chars := by
      rw [htext, List.append_assoc]
    exact ih (fun g hg => hfs g (List.mem_cons_of_mem f hg)) hpos hrest false

/-! ## The whole text -/

/-- Blanks or a point behind `db` do not go on with the word. -/
theorem afterDb_not_word {w x : List Char} (hw : ∀ c ∈ w, isBlank c = true) :
    ((w ++ '.' :: x).head?.any fun c => isNameChar c || c == '$') = false := by
  cases w with
  | nil => rfl
  | cons c w =>
    have hc := hw c List.mem_cons_self
    have hname : isNameChar c = false := Bool.eq_false_iff.mpr fun h => by
      rw [isBlank_of_isNameChar h] at hc
      cases hc
    have hdollar : c ≠ '$' := Lexeme.ne_of_apply_ne hc (by decide)
    simp [hname, hdollar]

/-- Where the calls begin, counted along the parts in front of them. -/
theorem add_byteLength_target (start : Nat) (w w' c : List Char) :
    start + 2 + byteLength w + 1 + byteLength w' + byteLength c =
      start + byteLength ('d' :: 'b' :: (w ++ '.' :: (w' ++ c))) := by
  show _ = start + byteLength (['d', 'b'] ++ (w ++ (['.'] ++ (w' ++ c))))
  have hdb : byteLength ['d', 'b'] = 2 := rfl
  have hdot : byteLength ['.'] = 1 := rfl
  simp only [byteLength_append, hdb, hdot]
  omega

/-- **What stands in front of the calls**, read from the characters. No token is
looked at there: the name of a collection may begin with a digit, and would be
several tokens. -/
theorem target_read_of_parts {start : Nat} {w w' c rest : List Char}
    (hw : ∀ x ∈ w, isBlank x = true) (hw' : ∀ x ∈ w', isBlank x = true)
    (hc : ∀ x ∈ c, isNameChar x = true) (hne : c ≠ []) (hrest : HeadNot isNameChar rest) :
    Target.read start ('d' :: 'b' :: (w ++ '.' :: (w' ++ (c ++ rest)))) =
      .ok ⟨c, rest, start + byteLength ('d' :: 'b' :: (w ++ '.' :: (w' ++ c)))⟩ := by
  have hdot : HeadNot isBlank ('.' :: (w' ++ (c ++ rest))) := headNot_cons.mpr (by decide)
  have hname : HeadNot isBlank (c ++ rest) := headNot_isBlank_append hc hne
  rw [Target.read, afterDb_not_word hw, if_neg Bool.false_ne_true, List.dropWhile_append_of_pos hw,
    dropWhile_of_headNot hdot, List.takeWhile_append_of_pos hw, takeWhile_of_headNot hdot]
  show (if _ then _ else _) = _
  rw [List.dropWhile_append_of_pos hw', dropWhile_of_headNot hname,
    List.takeWhile_append_of_pos hw', takeWhile_of_headNot hname, List.takeWhile_append_of_pos hc,
    takeWhile_of_headNot hrest, List.dropWhile_append_of_pos hc, dropWhile_of_headNot hrest]
  simp only [List.append_nil]
  rw [if_neg (by simpa using hne), add_byteLength_target]

/-- What is read in front of the calls is made of its parts. -/
theorem exists_parts_of_target_read {start : Nat} {cs : List Char} {t : Target}
    (h : Target.read start cs = .ok t) :
    ∃ w w', (∀ x ∈ w, isBlank x = true) ∧ (∀ x ∈ w', isBlank x = true) ∧
      (∀ x ∈ t.collection, isNameChar x = true) ∧ t.collection ≠ [] ∧
      cs = 'd' :: 'b' :: (w ++ '.' :: (w' ++ (t.collection ++ t.rest))) ∧
      t.restStart = start + byteLength ('d' :: 'b' :: (w ++ '.' :: (w' ++ t.collection))) := by
  unfold Target.read at h
  split at h
  · next afterDb =>
    split at h
    · cases h
    · dsimp only at h
      split at h
      · next afterDot hdot =>
        split at h
        · cases h
        · next hne =>
          cases h
          refine ⟨afterDb.takeWhile isBlank, afterDot.takeWhile isBlank, ?_, ?_, ?_, ?_, ?_, ?_⟩
          · exact List.all_eq_true.mp List.all_takeWhile
          · exact List.all_eq_true.mp List.all_takeWhile
          · exact List.all_eq_true.mp List.all_takeWhile
          · simpa using hne
          · rw [List.takeWhile_append_dropWhile, List.takeWhile_append_dropWhile, ← hdot,
              List.takeWhile_append_dropWhile]
          · exact add_byteLength_target ..
      · cases h
  · cases h

/-- There are calls where there are forms, and only there. -/
theorem CallsDenote.eq_nil_iff {pos : Nat} {fs : List CallForm} {calls : List Call}
    (h : CallsDenote pos fs calls) : fs = [] ↔ calls = [] := by
  cases h with
  | nil => exact ⟨fun _ => rfl, fun _ => rfl⟩
  | cons h hs => exact ⟨fun h => absurd h (List.cons_ne_nil _ _), fun h => absurd h (List.cons_ne_nil _ _)⟩

/-- Calls that have forms can be made, wherever they begin. -/
theorem exists_callsDenote {fs : List CallForm} (hfs : ∀ f ∈ fs, f.IsCall) (pos : Nat) :
    ∃ calls, CallsDenote pos fs calls := by
  induction fs generalizing pos with
  | nil => exact ⟨[], .nil⟩
  | cons f fs ih =>
    obtain ⟨xs, hxs⟩ := (hfs f List.mem_cons_self).args
    obtain ⟨calls, hcalls⟩ := ih (fun g hg => hfs g (List.mem_cons_of_mem f hg))
      (pos + byteLength f.chars)
    exact ⟨⟨_, xs, _⟩ :: calls, .cons ⟨rfl, hxs, rfl⟩ hcalls⟩

/-- A form of a query stands for a query. -/
theorem Form.IsQuery.exists_denotes {f : Form} (hf : f.IsQuery) : ∃ q, f.Denotes q := by
  obtain ⟨calls, hcalls⟩ := exists_callsDenote hf.calls (byteLength f.target)
  exact ⟨⟨String.ofList f.collection, calls⟩, rfl, hcalls⟩

/-- The last character of a call is no blank and no semicolon. -/
theorem headNot_isTail_reverse {pre : List Char} {fs : List CallForm} (hne : fs ≠ []) :
    HeadNot isTail (pre ++ fs.flatMap CallForm.chars).reverse := by
  obtain ⟨gs, g, rfl⟩ := List.eq_nil_or_concat fs |>.resolve_left hne
  rw [List.concat_eq_append, List.flatMap_append, List.flatMap_singleton, CallForm.chars, CallForm.body]
  simp only [List.reverse_append, List.reverse_cons, List.append_assoc]
  exact headNot_cons.mpr (by decide)

/-- The tail of a text that has a form is stripped. -/
theorem Form.IsQuery.dropEndWhile_chars {f : Form} (hf : f.IsQuery) :
    dropEndWhile isTail f.chars = f.target ++ f.calls.flatMap CallForm.chars := by
  rw [Form.chars, ← List.append_assoc, dropEndWhile_append_of_all hf.tail,
    dropEndWhile_of_headNot (headNot_isTail_reverse hf.calls_ne_nil)]

/-- **In front of the calls of a text that has a form** are blanks, and behind
them its collection is read. What is taken off the end of the text is the tail
of the form. -/
theorem Form.IsQuery.target_read {f : Form} (hf : f.IsQuery) :
    let stripped := dropEndWhile isTail f.chars
    stripped.takeWhile isBlank = f.before ∧
      Target.read (byteLength f.before) (stripped.dropWhile isBlank) =
        .ok ⟨f.collection, f.calls.flatMap CallForm.chars, byteLength f.target⟩ := by
  have hparts : f.target ++ f.calls.flatMap CallForm.chars = f.before ++ 'd' :: 'b' ::
      (f.afterDb ++ '.' :: (f.afterDot ++ (f.collection ++ f.calls.flatMap CallForm.chars))) := by
    simp [Form.target]
  have hd' (x : List Char) : HeadNot isBlank ('d' :: x) := headNot_cons.mpr (by decide)
  have hrest := headNot_isNameChar_calls hf.calls_ne_nil hf.calls []
  rw [List.append_nil] at hrest
  have hlen : byteLength f.before + byteLength ('d' :: 'b' ::
      (f.afterDb ++ '.' :: (f.afterDot ++ f.collection))) = byteLength f.target := by
    rw [Form.target, byteLength_append]
  dsimp only
  rw [hf.dropEndWhile_chars, hparts, List.takeWhile_append_of_pos hf.before,
    takeWhile_of_headNot (hd' _), List.dropWhile_append_of_pos hf.before, dropWhile_of_headNot (hd' _),
    List.append_nil, target_read_of_parts hf.afterDb hf.afterDot hf.collection hf.collection_ne_nil hrest,
    hlen]
  exact ⟨rfl, rfl⟩

/-- **A text that has a form is read** as what the form stands for. This is one
half of `parse_eq_ok_iff_form`; the other is `exists_form_of_read`. -/
theorem read_of_form {f : Form} {q : Query} (hf : f.IsQuery) (hd : f.Denotes q) :
    read f.chars = .ok q := by
  have hne : ¬(f.target ++ f.calls.flatMap CallForm.chars).isEmpty = true := by
    simp [Form.target]
  have hcalls : ¬q.calls.isEmpty = true := by
    rw [List.isEmpty_iff, ← hd.calls.eq_nil_iff]
    exact hf.calls_ne_nil
  have hread : readCalls (byteLength f.target) (f.calls.flatMap CallForm.chars) 0 .outside
      (Token.tokenizeFrom (byteLength f.target) true (f.calls.flatMap CallForm.chars)) =
      .ok q.calls :=
    readCalls_of_callsDenote hd.calls hf.calls (show _ = _ + byteLength [] from rfl)
      (show _ = [] ++ _ from rfl) true
  unfold read
  dsimp only
  rw [hf.target_read.1, hf.target_read.2]
  dsimp only
  rw [hf.dropEndWhile_chars, if_neg hne, Token.tokenizeAt, hread]
  show (if q.calls.isEmpty = true then _ else _) = _
  rw [if_neg hcalls, ← hd.collection]

/-- **What is read has a form**, which has every character of the text in it. -/
theorem exists_form_of_read {q : Query} (h : read text = .ok q) :
    ∃ f : Form, f.IsQuery ∧ f.chars = text ∧ f.Denotes q := by
  obtain ⟨t, ht, htail⟩ := dropEndWhile_append_rest isTail text
  unfold read at h
  dsimp only at h
  generalize dropEndWhile isTail text = stripped at h ht
  split at h
  · cases h
  · split at h
    · cases h
    · next target htarget =>
      obtain ⟨w, w', hw, hw', hc, hne, hcs, hstart⟩ := exists_parts_of_target_read htarget
      obtain ⟨calls, hcalls, hq⟩ := bind_eq_ok.mp h
      split at hq
      · cases hq
      · next hnonempty =>
        cases hq
        obtain ⟨fs, w₁, hrest, hw₁, hfs, hd⟩ :=
          exists_forms_of_readCalls (show _ = [] ++ _ from rfl) hcalls
        rw [byteLength_nil, Nat.add_zero, hstart] at hd
        have hparts : stripped = stripped.takeWhile isBlank ++
            'd' :: 'b' :: (w ++ '.' :: (w' ++ (target.collection ++
              (fs.flatMap CallForm.chars ++ w₁)))) := by
          rw [← hrest, ← hcs, List.takeWhile_append_dropWhile]
        refine ⟨⟨stripped.takeWhile isBlank, w, w', target.collection, fs, w₁ ++ t⟩,
          ⟨?_, hw, hw', hc, hne, hfs, ?_, ?_⟩, ?_, rfl, ?_⟩
        · exact List.all_eq_true.mp List.all_takeWhile
        · intro hnil
          rw [hd.eq_nil_iff.mp hnil] at hnonempty
          exact hnonempty rfl
        · refine List.forall_mem_append.mpr ⟨fun c hc => ?_, htail⟩
          rw [isTail, hw₁ c hc, Bool.true_or]
        · rw [Form.chars_eq, ht]
          dsimp only
          conv_rhs => rw [hparts]
          simp only [List.append_assoc, List.cons_append]
        · rwa [Form.target, byteLength_append]

/-- A text is accepted iff its characters are read, and as the same query:
tagging errors with the text changes no success. -/
theorem parse_eq_ok_iff {input : String} {q : Query} :
    parse input = .ok q ↔ read input.toList = .ok q := by
  unfold parse
  cases read input.toList <;> simp

/-- **What a query text is accepted as.** A text is accepted just if it can be
taken apart into the parts of a query, which can be done in one way at most, and
the query is the one that these parts stand for: its collection, its calls with
their names and arguments, and their spans in the order of the text. -/
theorem parse_eq_ok_iff_form (input : String) :
    ((∃ q, parse input = .ok q) ↔ ∃ f : Form, f.IsQuery ∧ f.chars = input.toList) ∧
    (∀ f g : Form, f.IsQuery → g.IsQuery → f.chars = input.toList → g.chars = input.toList → f = g) ∧
    ∀ (q : Query) (f : Form), parse input = .ok q → f.IsQuery → f.chars = input.toList →
      f.Denotes q ∧
      List.Forall₂ (fun g c => ∃ a b, input.toList = a ++ (g.body ++ b) ∧
        c.span = ⟨byteLength a, byteLength (a ++ g.body)⟩) f.calls q.calls ∧
      q.calls.Pairwise fun c d => c.span.stop ≤ d.span.start := by
  refine ⟨⟨?_, ?_⟩, fun f g hf hg hfc hgc => ?_, fun q f hq hf hfc => ?_⟩
  · rintro ⟨q, hq⟩
    obtain ⟨f, hf, hfc, -⟩ := exists_form_of_read (parse_eq_ok_iff.mp hq)
    exact ⟨f, hf, hfc⟩
  · rintro ⟨f, hf, hfc⟩
    obtain ⟨q, hd⟩ := hf.exists_denotes
    refine ⟨q, parse_eq_ok_iff.mpr ?_⟩
    rw [← hfc]
    exact read_of_form hf hd
  · exact Form.eq_of_chars_eq hf hg (hfc.trans hgc.symm)
  · obtain ⟨g, hg, hgc, hd⟩ := exists_form_of_read (parse_eq_ok_iff.mp hq)
    obtain rfl := Form.eq_of_chars_eq hf hg (hfc.trans hgc.symm)
    refine ⟨hd, ?_, hd.calls.pairwise_span⟩
    rw [← hfc, Form.chars]
    exact hd.calls.exists_range rfl _

end QueryShell.Query
