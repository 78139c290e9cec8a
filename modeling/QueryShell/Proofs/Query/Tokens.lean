import Mathlib
import QueryShell.Proofs.Query.Acceptance
import QueryShell.Proofs.Token.Cut

/-!
# Tokens that are read twice

Some parts of a query text are read more than once. The reader of queries reads
all tokens behind the collection to find the calls (`Query.chainTokens`), and
then reads the argument text of each call anew, as a text of its own. Completion
stops at the cursor and reads what is before it.

All these readings agree, because reading tokens can be stopped behind any
token, and taken up again behind each token that allows a regular expression, as
the beginning of a text does. An opening parenthesis is such a token. So the
tokens of the argument text of a call are the tokens between its parentheses,
moved back by the end of the opening one.

## Main statements

* `Token.tokenize_restart`: reading tokens up to a token and from there on.
* `Query.exists_tokens_of_callsDenote`: the tokens of the calls of a chain.
* `Query.tokens_restart`: both, for every text and every query.
-/

namespace QueryShell

open Text

namespace Token

/-- **Tokens are read up to a token and from there on** as they are in the whole
text. From there on this needs that a value may follow the token: that is the
state in which every text begins. -/
theorem tokenize_restart {s : List Char} {ts us : List Token} {t : Token}
    (h : tokenize s = ts ++ t :: us) (ht : t.kind ≠ .eof) :
    IsBoundary t.span.stop s ∧
      tokenize (takeBytes t.span.stop s) = ts ++ [t, ⟨.eof, ⟨t.span.stop, t.span.stop⟩⟩] ∧
      (t.kind.allowsRegex = true →
        us = (tokenize (dropBytes t.span.stop s)).map (shifted t.span.stop)) := by
  have hs : tokenizeFrom 0 true s = ts ++ t :: us := h
  have hmem : t ∈ tokenizeFrom 0 true s := by simp [hs]
  have hle := start_le_stop hmem
  obtain ⟨a, b, rfl, hstop⟩ := exists_stop_of_mem hmem
  rw [Nat.zero_add] at hstop
  have horder := pairwise_span 0 true (a ++ b)
  rw [hs, List.pairwise_append, List.pairwise_cons] at horder
  obtain ⟨-, ⟨hbehind, -⟩, hbefore⟩ := horder
  -- the tokens up to `t` end before the cut, and the others begin behind it
  have hsplit : tokenizeFrom 0 true (a ++ b) = (ts ++ [t]) ++ us := by
    rw [hs, List.append_assoc, List.singleton_append]
  obtain ⟨hfront, hback⟩ := tokenizeFrom_cut hsplit
    (fun u hu => by
      rw [Nat.zero_add, ← hstop]
      rcases List.mem_append.mp hu with hu | hu
      · have hne := kind_ne_eof_of_append hs (List.cons_ne_nil t us) u hu
        exact ⟨hne, Nat.le_trans (hbefore u hu t List.mem_cons_self) hle⟩
      · rw [List.mem_singleton.mp hu]
        exact ⟨ht, Nat.le_refl _⟩)
    (fun u hu => by
      rw [Nat.zero_add, ← hstop]
      exact hbehind u hu)
  rw [Nat.zero_add, ← hstop] at hfront hback
  refine ⟨⟨a, b, rfl, hstop.symm⟩, ?_, fun hregex => ?_⟩
  · rw [hstop, takeBytes_byteLength, ← hstop, tokenize, tokenizeAt, hfront, List.append_assoc]
    rfl
  · have hafter : regexAllowedAfter true (ts ++ [t]) = true := by
      rw [regexAllowedAfter, List.foldl_append]
      exact hregex
    rw [hstop, dropBytes_byteLength, ← hstop, tokenize, tokenizeAt, ← tokenizeFrom_add, Nat.zero_add,
      hback, hafter]

end Token

namespace Query

open Token

/-! ## The tokens of a chain -/

/-- The tokens behind the collection, of which the calls of a query are read. -/
def chainTokens (text : List Char) : List Token :=
  let stripped := dropEndWhile isTail text
  match Target.read (byteLength (stripped.takeWhile isBlank)) (stripped.dropWhile isBlank) with
  | .ok t => tokenizeAt t.restStart t.rest
  | .error _ => []

/-- In a text that has a form these are the tokens of its calls. -/
theorem chainTokens_chars {f : Form} (hf : f.IsQuery) :
    chainTokens f.chars =
      tokenizeFrom (byteLength f.target) true (f.calls.flatMap CallForm.chars) := by
  rw [chainTokens, hf.target_read.1, hf.target_read.2]
  rfl

/-- **The argument text of a call has the tokens between its parentheses.**
Among the tokens of the chain are the name of the call, its opening parenthesis,
the tokens `args` and its closing parenthesis. The text between the parentheses
has the tokens `args` too, and it is read as the arguments of the call. -/
def HasTokens (text : List Char) (chain : List Token) (c : Call) : Prop :=
  ∃ before name opener args closer after,
    chain = before ++ name :: opener :: (args ++ closer :: after) ∧
    name.kind = Lexeme.wordKind c.name.toList ∧ opener.kind = .opener .paren ∧
    closer.kind = .closer .paren ∧ c.span = ⟨name.span.start, closer.span.stop⟩ ∧
    let argText := slice opener.span.stop closer.span.start text
    (tokenize argText).map (shifted opener.span.stop) =
      args ++ [⟨.eof, ⟨closer.span.start, closer.span.start⟩⟩] ∧
    Literal.parseListAt opener.span.stop argText = .ok c.args

theorem HasTokens.append {text : List Char} {chain : List Token} {c : Call}
    (h : HasTokens text chain c) (ts : List Token) : HasTokens text (ts ++ chain) c := by
  obtain ⟨before, name, opener, args, closer, after, rfl, hrest⟩ := h
  exact ⟨ts ++ before, name, opener, args, closer, after, (List.append_assoc ..).symm, hrest⟩

/-- **The tokens of a call that has a form**: those up to its opening
parenthesis, the tokens of its argument text as they are read alone, and its
closing parenthesis. -/
theorem exists_tokens_of_call {f : CallForm} (hf : f.IsCall) {xs : List Literal}
    (hargs : Literal.parseList (String.ofList f.args) = .ok xs) (pos : Nat) (r : Bool) (x : List Char) :
    ∃ args, tokenizeFrom (pos + byteLength f.opening) true f.args =
        args ++ [⟨.eof, ⟨pos + byteLength f.opening + byteLength f.args,
          pos + byteLength f.opening + byteLength f.args⟩⟩] ∧
      tokenizeFrom pos r (f.chars ++ x) = f.openingTokens pos ++
        (args ++ ⟨.closer .paren, ⟨pos + byteLength f.opening + byteLength f.args,
          pos + byteLength f.chars⟩⟩ :: tokenizeFrom (pos + byteLength f.chars) false x) := by
  have hchars : f.chars ++ x = f.opening ++ (f.args ++ ')' :: x) := by
    rw [f.chars_eq_opening]
    simp
  have hstop : pos + byteLength f.opening + byteLength f.args + 1 = pos + byteLength f.chars := by
    rw [f.byteLength_chars_eq_opening]
    omega
  obtain ⟨args, -, halone, hinside⟩ := exists_tokens_of_accepted hargs (pos + byteLength f.opening) x
  rw [hstop] at hinside
  exact ⟨args, halone, by rw [hchars, hf.tokenizeFrom_opening, hinside]⟩

/-- **A call has its tokens**, where its text begins behind `pre`. The arguments
begin behind a parenthesis, which a value may follow. -/
theorem hasTokens_of_denotes {f : CallForm} {c : Call} (hf : f.IsCall) {text pre post : List Char}
    (hd : f.Denotes (byteLength pre + byteLength f.lead) c) (htext : text = pre ++ (f.chars ++ post))
    (r : Bool) (x : List Char) : HasTokens text (tokenizeFrom (byteLength pre) r (f.chars ++ x)) c := by
  obtain ⟨args, halone, htokens⟩ := exists_tokens_of_call hf hd.args (byteLength pre) r x
  have hslice : slice (byteLength pre + byteLength f.opening)
      (byteLength pre + byteLength f.opening + byteLength f.args) text = f.args := by
    have hmiddle := @slice_middle 0 (pre ++ f.opening) f.args (')' :: post)
    rw [Nat.zero_add, Nat.sub_zero, Nat.sub_zero, byteLength_append] at hmiddle
    rw [htext, f.chars_eq_opening]
    simpa using hmiddle
  rw [htokens, CallForm.openingTokens]
  refine ⟨[_], _, _, args, _, _, rfl, ?_, rfl, rfl, ?_, ?_⟩
  · rw [hd.name, String.toList_ofList]
  · rw [hd.span, f.byteLength_chars, ← Nat.add_assoc]
  · dsimp only
    rw [hslice, tokenize, tokenizeAt, ← tokenizeFrom_add, Nat.zero_add, halone]
    exact ⟨rfl, (Literal.parseList_ofList_eq_ok_iff _).mp hd.args⟩

/-- **Each call of a chain has its tokens**, wherever it stands in the chain. -/
theorem hasTokens_of_callsDenote {fs : List CallForm} {calls : List Call} {pos : Nat}
    (hd : CallsDenote pos fs calls) (hfs : ∀ f ∈ fs, f.IsCall) {text pre post : List Char}
    (hpos : pos = byteLength pre) (htext : text = pre ++ (fs.flatMap CallForm.chars ++ post)) (r : Bool) :
    ∀ c ∈ calls, HasTokens text (tokenizeFrom pos r (fs.flatMap CallForm.chars)) c := by
  induction hd generalizing pre r with
  | nil => exact fun c hc => absurd hc List.not_mem_nil
  | @cons pos f fs c cs h hs ih =>
    subst hpos
    obtain ⟨hf, hfs⟩ := List.forall_mem_cons.mp hfs
    rw [List.flatMap_cons, List.append_assoc] at htext
    rw [List.flatMap_cons]
    refine List.forall_mem_cons.mpr ⟨hasTokens_of_denotes hf h htext r _, fun d hd => ?_⟩
    -- the tokens of the later calls stand behind those of the first
    obtain ⟨args, -, htokens⟩ := exists_tokens_of_call hf h.args (byteLength pre) r
      (fs.flatMap CallForm.chars)
    rw [htokens, ← List.singleton_append, ← List.append_assoc, ← List.append_assoc]
    exact (ih hfs (byteLength_append _ _).symm (by rw [htext, List.append_assoc]) false d hd).append _

/-- **Reading tokens can be stopped and taken up again.** It can be stopped
behind any token of a text, and taken up again behind each token that a value
may follow. So the argument text of each call of a query has the tokens between
the parentheses of the call. -/
theorem tokens_restart :
    (∀ (s : List Char) (ts us : List Token) (t : Token), tokenize s = ts ++ t :: us → t.kind ≠ .eof →
      IsBoundary t.span.stop s ∧
      tokenize (takeBytes t.span.stop s) = ts ++ [t, ⟨.eof, ⟨t.span.stop, t.span.stop⟩⟩] ∧
      (((∃ b, t.kind = .opener b) ∨ t.kind = .comma ∨ t.kind = .colon ∨ t.kind = .semicolon ∨
          ∃ c, t.kind = .operator c) →
        us = (tokenize (dropBytes t.span.stop s)).map (shifted t.span.stop))) ∧
    ∀ (input : String) (q : Query), parse input = .ok q →
      (∃ t : Target, readCalls t.restStart t.rest 0 .outside (chainTokens input.toList) = .ok q.calls) ∧
      ∀ c ∈ q.calls, HasTokens input.toList (chainTokens input.toList) c := by
  constructor
  · intro s ts us t h ht
    obtain ⟨hboundary, hfront, hback⟩ := tokenize_restart h ht
    refine ⟨hboundary, hfront, fun hkind => hback ?_⟩
    rcases hkind with ⟨_, hk⟩ | hk | hk | hk | ⟨_, hk⟩ <;> rw [hk] <;> rfl
  · intro input q hq
    obtain ⟨f, hf, hfc, hd⟩ := exists_form_of_read (parse_eq_ok_iff.mp hq)
    rw [← hfc, chainTokens_chars hf]
    refine ⟨⟨⟨f.collection, f.calls.flatMap CallForm.chars, byteLength f.target⟩, ?_⟩,
      hasTokens_of_callsDenote hd.calls hf.calls rfl rfl true⟩
    exact readCalls_of_callsDenote hd.calls hf.calls (show _ = _ + byteLength [] from rfl)
      (show _ = [] ++ _ from rfl) true

/-- A text is cut before a pattern with a slash in a class, where a pattern may
begin; and an argument text has a closing parenthesis inside a string. -/
theorem tokens_restart_regex :
    tokenize "a:/[/]/g+1".toList =
        [⟨.ident "a", ⟨0, 1⟩⟩, ⟨.colon, ⟨1, 2⟩⟩, ⟨.regex "[/]" "g" true, ⟨2, 8⟩⟩,
          ⟨.operator '+', ⟨8, 9⟩⟩, ⟨.number "1", ⟨9, 10⟩⟩, ⟨.eof, ⟨10, 10⟩⟩] ∧
      [⟨.regex "[/]" "g" true, ⟨2, 8⟩⟩, ⟨.operator '+', ⟨8, 9⟩⟩, ⟨.number "1", ⟨9, 10⟩⟩,
          ⟨.eof, ⟨10, 10⟩⟩] = (tokenize "/[/]/g+1".toList).map (shifted 2) ∧
      ∃ c q, parse "db.c.f(')', [1])" = .ok q ∧ c ∈ q.calls ∧ c.span = ⟨5, 16⟩ ∧
        HasTokens "db.c.f(')', [1])".toList (chainTokens "db.c.f(')', [1])".toList) c := by
  have h : tokenize "a:/[/]/g+1".toList =
      [⟨.ident "a", ⟨0, 1⟩⟩, ⟨.colon, ⟨1, 2⟩⟩, ⟨.regex "[/]" "g" true, ⟨2, 8⟩⟩,
        ⟨.operator '+', ⟨8, 9⟩⟩, ⟨.number "1", ⟨9, 10⟩⟩, ⟨.eof, ⟨10, 10⟩⟩] := by
    cbv
  have hq : parse "db.c.f(')', [1])" = .ok ⟨"c",
      [⟨"f", [.string ")", .array [.number ⟨0x3FF0000000000000⟩]], ⟨5, 16⟩⟩]⟩ := by
    cbv
  obtain ⟨hcut, hcalls⟩ := tokens_restart
  refine ⟨h, ?_, _, _, hq, List.mem_cons_self, rfl, (hcalls _ _ hq).2 _ List.mem_cons_self⟩
  exact (hcut "a:/[/]/g+1".toList [⟨.ident "a", ⟨0, 1⟩⟩] _ ⟨.colon, ⟨1, 2⟩⟩ h (by decide)).2.2
    (.inr (.inr (.inl rfl)))

end Query

end QueryShell
