import Mathlib.Data.List.Forall2
import QueryShell.Proofs.Literal.Acceptance
import QueryShell.Query.Parser

/-!
# The form of a query text

A query text is made of parts that its characters alone determine: blanks, the
word `db`, a point, the name of a collection, one or more calls, and behind them
blanks and semicolons. A `Form` names the parts, `Form.chars` puts them
together, and `Form.IsQuery` says what each part may be. The arguments of a call
are any text that the literals accept (`Literal.parseList`), and such a text may
well have parentheses and points in its strings and regular expressions. It has
none among its *tokens*, though, and this is why the closing parenthesis of a
call can be found.

What a form stands for, `Form.Denotes`, is a query whose calls are the calls of
the form in their order, each with the range of bytes from its name to its
closing parenthesis.

## Main statements

* `Query.Form.eq_of_chars_eq`: a text has at most one form.
* `Query.CallsDenote.exists_range`: each span is the range of its own call.
* `Query.CallsDenote.pairwise_span`: the spans are ordered and disjoint.
-/

namespace QueryShell.Query

open Text

/-! ## Forms -/

/-- **One call in a text**, with the blanks in front of its parts. The parts are
characters, so that a text is nothing but the parts of its form one behind the
other. -/
structure CallForm where
  beforeDot : List Char
  beforeName : List Char
  name : List Char
  beforeParen : List Char
  /-- What stands between the parentheses. -/
  args : List Char

namespace CallForm

/-- What stands before the name of the call. -/
def lead (f : CallForm) : List Char :=
  f.beforeDot ++ '.' :: f.beforeName

/-- The call from its name to its closing parenthesis. -/
def body (f : CallForm) : List Char :=
  f.name ++ (f.beforeParen ++ '(' :: (f.args ++ [')']))

/-- The call up to its opening parenthesis. -/
def opening (f : CallForm) : List Char :=
  f.lead ++ (f.name ++ (f.beforeParen ++ ['(']))

/-- The text of the call. -/
def chars (f : CallForm) : List Char :=
  f.lead ++ f.body

/-- A call is its opening, its arguments and the closing parenthesis. -/
theorem chars_eq_opening (f : CallForm) : f.chars = f.opening ++ (f.args ++ [')']) := by
  simp [chars, opening, body]

/-- Between two calls there is a point, with what surrounds it. -/
theorem byteLength_lead (f : CallForm) :
    byteLength f.lead = byteLength f.beforeDot + 1 + byteLength f.beforeName := by
  rw [lead, byteLength_append, byteLength_cons, Nat.add_assoc]
  rfl

/-- A call is as long as what leads to it and its body together. -/
theorem byteLength_chars (f : CallForm) :
    byteLength f.chars = byteLength f.lead + byteLength f.body := by
  rw [chars, byteLength_append]

/-- The opening of a call is what leads to it, its name and the parenthesis. -/
theorem byteLength_opening (f : CallForm) : byteLength f.opening =
    byteLength f.lead + (byteLength f.name + byteLength f.beforeParen) + 1 := by
  rw [opening, byteLength_append, byteLength_append, byteLength_append, Nat.add_assoc]
  rfl

/-- Behind its opening, a call has its arguments and one more parenthesis. -/
theorem byteLength_chars_eq_opening (f : CallForm) :
    byteLength f.chars = byteLength f.opening + byteLength f.args + 1 := by
  rw [chars_eq_opening, byteLength_append, byteLength_append, Nat.add_assoc]
  rfl

/-- **The parts make up a call**: blanks where blanks may stand, the name of a
call, and arguments that are accepted. -/
structure IsCall (f : CallForm) : Prop where
  beforeDot : ∀ c ∈ f.beforeDot, isBlank c = true
  beforeName : ∀ c ∈ f.beforeName, isBlank c = true
  name : isCallName f.name = true
  beforeParen : ∀ c ∈ f.beforeParen, isBlank c = true
  args : ∃ xs, Literal.parseList (String.ofList f.args) = .ok xs

/-- **The call that the form stands for** if its name begins at the offset
`start`. -/
structure Denotes (f : CallForm) (start : Nat) (c : Call) : Prop where
  name : c.name = String.ofList f.name
  args : Literal.parseList (String.ofList f.args) = .ok c.args
  span : c.span = ⟨start, start + byteLength f.body⟩

end CallForm

/-- **The calls that the forms stand for**, one behind the other from the offset
`pos` on. Only their spans depend on the offset. -/
inductive CallsDenote : Nat → List CallForm → List Call → Prop
  | nil {pos : Nat} : CallsDenote pos [] []
  | cons {pos : Nat} {f : CallForm} {fs : List CallForm} {c : Call} {cs : List Call}
    (h : f.Denotes (pos + byteLength f.lead) c) (hs : CallsDenote (pos + byteLength f.chars) fs cs) :
    CallsDenote pos (f :: fs) (c :: cs)

/-- **The parts of a query text**, from its first character to its last. -/
structure Form where
  before : List Char
  afterDb : List Char
  afterDot : List Char
  collection : List Char
  calls : List CallForm
  tail : List Char

namespace Form

/-- What stands before the calls. -/
def target (f : Form) : List Char :=
  f.before ++ 'd' :: 'b' :: (f.afterDb ++ '.' :: (f.afterDot ++ f.collection))

/-- The text of the query. -/
def chars (f : Form) : List Char :=
  f.target ++ (f.calls.flatMap CallForm.chars ++ f.tail)

/-- **The parts make up a query**: blanks where blanks may stand, the name of a
collection, at least one call, and nothing but blanks and semicolons behind the
last. -/
structure IsQuery (f : Form) : Prop where
  before : ∀ c ∈ f.before, isBlank c = true
  afterDb : ∀ c ∈ f.afterDb, isBlank c = true
  afterDot : ∀ c ∈ f.afterDot, isBlank c = true
  collection : ∀ c ∈ f.collection, isNameChar c = true
  collection_ne_nil : f.collection ≠ []
  calls : ∀ g ∈ f.calls, g.IsCall
  calls_ne_nil : f.calls ≠ []
  tail : ∀ c ∈ f.tail, isTail c = true

/-- **The query that the form stands for.** -/
structure Denotes (f : Form) (q : Query) : Prop where
  collection : q.collection = String.ofList f.collection
  calls : CallsDenote (byteLength f.target) f.calls q.calls

end Form

/-! ## Spans -/

/-- **Each span is the range of its own call**: what lies before its beginning
and its end are initial parts of the text, and the call is what lies between
them. -/
theorem CallsDenote.exists_range {pos : Nat} {fs : List CallForm} {cs : List Call}
    (h : CallsDenote pos fs cs) {pre : List Char} (hpre : byteLength pre = pos) (post : List Char) :
    List.Forall₂ (fun f c => ∃ a b, pre ++ (fs.flatMap CallForm.chars ++ post) = a ++ (f.body ++ b) ∧
      c.span = ⟨byteLength a, byteLength (a ++ f.body)⟩) fs cs := by
  induction h generalizing pre with
  | nil => exact .nil
  | @cons pos f fs c cs h hs ih =>
    refine .cons ⟨pre ++ f.lead, fs.flatMap CallForm.chars ++ post, ?_, ?_⟩ ?_
    · rw [List.flatMap_cons, CallForm.chars]
      simp only [List.append_assoc]
    · rw [h.span, byteLength_append, byteLength_append, byteLength_append, hpre]
    · have hlen : byteLength (pre ++ f.chars) = pos + byteLength f.chars := by
        rw [byteLength_append, hpre]
      have hrest := ih hlen
      rw [List.append_assoc, ← List.append_assoc f.chars, ← List.flatMap_cons] at hrest
      exact hrest

/-- Calls begin behind the offset that they are read from. -/
theorem CallsDenote.le_start {pos : Nat} {fs : List CallForm} {cs : List Call}
    (h : CallsDenote pos fs cs) : ∀ c ∈ cs, pos ≤ c.span.start := by
  induction h with
  | nil => exact fun c hc => absurd hc List.not_mem_nil
  | cons h _ ih =>
    refine List.forall_mem_cons.mpr ⟨?_, fun c hc => ?_⟩
    · rw [h.span]
      exact Nat.le_add_right _ _
    · exact Nat.le_trans (Nat.le_add_right _ _) (ih c hc)

/-- **The spans are ordered and disjoint**, since at least the point of a call
stands between two of them. -/
theorem CallsDenote.pairwise_span {pos : Nat} {fs : List CallForm} {cs : List Call}
    (h : CallsDenote pos fs cs) : cs.Pairwise fun c d => c.span.stop ≤ d.span.start := by
  induction h with
  | nil => exact .nil
  | @cons pos f fs c cs h hs ih =>
    refine .cons (fun d hd => ?_) ih
    have hstart := hs.le_start d hd
    rw [h.span]
    rwa [CallForm.chars, byteLength_append, ← Nat.add_assoc] at hstart

/-! ## Accepted arguments in their place -/

/-- A token that can stand between the parentheses of a call without closing
them. -/
def IsInner (t : Token) : Prop :=
  t.isUnclosed = false ∧ t.kind ≠ .opener .paren ∧ t.kind ≠ .closer .paren ∧ t.kind ≠ .eof

/-- **Accepted arguments hide the rest of the text from nobody**: in front of a
closing parenthesis they have the same tokens as alone, and none of these is a
parenthesis. -/
theorem exists_tokens_of_accepted {a : List Char} {xs : List Literal}
    (h : Literal.parseList (String.ofList a) = .ok xs) (pos : Nat) (b : List Char) :
    ∃ ts, (∀ t ∈ ts, IsInner t) ∧
      Token.tokenizeFrom pos true a = ts ++ [⟨.eof, ⟨pos + byteLength a, pos + byteLength a⟩⟩] ∧
      Token.tokenizeFrom pos true (a ++ ')' :: b) =
        ts ++ ⟨.closer .paren, ⟨pos + byteLength a, pos + byteLength a + 1⟩⟩ ::
          Token.tokenizeFrom (pos + byteLength a + 1) false b := by
  obtain ⟨hclosed, ks, hks, hd⟩ :=
    Literal.parseListAt_eq_ok_iff.mp ((Literal.parseList_ofList_eq_ok_iff pos).mp h)
  rw [Token.tokenize, Token.tokenizeAt, Token.map_kind_tokenizeFrom 0 pos] at hks
  -- the tokens are known where the arguments stand alone, and only their offsets differ in the query
  have hclosed' : ∀ t ∈ Token.tokenizeFrom pos true a, t.isUnclosed = false :=
    Token.isUnclosed_of_map_kind (Token.map_kind_tokenizeFrom 0 pos true a) hclosed
  obtain ⟨ts, r, hts, happ⟩ := Token.tokenizeFrom_append
    (b := ')' :: b) (headNot_cons.mpr rfl) pos true a hclosed'
  obtain ⟨us, hus, hne⟩ := Token.tokenizeFrom_eq_append_eof pos true a
  obtain rfl : ts = us := List.append_cancel_right (hts.symm.trans hus)
  rw [hts, List.map_append] at hks
  obtain rfl : ts.map Token.kind = ks := List.append_cancel_right hks
  refine ⟨ts, fun t ht => ?_, hts, ?_⟩
  · have hforeign : ∀ k, k = .opener .paren ∨ k = .closer .paren → t.kind ≠ k := by
      rintro k hk rfl
      obtain ⟨pre, post, hsplit⟩ := List.append_of_mem (List.mem_map_of_mem (f := Token.kind) ht)
      rw [hsplit] at hd
      refine hd.not_isForeign ?_
      rcases hk with hk | hk <;> rw [hk] <;> trivial
    refine ⟨hclosed' t ?_, hforeign _ (.inl rfl), hforeign _ (.inr rfl), hne t ht⟩
    rw [hts]
    exact List.mem_append_left _ ht
  · rw [happ, Token.tokenizeFrom_cons (by decide), Lexeme.read_mark (by decide)]
    rfl

/-- The first token that is no inner token is where two lists of tokens part. -/
theorem append_cons_inj_of_isInner {ts us ts' us' : List Token} {t u : Token}
    (hts : ∀ x ∈ ts, IsInner x) (hus : ∀ x ∈ us, IsInner x) (ht : ¬IsInner t) (hu : ¬IsInner u)
    (h : ts ++ t :: ts' = us ++ u :: us') : t = u := by
  induction ts generalizing us with
  | nil =>
    cases us with
    | nil => exact (List.cons.inj h).1
    | cons x us =>
      have hx := hus x List.mem_cons_self
      rw [← (List.cons.inj h).1] at hx
      exact absurd hx ht
  | cons y ts ih =>
    cases us with
    | nil =>
      have hy := hts y List.mem_cons_self
      rw [(List.cons.inj h).1] at hy
      exact absurd hy hu
    | cons x us =>
      exact ih (fun z hz => hts z (List.mem_cons_of_mem y hz))
        (fun z hz => hus z (List.mem_cons_of_mem x hz)) (List.cons.inj h).2

/-! ## A text has one form -/

/-- Accepted arguments end where their parenthesis closes. -/
theorem args_inj {a b x y : List Char} (ha : ∃ xs, Literal.parseList (String.ofList a) = .ok xs)
    (hb : ∃ xs, Literal.parseList (String.ofList b) = .ok xs) (h : a ++ ')' :: x = b ++ ')' :: y) :
    a = b ∧ x = y := by
  obtain ⟨xs, ha⟩ := ha
  obtain ⟨ys, hb⟩ := hb
  obtain ⟨ts, hts, -, htoks⟩ := exists_tokens_of_accepted ha 0 x
  obtain ⟨us, hus, -, hutoks⟩ := exists_tokens_of_accepted hb 0 y
  have hclose (s : Span) : ¬IsInner ⟨.closer .paren, s⟩ := fun h => h.2.2.1 rfl
  rw [h, hutoks] at htoks
  -- the parenthesis that closes is the first token that is no inner one, and its offset is the length
  have htoken := append_cons_inj_of_isInner hus hts (hclose _) (hclose _) htoks
  have hlen : byteLength a = byteLength b := by
    have hspan := congrArg (fun t : Token => t.span.start) htoken
    simpa using hspan.symm
  obtain ⟨hab, htail⟩ := append_inj_of_byteLength hlen h
  exact ⟨hab, (List.cons.inj htail).2⟩

/-- The characters of a name are among those of a word. -/
theorem isWordChar_of_isNameChar {c : Char} (h : isNameChar c = true) :
    Lexeme.isWordChar c = true := by
  rw [isNameChar, Bool.or_eq_true] at h
  rcases h with h | h
  · exact Lexeme.isWordChar_of_isAlphanum h
  · simp [Lexeme.isWordChar, h]

theorem isBlank_of_isNameChar {c : Char} (h : isNameChar c = true) : isBlank c = false :=
  Lexeme.isBlank_of_isWordChar (isWordChar_of_isNameChar h)

/-- What no blank goes on with ends where blanks begin. -/
theorem headNot_append_of_blank {p : Char → Bool} (hp : ∀ c, isBlank c = true → p c = false)
    {w cs : List Char} (hw : ∀ c ∈ w, isBlank c = true) (hcs : HeadNot p cs) : HeadNot p (w ++ cs) := by
  cases w with
  | nil => exact hcs
  | cons c w => exact headNot_cons.mpr (hp c (hw c List.mem_cons_self))

theorem headNot_isNameChar_append {w cs : List Char} (hw : ∀ c ∈ w, isBlank c = true)
    (hcs : HeadNot isNameChar cs) : HeadNot isNameChar (w ++ cs) := by
  refine headNot_append_of_blank (fun c hc => Bool.eq_false_iff.mpr fun hname => ?_) hw hcs
  rw [isBlank_of_isNameChar hname] at hc
  cases hc

theorem headNot_isWordChar_append {w cs : List Char} (hw : ∀ c ∈ w, isBlank c = true)
    (hcs : HeadNot Lexeme.isWordChar cs) : HeadNot Lexeme.isWordChar (w ++ cs) :=
  headNot_append_of_blank (fun _ => Lexeme.isWordChar_of_isBlank) hw hcs

theorem headNot_isBlank_append {w cs : List Char} (hw : ∀ c ∈ w, isNameChar c = true)
    (hne : w ≠ []) : HeadNot isBlank (w ++ cs) := by
  cases w with
  | nil => exact absurd rfl hne
  | cons c w => exact headNot_cons.mpr (isBlank_of_isNameChar (hw c List.mem_cons_self))

/-- The name of a call is a word of name characters. -/
theorem isCallName_spec {w : List Char} (h : isCallName w = true) :
    w ≠ [] ∧ (∀ c ∈ w, isNameChar c = true) ∧
      ∃ c t, w = c :: t ∧ Lexeme.isWordStart c = true ∧ ∀ d ∈ t, Lexeme.isWordChar d = true := by
  cases w with
  | nil => cases h
  | cons c t =>
    rw [isCallName, Bool.and_eq_true, List.all_eq_true] at h
    have hc : isNameChar c = true := by
      rcases Bool.or_eq_true _ _ ▸ h.1 with h | h
      · simp [isNameChar, Char.isAlphanum, h]
      · simp [isNameChar, h]
    refine ⟨List.cons_ne_nil c t, List.forall_mem_cons.mpr ⟨hc, h.2⟩, c, t, rfl, ?_, ?_⟩
    · rw [Lexeme.isWordStart, h.1, Bool.true_or]
    · exact fun d hd => isWordChar_of_isNameChar (h.2 d hd)

/-- The parts of a call and what follows it, one behind the other. -/
theorem CallForm.chars_append (f : CallForm) (x : List Char) :
    f.chars ++ x = f.beforeDot ++ '.' :: (f.beforeName ++
      (f.name ++ (f.beforeParen ++ '(' :: (f.args ++ ')' :: x)))) := by
  simp [chars, lead, body]

/-- Two calls at the beginning of a text are one. -/
theorem CallForm.chars_inj {f g : CallForm} (hf : f.IsCall) (hg : g.IsCall) {x y : List Char}
    (h : f.chars ++ x = g.chars ++ y) : f = g ∧ x = y := by
  obtain ⟨hfn, hfname, -⟩ := isCallName_spec hf.name
  obtain ⟨hgn, hgname, -⟩ := isCallName_spec hg.name
  have hparen (a : List Char) : HeadNot isNameChar ('(' :: a) := headNot_cons.mpr rfl
  -- every part but the arguments ends at the first character that cannot go on with it
  rw [chars_append, chars_append] at h
  obtain ⟨h₁, h⟩ := append_inj_of_headNot hf.beforeDot hg.beforeDot
    (headNot_cons.mpr (by decide)) (headNot_cons.mpr (by decide)) h
  obtain ⟨h₂, h⟩ := append_inj_of_headNot hf.beforeName hg.beforeName
    (headNot_isBlank_append hfname hfn) (headNot_isBlank_append hgname hgn) (List.cons.inj h).2
  obtain ⟨h₃, h⟩ := append_inj_of_headNot hfname hgname
    (headNot_isNameChar_append hf.beforeParen (hparen _))
    (headNot_isNameChar_append hg.beforeParen (hparen _)) h
  obtain ⟨h₄, h⟩ := append_inj_of_headNot hf.beforeParen hg.beforeParen
    (headNot_cons.mpr (by decide)) (headNot_cons.mpr (by decide)) h
  obtain ⟨h₅, h⟩ := args_inj hf.args hg.args (List.cons.inj h).2
  refine ⟨?_, h⟩
  cases f
  cases g
  exact CallForm.mk.injEq .. ▸ ⟨h₁, h₂, h₃, h₄, h₅⟩

/-- What follows the calls has no call in it. -/
theorem not_isTail_of_call {f : CallForm} {fs : List CallForm} {s t : List Char}
    (hs : ∀ c ∈ s, isTail c = true) : s ≠ (f :: fs).flatMap CallForm.chars ++ t := by
  rintro rfl
  have hdot := hs '.' (by simp [CallForm.chars, CallForm.lead])
  exact absurd hdot (by decide)

/-- The calls of a text and what follows them are determined by the text. -/
theorem calls_inj {fs gs : List CallForm} (hfs : ∀ f ∈ fs, f.IsCall) (hgs : ∀ g ∈ gs, g.IsCall)
    {s t : List Char} (hs : ∀ c ∈ s, isTail c = true) (ht : ∀ c ∈ t, isTail c = true)
    (h : fs.flatMap CallForm.chars ++ s = gs.flatMap CallForm.chars ++ t) : fs = gs ∧ s = t := by
  induction fs generalizing gs with
  | nil =>
    cases gs with
    | nil => exact ⟨rfl, h⟩
    | cons g gs => exact absurd h (not_isTail_of_call hs)
  | cons f fs ih =>
    cases gs with
    | nil => exact absurd h.symm (not_isTail_of_call ht)
    | cons g gs =>
      rw [List.flatMap_cons, List.flatMap_cons, List.append_assoc, List.append_assoc] at h
      obtain ⟨rfl, hrest⟩ :=
        CallForm.chars_inj (hfs f List.mem_cons_self) (hgs g List.mem_cons_self) h
      obtain ⟨rfl, hst⟩ := ih (fun x hx => hfs x (List.mem_cons_of_mem f hx))
        (fun x hx => hgs x (List.mem_cons_of_mem f hx)) hrest
      exact ⟨rfl, hst⟩

/-- The name of the collection ends where the first call begins. -/
theorem headNot_isNameChar_calls {fs : List CallForm} (hne : fs ≠ []) (hfs : ∀ f ∈ fs, f.IsCall)
    (s : List Char) : HeadNot isNameChar (fs.flatMap CallForm.chars ++ s) := by
  cases fs with
  | nil => exact absurd rfl hne
  | cons f fs =>
    rw [List.flatMap_cons, List.append_assoc, CallForm.chars_append]
    exact headNot_isNameChar_append (hfs f List.mem_cons_self).beforeDot (headNot_cons.mpr rfl)

/-- The parts of a query text, one behind the other. -/
theorem Form.chars_eq (f : Form) : f.chars = f.before ++ 'd' :: 'b' :: (f.afterDb ++ '.' ::
    (f.afterDot ++ (f.collection ++ (f.calls.flatMap CallForm.chars ++ f.tail)))) := by
  simp [chars, target]

/-- **A text has at most one form.** Part by part, what comes next tells where a
part ends. The arguments of a call are the part where this is not plain:
they end with the parenthesis that closes the call, because accepted arguments
close every one that they open. -/
theorem Form.eq_of_chars_eq {f g : Form} (hf : f.IsQuery) (hg : g.IsQuery) (h : f.chars = g.chars) :
    f = g := by
  rw [chars_eq, chars_eq] at h
  obtain ⟨h₁, h⟩ := append_inj_of_headNot hf.before hg.before
    (headNot_cons.mpr (by decide)) (headNot_cons.mpr (by decide)) h
  obtain ⟨h₂, h⟩ := append_inj_of_headNot hf.afterDb hg.afterDb
    (headNot_cons.mpr (by decide)) (headNot_cons.mpr (by decide)) (List.cons.inj (List.cons.inj h).2).2
  obtain ⟨h₃, h⟩ := append_inj_of_headNot hf.afterDot hg.afterDot
    (headNot_isBlank_append hf.collection hf.collection_ne_nil)
    (headNot_isBlank_append hg.collection hg.collection_ne_nil) (List.cons.inj h).2
  obtain ⟨h₄, h⟩ := append_inj_of_headNot hf.collection hg.collection
    (headNot_isNameChar_calls hf.calls_ne_nil hf.calls _)
    (headNot_isNameChar_calls hg.calls_ne_nil hg.calls _) h
  obtain ⟨h₅, h₆⟩ := calls_inj hf.calls hg.calls hf.tail hg.tail h
  cases f
  cases g
  exact Form.mk.injEq .. ▸ ⟨h₁, h₂, h₃, h₄, h₅, h₆⟩

end QueryShell.Query
