import QueryShell.Proofs.Query.RoundTrip
import QueryShell.Proofs.Query.Tokens
import QueryShell.Proofs.Token.Spacing

/-!
# Blanks between the tokens of a query

Blanks may stand between any two tokens of a query text, and they mean nothing:
a text with more of them is accepted too, and it stands for the same collection
and the same calls. What the tokens are is not the same for all of a query text,
since the name of the collection is read from the characters and may be several
tokens elsewhere, as `1c` is. So the blanks have to spare the spans of `db`, the
collection and the tokens behind it (`Query.tokenSpans`).

The blanks make a form of a form. They widen its parts that are blank, and they
leave the names as they are. In the argument text of a call they leave the
tokens what they are, and this is all that its literals depend on
(`Query.parseList_insertBlanks`).

## Main statements

* `Query.exists_form_insertBlanks`: blanks make a form of a form.
* `Query.parse_insertBlanks`: an accepted query is accepted with blanks between
  its tokens.
-/

namespace QueryShell.Query

open Text Token

variable {w : Nat → List Char}

/-- The spans of the tokens of a query text that have an inside: the word `db`,
the name of the collection, and the tokens behind it. -/
def tokenSpans (text : List Char) : List Span :=
  let stripped := dropEndWhile isTail text
  let start := byteLength (stripped.takeWhile isBlank)
  match Target.read start (stripped.dropWhile isBlank) with
  | .ok t => ⟨start, start + 2⟩ :: ⟨t.restStart - byteLength t.collection, t.restStart⟩ ::
      (tokenizeAt t.restStart t.rest).map Token.span
  | .error _ => []

/-- In a text that has a form, the spans are those of `db`, of the collection
and of the tokens of the calls. -/
theorem tokenSpans_chars {f : Form} (hf : f.IsQuery) :
    tokenSpans f.chars = ⟨byteLength f.before, byteLength f.before + 2⟩ ::
      ⟨byteLength f.target - byteLength f.collection, byteLength f.target⟩ ::
      (tokenizeFrom (byteLength f.target) true (f.calls.flatMap CallForm.chars)).map Token.span := by
  rw [tokenSpans, hf.target_read.1, hf.target_read.2]
  rfl

/-! ## One call -/

/-- **Accepted arguments are accepted with blanks between their tokens**, as the
same literals. -/
theorem parseList_insertBlanks (hw : ∀ n, ∀ c ∈ w n, isBlank c = true) {a : List Char}
    {xs : List Literal} (h : Literal.parseList (String.ofList a) = .ok xs) {pos : Nat}
    (hspares : Spares w (tokenizeFrom pos true a)) :
    Literal.parseList (String.ofList (insertBlanks w pos a)) = .ok xs := by
  obtain ⟨hclosed, ks, hks, hd⟩ :=
    Literal.parseListAt_eq_ok_iff.mp ((Literal.parseList_ofList_eq_ok_iff pos).mp h)
  have hpos := map_kind_tokenizeFrom 0 pos true a
  have hclosed' := isUnclosed_of_map_kind hpos hclosed
  have hkinds := map_kind_insertBlanks hw hclosed' hspares 0
  exact (Literal.parseList_ofList_eq_ok_iff pos).mpr (Literal.parseListAt_eq_ok_iff.mpr
    ⟨isUnclosed_of_map_kind hkinds.symm hclosed', ks, (hkinds.trans hpos.symm).trans hks, hd⟩)

/-- The call with blanks put into its text, which begins at the offset `pos`. -/
def CallForm.insertBlanks (w : Nat → List Char) (pos : Nat) (f : CallForm) : CallForm where
  beforeDot := Text.insertBlanks w pos f.beforeDot
  beforeName := Text.insertBlanks w (pos + byteLength f.beforeDot + 1) f.beforeName
  name := f.name
  beforeParen := Text.insertBlanks w (pos + byteLength f.lead + byteLength f.name) f.beforeParen
  args := Text.insertBlanks w (pos + byteLength f.opening) f.args

namespace CallForm

variable {f : CallForm} {pos : Nat}

/-- **Blanks are put into a call part by part.** Nothing is put inside its name.
The other parts may all change, and each of them only by blanks. -/
theorem insertBlanks_chars_append (hne : f.name ≠ [])
    (hname : ∀ n, pos + byteLength f.lead < n → n < pos + byteLength f.lead + byteLength f.name →
      w n = []) (x : List Char) :
    Text.insertBlanks w pos (f.chars ++ x) =
      (f.insertBlanks w pos).chars ++ Text.insertBlanks w (pos + byteLength f.chars) x := by
  have hlead : pos + byteLength f.beforeDot + Char.utf8Size '.' + byteLength f.beforeName =
      pos + byteLength f.lead := by
    rw [f.byteLength_lead, show Char.utf8Size '.' = 1 from rfl]
    omega
  have hopening : pos + byteLength f.lead + byteLength f.name + byteLength f.beforeParen +
      Char.utf8Size '(' = pos + byteLength f.opening := by
    rw [f.byteLength_opening, show Char.utf8Size '(' = 1 from rfl]
    omega
  have hstop : pos + byteLength f.opening + byteLength f.args + Char.utf8Size ')' =
      pos + byteLength f.chars := by
    rw [f.byteLength_chars_eq_opening, show Char.utf8Size ')' = 1 from rfl]
    omega
  rw [chars_append, chars_append, insertBlanks_append_cons,
    insertBlanks_append_append hne _ (by rw [hlead]; exact hname), hlead, insertBlanks_append_cons,
    hopening, insertBlanks_append_cons, hstop]
  rfl

/-- What blanks that spare the tokens of a call and of the text behind it
spare. -/
theorem IsCall.spares (hf : f.IsCall) {r : Bool} {x : List Char}
    (h : Spares w (tokenizeFrom pos r (f.chars ++ x))) :
    (∀ n, pos + byteLength f.lead < n → n < pos + byteLength f.lead + byteLength f.name → w n = []) ∧
      Spares w (tokenizeFrom (pos + byteLength f.opening) true f.args) ∧
      Spares w (tokenizeFrom (pos + byteLength f.chars) false x) := by
  obtain ⟨xs, hxs⟩ := hf.args
  obtain ⟨args, halone, htokens⟩ := exists_tokens_of_call hf hxs pos r x
  rw [htokens] at h
  obtain ⟨hopening, h⟩ := List.forall_mem_append.mp h
  obtain ⟨hargs, h⟩ := List.forall_mem_append.mp h
  refine ⟨hopening _ (.tail _ (.head _)), ?_, fun t ht => h t (.tail _ ht)⟩
  rw [halone]
  refine List.forall_mem_append.mpr ⟨hargs, List.forall_mem_singleton.mpr fun n hn hlt => ?_⟩
  exact absurd hlt (Nat.not_lt_of_gt hn)

/-- A call with blanks between its tokens is a call. -/
theorem IsCall.insertBlanks (hw : ∀ n, ∀ c ∈ w n, isBlank c = true) (hf : f.IsCall)
    (hspares : Spares w (tokenizeFrom (pos + byteLength f.opening) true f.args)) :
    (f.insertBlanks w pos).IsCall where
  beforeDot := forall_mem_insertBlanks hw hf.beforeDot _
  beforeName := forall_mem_insertBlanks hw hf.beforeName _
  name := hf.name
  beforeParen := forall_mem_insertBlanks hw hf.beforeParen _
  args := by
    obtain ⟨xs, hxs⟩ := hf.args
    exact ⟨xs, parseList_insertBlanks hw hxs hspares⟩

end CallForm

/-! ## The whole text -/

/-- **Blanks make calls of calls**, which say the same, by induction on the
calls. The offset `pos'` is where they begin in the new text, which the
induction has to leave open. -/
theorem exists_calls_insertBlanks (hw : ∀ n, ∀ c ∈ w n, isBlank c = true) {fs : List CallForm}
    {calls : List Call} {pos : Nat} (hd : CallsDenote pos fs calls) (hfs : ∀ f ∈ fs, f.IsCall) {r : Bool}
    (hspares : Spares w (tokenizeFrom pos r (fs.flatMap CallForm.chars))) (pos' : Nat) :
    ∃ fs' calls', (∀ f ∈ fs', f.IsCall) ∧ CallsDenote pos' fs' calls' ∧
      calls'.map content = calls.map content ∧
      ∀ x, insertBlanks w pos (fs.flatMap CallForm.chars ++ x) =
        fs'.flatMap CallForm.chars ++
          insertBlanks w (pos + byteLength (fs.flatMap CallForm.chars)) x := by
  induction hd generalizing r pos' with
  | nil => exact ⟨[], [], by simp, .nil, rfl, fun x => rfl⟩
  | @cons pos f fs c cs h hs ih =>
    obtain ⟨hf, hfs⟩ := List.forall_mem_cons.mp hfs
    rw [List.flatMap_cons] at hspares
    obtain ⟨hname, hargs, hspares⟩ := hf.spares hspares
    obtain ⟨fs', calls', hfs', hd', hcontent, hchars⟩ :=
      ih hfs hspares (pos' + byteLength (f.insertBlanks w pos).chars)
    let c' : Call := ⟨c.name, c.args, ⟨pos' + byteLength (f.insertBlanks w pos).lead,
      pos' + byteLength (f.insertBlanks w pos).lead + byteLength (f.insertBlanks w pos).body⟩⟩
    have hc' : (f.insertBlanks w pos).Denotes (pos' + byteLength (f.insertBlanks w pos).lead) c' :=
      ⟨h.name, parseList_insertBlanks hw h.args hargs, rfl⟩
    refine ⟨f.insertBlanks w pos :: fs', c' :: calls',
      List.forall_mem_cons.mpr ⟨hf.insertBlanks hw hargs, hfs'⟩, .cons hc' hd', ?_, fun x => ?_⟩
    · rw [List.map_cons, List.map_cons, hcontent]
      rfl
    · rw [List.flatMap_cons, List.flatMap_cons, List.append_assoc,
        CallForm.insertBlanks_chars_append (isCallName_spec hf.name).1 hname, hchars, byteLength_append,
        Nat.add_assoc, List.append_assoc]

/-- The form with blanks put into its text, and the forms `fs` of its calls. -/
def Form.insertBlanks (w : Nat → List Char) (f : Form) (fs : List CallForm) : Form where
  before := Text.insertBlanks w 0 f.before
  afterDb := Text.insertBlanks w (byteLength f.before + 2) f.afterDb
  afterDot := Text.insertBlanks w (byteLength f.before + 2 + byteLength f.afterDb + 1) f.afterDot
  collection := f.collection
  calls := fs
  tail := Text.insertBlanks w
    (byteLength f.target + byteLength (f.calls.flatMap CallForm.chars)) f.tail

/-- **Blanks are put into a query text part by part**, since nothing is put
inside of `db` and inside of the name of the collection. -/
theorem Form.chars_insertBlanks {f : Form} (hne : f.collection ≠ [])
    (hdb : ∀ n, byteLength f.before < n → n < byteLength f.before + 2 → w n = [])
    (hcollection : ∀ n, byteLength f.target - byteLength f.collection < n → n < byteLength f.target →
      w n = []) {fs : List CallForm}
    (hfs : ∀ x, Text.insertBlanks w (byteLength f.target) (f.calls.flatMap CallForm.chars ++ x) =
      fs.flatMap CallForm.chars ++ Text.insertBlanks w
        (byteLength f.target + byteLength (f.calls.flatMap CallForm.chars)) x) :
    (f.insertBlanks w fs).chars = Text.insertBlanks w 0 f.chars := by
  have htarget : byteLength f.before + 2 + byteLength f.afterDb + 1 + byteLength f.afterDot +
      byteLength f.collection = byteLength f.target := by
    rw [add_byteLength_target, Form.target, byteLength_append]
  have hpoint : byteLength f.before + 2 + byteLength f.afterDb + Char.utf8Size '.' =
      byteLength f.before + 2 + byteLength f.afterDb + 1 := rfl
  have hdb' : Text.insertBlanks w 0 f.chars = Text.insertBlanks w 0 f.before ++ (['d', 'b'] ++
      Text.insertBlanks w (byteLength f.before + 2) (f.afterDb ++ '.' ::
        (f.afterDot ++ (f.collection ++ (f.calls.flatMap CallForm.chars ++ f.tail))))) := by
    have h := insertBlanks_append_append (w := w) (List.cons_ne_nil 'd' ['b']) f.before
      (by rw [Nat.zero_add]; exact hdb)
      (f.afterDb ++ '.' :: (f.afterDot ++ (f.collection ++ (f.calls.flatMap CallForm.chars ++ f.tail))))
    rw [Nat.zero_add] at h
    rw [f.chars_eq]
    exact h
  rw [hdb', insertBlanks_append_cons, hpoint, insertBlanks_append_append hne, htarget, hfs,
    Form.chars_eq]
  · rfl
  · intro n hn hlt
    exact hcollection n (by omega) (by omega)

/-- **Blanks make a form of a form**, which stands for a query that says the
same. Only the spans of the calls can differ. -/
theorem exists_form_insertBlanks (hw : ∀ n, ∀ c ∈ w n, isBlank c = true) {f : Form} {q : Query}
    (hf : f.IsQuery) (hd : f.Denotes q)
    (hspares : ∀ s ∈ tokenSpans f.chars, ∀ n, s.start < n → n < s.stop → w n = []) :
    ∃ (g : Form) (q' : Query), g.IsQuery ∧ g.chars = insertBlanks w 0 f.chars ∧ g.Denotes q' ∧
      q'.collection = q.collection ∧ q'.calls.map content = q.calls.map content := by
  rw [tokenSpans_chars hf] at hspares
  obtain ⟨hdb, hspares⟩ := List.forall_mem_cons.mp hspares
  obtain ⟨hcollection, hspares⟩ := List.forall_mem_cons.mp hspares
  rw [List.forall_mem_map] at hspares
  obtain ⟨fs, calls, hfs, hcalls, hcontent, hchars⟩ :=
    exists_calls_insertBlanks hw hd.calls hf.calls hspares (byteLength (f.insertBlanks w []).target)
  have hne : fs ≠ [] := by
    rintro rfl
    rw [hcalls.eq_nil_iff.mp rfl, List.map_nil] at hcontent
    exact hf.calls_ne_nil (hd.calls.eq_nil_iff.mpr (List.map_eq_nil_iff.mp hcontent.symm))
  have htail : ∀ n, ∀ c ∈ w n, isTail c = true := by
    intro n c hc
    rw [isTail, hw n c hc, Bool.true_or]
  refine ⟨f.insertBlanks w fs, ⟨q.collection, calls⟩, ?_, ?_, ⟨hd.collection, hcalls⟩, rfl, hcontent⟩
  · exact {
      before := forall_mem_insertBlanks hw hf.before _
      afterDb := forall_mem_insertBlanks hw hf.afterDb _
      afterDot := forall_mem_insertBlanks hw hf.afterDot _
      collection := hf.collection
      collection_ne_nil := hf.collection_ne_nil
      calls := hfs
      calls_ne_nil := hne
      tail := forall_mem_insertBlanks htail hf.tail _ }
  · exact Form.chars_insertBlanks hf.collection_ne_nil hdb hcollection hchars

/-- **Blanks between the tokens of a query mean nothing.** If a query text is
accepted, then so is each text that has more blanks between the tokens, and the
collection, the names of the calls and their arguments are the same. -/
theorem parse_insertBlanks {input : String} {q : Query} (h : parse input = .ok q)
    (hw : ∀ n, ∀ c ∈ w n, isBlank c = true)
    (hspares : ∀ s ∈ tokenSpans input.toList, ∀ n, s.start < n → n < s.stop → w n = []) :
    ∃ q', parse (String.ofList (insertBlanks w 0 input.toList)) = .ok q' ∧
      q'.collection = q.collection ∧ q'.names = q.names ∧
      q'.calls.map Call.args = q.calls.map Call.args := by
  obtain ⟨f, hf, hfc, hd⟩ := exists_form_of_read (parse_eq_ok_iff.mp h)
  rw [← hfc] at hspares ⊢
  obtain ⟨g, q', hg, hgc, hd', hcollection, hcontent⟩ := exists_form_insertBlanks hw hf hd hspares
  have hnames := congrArg (List.map Prod.fst) hcontent
  have hargs := congrArg (List.map Prod.snd) hcontent
  rw [List.map_map, List.map_map] at hnames hargs
  refine ⟨q', ?_, hcollection, hnames, hargs⟩
  rw [parse_eq_ok_iff, String.toList_ofList, ← hgc]
  exact read_of_form hg hd'

/-- A line break at each of some offsets. -/
def breaksAt (offsets : List Nat) (n : Nat) : List Char :=
  if n ∈ offsets then ['\n'] else []

theorem isBlank_breaksAt (offsets : List Nat) (n : Nat) :
    ∀ c ∈ breaksAt offsets n, isBlank c = true := by
  intro c hc
  unfold breaksAt at hc
  split at hc
  · rw [List.mem_singleton.mp hc]
    rfl
  · cases hc

/-- Line breaks behind `db`, between a minus and its number, and behind the last
parenthesis. The collection `1c` would be two tokens by itself, but has one
span. -/
theorem parse_insertBlanks_breaks :
    tokenSpans "db.1c.find(-1)".toList =
        [⟨0, 2⟩, ⟨3, 5⟩, ⟨5, 6⟩, ⟨6, 10⟩, ⟨10, 11⟩, ⟨11, 12⟩, ⟨12, 13⟩, ⟨13, 14⟩, ⟨14, 14⟩] ∧
      ∃ q', parse "db\n.1c.find(-\n1)\n" = .ok q' ∧ q'.collection = "1c" ∧ q'.names = ["find"] ∧
        q'.calls.map Call.args = [[.number ⟨0xBFF0000000000000⟩]] := by
  have hspans : tokenSpans "db.1c.find(-1)".toList =
      [⟨0, 2⟩, ⟨3, 5⟩, ⟨5, 6⟩, ⟨6, 10⟩, ⟨10, 11⟩, ⟨11, 12⟩, ⟨12, 13⟩, ⟨13, 14⟩, ⟨14, 14⟩] := by
    cbv
  have hq : parse "db.1c.find(-1)" =
      .ok ⟨"1c", [⟨"find", [.number ⟨0xBFF0000000000000⟩], ⟨6, 14⟩⟩]⟩ := by
    cbv
  have htext : String.ofList (insertBlanks (breaksAt [2, 12, 14]) 0 "db.1c.find(-1)".toList) =
      "db\n.1c.find(-\n1)\n" := by
    decide
  have houtside : ∀ s ∈ tokenSpans "db.1c.find(-1)".toList, ∀ n ∈ [2, 12, 14],
      ¬(s.start < n ∧ n < s.stop) := by
    rw [hspans]
    decide
  rw [← htext]
  exact ⟨hspans, parse_insertBlanks hq (isBlank_breaksAt _) fun s hs n hn hlt =>
    if_neg fun hmem => houtside s hs n hmem ⟨hn, hlt⟩⟩

end QueryShell.Query
