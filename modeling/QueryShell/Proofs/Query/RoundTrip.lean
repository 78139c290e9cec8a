import QueryShell.Proofs.Literal.RoundTrip
import QueryShell.Proofs.Query.Acceptance

/-!
# Queries read back

The text of a query that was read is a query text of its own, with nothing
between its parts: it has the form `Form.canonical`, in which no blank stands
anywhere and the arguments of each call are its written literals. That form is
accepted, whatever the names of the collection and the calls are, because
written literals are (`Literal.parseListAt_itemsChars`). What it stands for is
the query that it was made from, to the spans, which are those of the new text.

The text is canonical: reading and writing it once more leaves it as it is.

## Main statements

* `Query.isQuery_canonical`: the text of a readable query has a form.
* `Query.parse_text`: an accepted query is read back from its text.
-/

namespace QueryShell.Query

open Text

/-! ## The form of a written query -/

/-- A call with nothing between its parts. -/
def CallForm.canonical (c : Call) : CallForm :=
  ⟨[], [], c.name.toList, [], Literal.itemsChars c.args⟩

/-- A query with nothing between its parts. -/
def Form.canonical (q : Query) : Form :=
  ⟨[], [], [], q.collection.toList, q.calls.map CallForm.canonical, []⟩

/-- The canonical form of a call is the text of the call behind a point. -/
theorem CallForm.chars_canonical (c : Call) : (CallForm.canonical c).chars = '.' :: c.chars := by
  simp [canonical, chars, lead, body, Call.chars]

/-- The canonical form of a query is the text of the query. -/
theorem Form.chars_canonical (q : Query) : (Form.canonical q).chars = q.chars := by
  have hcalls : (q.calls.map CallForm.canonical).flatMap CallForm.chars =
      q.calls.flatMap fun c => '.' :: c.chars := by
    rw [List.flatMap_map]
    exact congrArg (fun f => q.calls.flatMap f) (funext CallForm.chars_canonical)
  rw [chars, target, canonical]
  dsimp only
  rw [hcalls]
  simp [Query.chars]

/-- **A query that can come out of a text**: its names are written without
quotes, its arguments can be read, and it has a call. Its spans do not
matter. -/
structure Readable (q : Query) : Prop where
  collection : ∀ c ∈ q.collection.toList, isNameChar c = true
  collection_ne_nil : q.collection.toList ≠ []
  names : ∀ c ∈ q.calls, isCallName c.name.toList = true
  args : ∀ c ∈ q.calls, ∀ x ∈ c.args, Literal.Readable Literal.maxDepth x
  calls_ne_nil : q.calls ≠ []

/-- A call that a form stands for has a name of a call and readable
arguments. -/
theorem CallsDenote.readable {pos : Nat} {fs : List CallForm} {calls : List Call}
    (h : CallsDenote pos fs calls) (hfs : ∀ f ∈ fs, f.IsCall) : ∀ c ∈ calls,
      isCallName c.name.toList = true ∧ ∀ x ∈ c.args, Literal.Readable Literal.maxDepth x := by
  induction h with
  | nil => exact fun c hc => absurd hc List.not_mem_nil
  | cons h _ ih =>
    refine List.forall_mem_cons.mpr ⟨⟨?_, ?_⟩, ih fun f hf => hfs f (List.mem_cons_of_mem _ hf)⟩
    · rw [h.name, String.toList_ofList]
      exact (hfs _ List.mem_cons_self).name
    · exact Literal.readable_of_parseListAt h.args

/-- A query that a form stands for is readable. -/
theorem Form.Denotes.readable {f : Form} {q : Query} (h : f.Denotes q) (hf : f.IsQuery) :
    q.Readable where
  collection := by
    rw [h.collection, String.toList_ofList]
    exact hf.collection
  collection_ne_nil := by
    rw [h.collection, String.toList_ofList]
    exact hf.collection_ne_nil
  names := fun c hc => (h.calls.readable hf.calls c hc).1
  args := fun c hc => (h.calls.readable hf.calls c hc).2
  calls_ne_nil := fun hnil => hf.calls_ne_nil (h.calls.eq_nil_iff.mpr hnil)

theorem parseList_itemsChars {xs : List Literal}
    (h : ∀ x ∈ xs, Literal.Readable Literal.maxDepth x) :
    Literal.parseList (String.ofList (Literal.itemsChars xs)) = .ok xs :=
  (Literal.parseList_ofList_eq_ok_iff 0).mpr (Literal.parseListAt_itemsChars h 0)

/-- **The text of a readable query has a form**, with no blanks in it. So the
text is accepted, and the form tells as what. -/
theorem isQuery_canonical {q : Query} (h : q.Readable) : (Form.canonical q).IsQuery where
  before := by simp [Form.canonical]
  afterDb := by simp [Form.canonical]
  afterDot := by simp [Form.canonical]
  collection := h.collection
  collection_ne_nil := h.collection_ne_nil
  calls := by
    rw [Form.canonical, List.forall_mem_map]
    intro c hc
    refine ⟨by simp [CallForm.canonical], by simp [CallForm.canonical], h.names c hc,
      by simp [CallForm.canonical], c.args, parseList_itemsChars (h.args c hc)⟩
  calls_ne_nil := by
    rw [Form.canonical]
    simpa using h.calls_ne_nil
  tail := by simp [Form.canonical]

/-! ## What is read back -/

/-- What a call says: its name and its arguments, wherever it stands. -/
def content (c : Call) : String × List Literal :=
  (c.name, c.args)

/-- The calls that canonical forms stand for say what the calls say that the
forms were made from. -/
theorem map_content_of_callsDenote {calls calls' : List Call} {pos : Nat}
    (h : ∀ c ∈ calls, ∀ x ∈ c.args, Literal.Readable Literal.maxDepth x)
    (hd : CallsDenote pos (calls.map CallForm.canonical) calls') :
    calls'.map content = calls.map content := by
  induction calls generalizing calls' pos with
  | nil =>
    rw [hd.eq_nil_iff.mp rfl]
  | cons c calls ih =>
    rw [List.map_cons] at hd
    cases hd with
    | @cons _ _ _ c' cs hc hs =>
      have hname : c'.name = c.name := by
        rw [hc.name, CallForm.canonical, String.ofList_toList]
      have hargs : c'.args = c.args := by
        have hok := parseList_itemsChars (h c List.mem_cons_self)
        exact Except.ok.inj (hc.args.symm.trans hok)
      rw [List.map_cons, List.map_cons, ih (fun d hd => h d (List.mem_cons_of_mem c hd)) hs, content,
        content, hname, hargs]

/-- The text of a query depends on nothing but its collection and what its calls
say. -/
theorem text_congr {q q' : Query} (hc : q'.collection = q.collection)
    (h : q'.calls.map content = q.calls.map content) : q'.text = q.text := by
  have hchars (q : Query) : q.chars = "db.".toList ++ q.collection.toList ++
      (q.calls.map content).flatMap fun p =>
        '.' :: (p.1.toList ++ '(' :: Literal.itemsChars p.2 ++ [')']) := by
    rw [List.flatMap_map]
    rfl
  rw [text, text, hchars, hchars, hc, h]

/-- **An accepted query is read back from its text**, with its collection, the
names of its calls and their arguments, and what is read back has the same
text. -/
theorem parse_text {input : String} {q : Query} (h : parse input = .ok q) :
    ∃ q', parse q.text = .ok q' ∧ q'.collection = q.collection ∧ q'.names = q.names ∧
      q'.calls.map Call.args = q.calls.map Call.args ∧ q'.text = q.text := by
  obtain ⟨f, hf, -, hd⟩ := exists_form_of_read (parse_eq_ok_iff.mp h)
  have hq := hd.readable hf
  have hform := isQuery_canonical hq
  obtain ⟨q', hd'⟩ := hform.exists_denotes
  have hcollection : q'.collection = q.collection := by
    rw [hd'.collection, Form.canonical, String.ofList_toList]
  have hcontent : q'.calls.map content = q.calls.map content :=
    map_content_of_callsDenote hq.args hd'.calls
  have hnames := congrArg (List.map Prod.fst) hcontent
  have hargs := congrArg (List.map Prod.snd) hcontent
  rw [List.map_map, List.map_map] at hnames hargs
  refine ⟨q', ?_, hcollection, hnames, hargs, text_congr hcollection hcontent⟩
  rw [parse_eq_ok_iff, text, String.toList_ofList, ← Form.chars_canonical]
  exact read_of_form hform hd'

/-- A collection whose name begins with a digit, a call with the name `db`, a
closing parenthesis inside a string, a comma behind the last argument, and
blanks and semicolons wherever they may stand. -/
theorem parse_text_hidden :
    let q : Query := ⟨"1c", [⟨"db", [.object [("a", .string "x)")]], ⟨10, 26⟩⟩,
      ⟨"limit", [.number ⟨0x4000000000000000⟩], ⟨28, 37⟩⟩]⟩
    parse r" db . 1c .db ( {a: 'x)'} ). limit(2,);; " = .ok q ∧
      ∃ q', parse q.text = .ok q' ∧ q'.collection = "1c" ∧ q'.names = ["db", "limit"] := by
  intro q
  have h : parse r" db . 1c .db ( {a: 'x)'} ). limit(2,);; " = .ok q := by cbv
  obtain ⟨q', hq', hcollection, hnames, -, -⟩ := parse_text h
  exact ⟨h, q', hq', hcollection, hnames⟩

end QueryShell.Query
