import Mathlib
import QueryShell.Proofs.Completion.Cursor
import QueryShell.Proofs.Completion.Names
import QueryShell.Proofs.Query.Acceptance

/-!
# Completion behind an accepted query

A point behind an accepted query begins another call, so a modifier should be
completed there, and behind `db`, a point, a collection and a point an
operation. The reader of queries and the machine of completion share no code:
one takes the name of a collection from the characters and counts parentheses,
the other has only the tokens and keeps all brackets.

They agree as far as `Follows` goes. An accepted argument text is nested,
because its literals are (`DerivesList.nested`), and so a call leads from
one end of a chain to the next. The word `db` is where they part: the reader
takes it as the name of a call and behind the digits of a collection's name,
while the machine knows it only at the beginning of a query and as a whole name
of a collection.
-/

namespace QueryShell

open Text Completion

/-! ### Accepted arguments are nested -/

namespace Literal

theorem DerivesKey.nested {k : TokenKind} {key : String} (h : DerivesKey k key) : Nested [k] := by
  cases h <;> exact .plain .nil rfl rfl

mutual

/-- **The tokens of a value are nested**: every bracket that is opened in them
is closed in them. So arguments that are accepted never leave the walk of
completion inside of a bracket. -/
theorem DerivesValue.nested {n : Nat} {ks : List TokenKind} {x : Literal} :
    DerivesValue n ks x → Nested ks
  | .true => .plain .nil rfl rfl
  | .false => .plain .nil rfl rfl
  | .null => .plain .nil rfl rfl
  | .string _ => .plain .nil rfl rfl
  | .number _ => .plain .nil rfl rfl
  | .negated _ => .plain (.plain .nil rfl rfl) rfl rfl
  | .regex _ => .plain .nil rfl rfl
  | .array h => .group .square .nil h.nested
  | .object h => .group .brace .nil h.nested

/-- The tokens of a list of values are nested. -/
theorem DerivesList.nested {n : Nat} {ks : List TokenKind} {xs : List Literal} :
    DerivesList n ks xs → Nested ks
  | .nil => .nil
  | .single h => h.nested
  | .cons h hs => by
    rw [List.append_cons]
    exact (h.nested.plain rfl rfl).append hs.nested

theorem DerivesProperties.nested {n : Nat} {ks : List TokenKind} {ps : List (String × Literal)} :
    DerivesProperties n ks ps → Nested ks
  | .nil => .nil
  | .single hk h => (hk.nested.plain rfl rfl).append h.nested
  | .cons hk h hs => by
    rw [List.append_cons]
    exact (((hk.nested.plain rfl rfl).append h.nested).plain rfl rfl).append hs.nested

end

end Literal

/-! ### The tokens of an accepted query -/

namespace Query

open Token Lexeme

theorem kinds_db {cs : List Char} (hcs : HeadNot isWordChar cs) (r : Bool) :
    kinds r ('d' :: 'b' :: cs) = .db :: kinds false cs := by
  have hb : ∀ x ∈ ['b'], isWordChar x = true := List.all_eq_true.mp rfl
  exact kinds_word rfl hb hcs r

theorem exists_kinds_args {a : List Char} (h : ∃ xs, Literal.parseList (String.ofList a) = .ok xs) :
    ∃ us, Nested us ∧ (∀ k ∈ us, k.isUnclosed = false) ∧
      ∀ x, kinds true (a ++ ')' :: x) = us ++ .closer .paren :: kinds false x := by
  obtain ⟨xs, h⟩ := h
  obtain ⟨hclosed, ks, hks, hd⟩ :=
    Literal.parseListAt_eq_ok_iff.mp ((Literal.parseList_ofList_eq_ok_iff 0).mp h)
  refine ⟨ks, hd.nested, fun k hk => ?_, fun x => ?_⟩
  · have hmem : k ∈ (tokenize a).map Token.kind := by
      rw [hks]
      exact List.mem_append_left _ hk
    obtain ⟨t, ht, rfl⟩ := List.mem_map.mp hmem
    exact hclosed t ht
  · have hparen : HeadNot continues (')' :: x) := headNot_cons.mpr rfl
    obtain ⟨ts, r, hts, happ⟩ := tokenizeFrom_append hparen 0 true a hclosed
    rw [tokenize, tokenizeAt, hts, List.map_append] at hks
    rw [kinds, happ, List.map_append, List.append_cancel_right hks, map_kind_tokenizeFrom_eq_kinds,
      kinds_mark (by decide)]
    rfl

theorem exists_kinds_call {f : CallForm} (hf : f.IsCall) :
    ∃ us, Nested us ∧ (∀ k ∈ us, k.isUnclosed = false) ∧
      ∀ r x, kinds r (f.chars ++ x) =
        .dot :: wordKind f.name :: .opener .paren :: (us ++ .closer .paren :: kinds false x) := by
  obtain ⟨us, hnested, hclosed, hargs⟩ := exists_kinds_args hf.args
  obtain ⟨-, -, c, t, hname, hc, ht⟩ := isCallName_spec hf.name
  refine ⟨us, hnested, hclosed, fun r x => ?_⟩
  have hword : HeadNot isWordChar (f.beforeParen ++ '(' :: (f.args ++ ')' :: x)) :=
    headNot_isWordChar_append hf.beforeParen (headNot_cons.mpr (by decide))
  rw [f.chars_append, kinds_blanks hf.beforeDot, kinds_mark (by decide), kinds_blanks hf.beforeName,
    hname, List.cons_append, kinds_word hc ht hword, kinds_blanks hf.beforeParen,
    kinds_mark (by decide)]
  show _ :: _ :: _ :: kinds true (f.args ++ ')' :: x) = _
  rw [hargs]
  rfl

/-- The tokens of calls: the machine goes on to the end of the last one, unless
a call has the name `db`. -/
theorem exists_kinds_calls {fs : List CallForm} (hfs : ∀ f ∈ fs, f.IsCall) :
    ∃ ks, (∀ k ∈ ks, k.isUnclosed = false) ∧
      (∀ r x, ∃ r', kinds r (fs.flatMap CallForm.chars ++ x) = ks ++ kinds r' x) ∧
      ∀ n last, (Machine.walk ⟨.afterCalls n, [], last⟩ ks).position =
        if ∀ f ∈ fs, f.name ≠ ['d', 'b'] then .afterCalls (n + fs.length) else .invalid := by
  induction fs with
  | nil => exact ⟨[], by simp, fun r x => ⟨r, rfl⟩, fun n last => by simp⟩
  | cons f fs ih =>
    obtain ⟨us, hnested, hclosed, hcall⟩ := exists_kinds_call (hfs f List.mem_cons_self)
    obtain ⟨ks, hclosed', hcalls, hwalk⟩ := ih fun g hg => hfs g (List.mem_cons_of_mem f hg)
    refine ⟨.dot :: wordKind f.name :: .opener .paren :: (us ++ .closer .paren :: ks), ?_, ?_, ?_⟩
    · intro k hk
      simp only [List.mem_cons, List.mem_append] at hk
      rcases hk with rfl | rfl | rfl | hk | rfl | hk
      · rfl
      · exact wordKind_isUnclosed _
      · rfl
      · exact hclosed k hk
      · rfl
      · exact hclosed' k hk
    · intro r x
      obtain ⟨r', hks⟩ := hcalls false x
      refine ⟨r', ?_⟩
      rw [List.flatMap_cons, List.append_assoc, hcall, hks]
      simp
    · intro n last
      by_cases hdb : f.name = ['d', 'b']
      · rw [if_neg fun h => h f List.mem_cons_self hdb, hdb, Machine.walk_cons, Machine.walk_cons]
        refine walk_of_invalid ?_ _
        cases n <;> rfl
      · have hall : (∀ g ∈ f :: fs, g.name ≠ ['d', 'b']) ↔ ∀ g ∈ fs, g.name ≠ ['d', 'b'] := by
          rw [List.forall_mem_cons]
          exact and_iff_right hdb
        rw [wordKind, if_neg hdb, walk_call hnested, hwalk, List.length_cons, Nat.add_right_comm,
          Nat.add_assoc]
        exact if_congr hall.symm rfl rfl

/-- What follows the collection of a query cannot go on with its name. -/
theorem endsName_calls {fs : List CallForm} (hne : fs ≠ []) (hfs : ∀ f ∈ fs, f.IsCall)
    (x : List Char) : EndsName (fs.flatMap CallForm.chars ++ x) := by
  obtain ⟨f, fs, rfl⟩ := List.exists_cons_of_ne_nil hne
  have hf := hfs f List.mem_cons_self
  obtain ⟨-, -, c, t, hname, hc, -⟩ := isCallName_spec hf.name
  rw [List.flatMap_cons, List.append_assoc, CallForm.chars_append]
  cases hw : f.beforeDot with
  | nil =>
    refine endsName_point (headNot_append_of_blank (fun d hd => ?_) hf.beforeName ?_)
    · refine Bool.eq_false_iff.mpr fun hdigit => ?_
      rw [isBlank_of_isWordChar (isWordChar_of_isDigit hdigit)] at hd
      cases hd
    · rw [hname]
      exact headNot_cons.mpr (isDigit_of_isWordStart hc)
  | cons d w =>
    refine endsName_blank (hf.beforeDot d ?_) _
    rw [hw]
    exact List.mem_cons_self

/-- What `Follows` says of a query, said of the characters that it is read
from. -/
def Form.Follows (f : Form) : Prop :=
  (∀ g ∈ f.calls, g.name ≠ ['d', 'b']) ∧ ¬IsNumeralDb f.collection

instance (f : Form) : Decidable f.Follows :=
  inferInstanceAs (Decidable (_ ∧ _))

/-- **The tokens of a query text**, as far as its last call. Behind each part of
the form the tokenizer begins anew, so that they can be told part by part. -/
theorem exists_kinds_form {f : Form} (hf : f.IsQuery) (htail : f.tail = []) :
    ∃ ks, (∀ k ∈ ks, k.isUnclosed = false) ∧
      (∀ x, ∃ r, kinds true (f.chars ++ x) = ks ++ kinds r x) ∧
      (Machine.walk {} ks).position = if f.Follows then .afterCall else .invalid := by
  obtain ⟨cs, hclosed, hcollection, hname⟩ := exists_kinds_collection hf.collection hf.collection_ne_nil
  obtain ⟨ks, hclosed', hcalls, hwalk⟩ := exists_kinds_calls hf.calls
  refine ⟨.db :: .dot :: (cs ++ ks), ?_, fun x => ?_, ?_⟩
  · intro k hk
    simp only [List.mem_cons, List.mem_append] at hk
    rcases hk with rfl | rfl | hk | hk
    · rfl
    · rfl
    · exact hclosed k hk
    · exact hclosed' k hk
  · obtain ⟨r, hks⟩ := hcalls false x
    refine ⟨r, ?_⟩
    have hparts : f.chars ++ x = f.before ++ 'd' :: 'b' :: (f.afterDb ++ '.' :: (f.afterDot ++
        (f.collection ++ (f.calls.flatMap CallForm.chars ++ x)))) := by
      rw [Form.chars_eq, htail]
      simp
    have hword : HeadNot isWordChar (f.afterDb ++ '.' :: (f.afterDot ++
        (f.collection ++ (f.calls.flatMap CallForm.chars ++ x)))) :=
      headNot_isWordChar_append hf.afterDb (headNot_cons.mpr (by decide))
    rw [hparts, kinds_blanks hf.before, kinds_db hword, kinds_blanks hf.afterDb,
      kinds_mark (by decide), kinds_blanks hf.afterDot,
      hcollection _ _ (endsName_calls hf.calls_ne_nil hf.calls x)]
    show .db :: .dot :: (cs ++ kinds false _) = _
    rw [hks, List.cons_append, List.cons_append, List.append_assoc]
  · obtain ⟨m, hm⟩ := Nat.exists_eq_succ_of_ne_zero (List.length_pos_iff.mpr hf.calls_ne_nil).ne'
    rcases hname with ⟨hnot, hcs⟩ | ⟨hdb, text, rfl⟩
    · have hfollows : f.Follows ↔ ∀ g ∈ f.calls, g.name ≠ ['d', 'b'] := and_iff_left hnot
      rw [← List.cons_append, ← List.cons_append, Machine.walk_append, walk_chain (.collection hcs),
        hwalk, hm]
      exact if_congr hfollows.symm rfl rfl
    · rw [if_neg fun h => h.2 hdb]
      show ((Machine.walk {} [.db, .dot, .number text, .db]).walk ks).position = _
      exact walk_of_invalid rfl ks

end Query

/-! ### What is completed behind a point -/

namespace Completion

open Token

/-- Behind a text without open literals that does not end in a word, the context
is where the walk along all its tokens ends. -/
theorem contextOf_of_closed {before : List Char} {ks : List TokenKind} {hasSchema : Bool}
    (hks : kinds true before = ks ++ [.eof]) (hclosed : ∀ k ∈ ks, k.isUnclosed = false)
    (hword : wordBefore before = []) :
    contextOf before hasSchema = (Machine.walk {} ks).context? [] := by
  obtain ⟨ts, hts, hne⟩ := tokenizeFrom_eq_append_eof 0 true before
  rw [kinds, hts, List.map_append] at hks
  obtain rfl : ts.map Token.kind = ks := List.append_cancel_right hks
  rw [List.forall_mem_map] at hclosed
  have hstart : ∀ t ∈ ts, t.span.start < byteLength before := by
    intro t ht
    have hmem : t ∈ tokenizeFrom 0 true before := by
      rw [hts]
      exact List.mem_append_left _ ht
    obtain ⟨a, c, rest, -, hbefore, hstart, -⟩ := exists_read_of_mem hmem (hne t ht)
    have hpos := c.utf8Size_pos
    rw [hstart, hbefore, byteLength_append, byteLength_cons]
    omega
  have hall : ∀ t ∈ tokenize before, t.isUnclosed = false := by
    rw [tokenize, tokenizeAt, hts, List.forall_mem_append]
    exact ⟨hclosed, fun t ht => by rw [List.mem_singleton.mp ht]; rfl⟩
  have hfind : (tokenize before).find? Token.isUnclosed = none :=
    List.find?_eq_none.mpr fun t ht => by simp [hall t ht]
  have hfilter : (tokenize before).filter (·.span.start < byteLength before) = ts := by
    rw [tokenize, tokenizeAt, hts, List.filter_append,
      List.filter_eq_self.mpr fun t ht => decide_eq_true (hstart t ht)]
    simp
  have hcut := cutsAt_word before
  rw [hword, byteLength_nil, Nat.sub_zero] at hcut
  show contextOfTokens (byteLength before - byteLength (wordBefore before)) (wordBefore before)
    hasSchema {} (tokenize before) = _
  rw [hword, byteLength_nil, Nat.sub_zero, contextOfTokens_eq hcut, hfind]
  dsimp only
  rw [hfilter]

/-- The end of the text does not move the machine. -/
theorem Machine.position_feed_eof (m : Machine) : (m.feed .eof).position = m.position := by
  obtain ⟨position, _, _⟩ := m
  cases position <;> rfl

theorem wordBefore_point (text : List Char) : wordBefore (text ++ ['.']) = [] := by
  rw [wordBefore, List.reverse_append, List.reverse_cons, List.reverse_nil, List.nil_append,
    List.singleton_append, List.takeWhile_cons_of_neg (by decide)]
  rfl

/-- The context behind a text and a point. -/
theorem contextOf_point {text : List Char} {ks : List TokenKind} {hasSchema : Bool}
    (hks : kinds true (text ++ ['.']) = ks ++ [.dot, .eof])
    (hclosed : ∀ k ∈ ks, k.isUnclosed = false) :
    contextOf (text ++ ['.']) hasSchema = (Machine.walk {} (ks ++ [.dot])).context? [] := by
  refine contextOf_of_closed ?_ ?_ (wordBefore_point text)
  · rw [hks, List.append_assoc]
    rfl
  · rw [List.forall_mem_append]
    exact ⟨hclosed, List.forall_mem_singleton.mpr rfl⟩

end Completion

namespace Query

open Token

/-- **The queries that completion follows**: no call has the name `db`, and the
collection is no numeral with `db` right behind it. In both cases the reader
takes for a name what is a token of its own kind, and the walk has no step for
it there. -/
def Follows (q : Query) : Prop :=
  (∀ c ∈ q.calls, c.name ≠ "db") ∧ ¬IsNumeralDb q.collection.toList

instance (q : Query) : Decidable q.Follows :=
  inferInstanceAs (Decidable (_ ∧ _))

/-- The calls of a text have the names that are written in it. -/
theorem CallsDenote.forall_name_ne_iff {pos : Nat} {fs : List CallForm} {calls : List Call}
    (h : CallsDenote pos fs calls) (name : List Char) :
    (∀ c ∈ calls, c.name ≠ String.ofList name) ↔ ∀ g ∈ fs, g.name ≠ name := by
  induction h with
  | nil => simp
  | cons h _ ih =>
    rw [List.forall_mem_cons, List.forall_mem_cons, ih, h.name, Ne, Ne, String.ofList_inj]

/-- Completion follows a text exactly if it follows the query that is read from
the text. -/
theorem Form.Denotes.follows_iff {f : Form} {q : Query} (h : f.Denotes q) : q.Follows ↔ f.Follows := by
  unfold Query.Follows Form.Follows
  rw [h.collection, String.toList_ofList, ← h.calls.forall_name_ne_iff]

/-- A query text that ends in a parenthesis ends with its last call. -/
theorem Form.IsQuery.tail_eq_nil {f : Form} (hf : f.IsQuery) (hlast : f.chars.getLast? = some ')') :
    f.tail = [] := by
  rcases List.eq_nil_or_concat f.tail with h | ⟨t, x, h⟩
  · exact h
  · rw [Form.chars, h, List.concat_eq_append, ← List.append_assoc, ← List.append_assoc,
      List.getLast?_concat] at hlast
    cases hlast
    have hmem : ')' ∈ f.tail := by
      rw [h]
      simp
    exact absurd (hf.tail ')' hmem) (by decide)

/-- **The walk along an accepted query**, whatever stands behind it. The text
has to end with its last call: semicolons behind it would be walked along as
well. -/
theorem exists_kinds_accepted {input : String} {q : Query} (hparse : parse input = .ok q)
    (hlast : input.toList.getLast? = some ')') :
    ∃ ks, (∀ k ∈ ks, k.isUnclosed = false) ∧
      (∀ x, ∃ r, kinds true (input.toList ++ x) = ks ++ kinds r x) ∧
      (Machine.walk {} ks).position = if q.Follows then .afterCall else .invalid := by
  obtain ⟨f, hf, hchars, hd⟩ := exists_form_of_read (parse_eq_ok_iff.mp hparse)
  rw [← hchars] at hlast ⊢
  obtain ⟨ks, hclosed, hkinds, hwalk⟩ := exists_kinds_form hf (hf.tail_eq_nil hlast)
  exact ⟨ks, hclosed, hkinds, hwalk.trans (if_congr hd.follows_iff.symm rfl rfl)⟩

/-- Behind a call and a point another call begins. -/
theorem context?_feed_dot {m : Machine} {p : Prop} [Decidable p]
    (h : m.position = if p then .afterCall else .invalid) :
    (m.feed .dot).context? [] = if p then some ⟨.modifier, []⟩ else none := by
  obtain ⟨position, frames, last⟩ := m
  by_cases hp : p
  · rw [if_pos hp] at h ⊢
    cases h
    rfl
  · rw [if_neg hp] at h ⊢
    cases h
    rfl

/-- **The operation of a collection** is completed behind its name, for every
name that a query can have but those of `IsNumeralDb`. -/
theorem contextOf_of_collection {c : List Char} (hne : c ≠ []) (hc : ∀ x ∈ c, isNameChar x = true)
    (hasSchema : Bool) :
    contextOf ('d' :: 'b' :: '.' :: (c ++ ['.'])) hasSchema =
      if IsNumeralDb c then none else some ⟨.method, []⟩ := by
  obtain ⟨cs, hclosed, hcollection, hname⟩ := exists_kinds_collection hc hne
  have hword : HeadNot Lexeme.isWordChar ('.' :: (c ++ ['.'])) := headNot_cons.mpr (by decide)
  have hpoint : kinds true ('d' :: 'b' :: '.' :: c ++ ['.']) = .db :: .dot :: cs ++ [.dot, .eof] := by
    show kinds true ('d' :: 'b' :: '.' :: (c ++ ['.'])) = _
    rw [kinds_db hword, kinds_mark (by decide), hcollection _ _ (Lexeme.endsName_point headNot_nil),
      kinds_mark (by decide), kinds_nil]
    rfl
  have hclosed' : ∀ k ∈ .db :: .dot :: cs, k.isUnclosed = false :=
    List.forall_mem_cons.mpr ⟨rfl, List.forall_mem_cons.mpr ⟨rfl, hclosed⟩⟩
  show contextOf ('d' :: 'b' :: '.' :: c ++ ['.']) hasSchema = _
  rw [contextOf_point hpoint hclosed']
  rcases hname with ⟨hnot, hcs⟩ | ⟨hdb, text, rfl⟩
  · rw [if_neg hnot, Machine.walk_append, walk_chain (.collection hcs)]
    rfl
  · rw [if_pos hdb]
    rfl

/-- **Completion follows accepted queries**, as far as `Follows` goes: the walk
along such a query ends behind its last call, and a point there begins a
modifier. Along any other accepted query it ends where nothing is completed.
Behind a collection and a point an operation is completed, unless the tokens
tell the collection's name wrongly. -/
theorem completion_of_accepted (hasSchema : Bool) :
    (∀ (input : String) (q : Query), parse input = .ok q → input.toList.getLast? = some ')' →
        (Machine.walk {} ((tokenize input.toList).map Token.kind)).position =
            (if q.Follows then .afterCall else .invalid) ∧
          contextOf (input.toList ++ ['.']) hasSchema =
            if q.Follows then some ⟨.modifier, []⟩ else none) ∧
      ∀ c : List Char, c ≠ [] → (∀ x ∈ c, isNameChar x = true) →
        contextOf ('d' :: 'b' :: '.' :: (c ++ ['.'])) hasSchema =
          if IsNumeralDb c then none else some ⟨.method, []⟩ := by
  refine ⟨fun input q hparse hlast => ?_, fun c hne hc => contextOf_of_collection hne hc hasSchema⟩
  obtain ⟨ks, hclosed, hkinds, hwalk⟩ := exists_kinds_accepted hparse hlast
  constructor
  · obtain ⟨r, hend⟩ := hkinds []
    rw [List.append_nil, kinds_nil] at hend
    rw [tokenize, tokenizeAt, map_kind_tokenizeFrom_eq_kinds, hend, Machine.walk_append]
    exact (Machine.position_feed_eof _).trans hwalk
  · obtain ⟨r, hpoint⟩ := hkinds ['.']
    rw [kinds_mark (by decide), kinds_nil] at hpoint
    rw [contextOf_point hpoint hclosed, Machine.walk_append]
    exact context?_feed_dot hwalk

/-- A name that begins with digits and goes on with a word is followed: a
modifier is offered behind the call, and an operation behind the collection. -/
theorem completion_of_accepted_find :
    parse "db.2024_logs.find()" = .ok ⟨"2024_logs", [⟨"find", [], ⟨13, 19⟩⟩]⟩ ∧
      contextOf ("db.2024_logs.find()".toList ++ ['.']) true = some ⟨.modifier, []⟩ ∧
      contextOf ('d' :: 'b' :: '.' :: ("2024_logs".toList ++ ['.'])) true = some ⟨.method, []⟩ := by
  have hparse : parse "db.2024_logs.find()" = .ok ⟨"2024_logs", [⟨"find", [], ⟨13, 19⟩⟩]⟩ := by
    cbv
  obtain ⟨haccepted, hcollection⟩ := completion_of_accepted true
  have hmodifier := (haccepted _ _ hparse (by decide)).2
  have hmethod := hcollection "2024_logs".toList (by decide) (List.all_eq_true.mp rfl)
  rw [if_pos (by decide)] at hmodifier
  rw [if_neg (by decide)] at hmethod
  exact ⟨hparse, hmodifier, hmethod⟩

/-- An accepted query and an accepted name behind which nothing is completed. -/
theorem not_completed_behind_db :
    parse "db.users.db()" = .ok ⟨"users", [⟨"db", [], ⟨9, 13⟩⟩]⟩ ∧
      (Machine.walk {} ((tokenize "db.users.db()".toList).map Token.kind)).position = .invalid ∧
      contextOf "db.users.db().".toList true = none ∧
      (∀ x ∈ "2024db".toList, isNameChar x = true) ∧
      contextOf "db.2024db.".toList true = none :=
  ⟨by cbv, by cbv, by cbv, List.all_eq_true.mp rfl, by cbv⟩

end Query

end QueryShell
