import QueryShell.Proofs.Literal.Acceptance
import QueryShell.Proofs.Number.Parts

/-!
# Where the faults of literals lie

The reader of literals reports a fault by an offset, which it takes from some
token on the way: the one at hand, the bracket that was opened, or the one that
closes. So every fault lies where a token begins, and in particular on a
boundary of the text.

One of the faults never comes up. A numeral that stands for no number would be
reported as such, but the scanner of tokens takes nothing for a numeral that has
no value. Both facts hold for the same reason, that nothing is reported about a
token that was not read, and are proved together: `LiesAt` asks for a token at
the offset of the fault and, if the fault is that of a numeral, for a numeral
without a value.

## Main statements

* `TokenTree.holds_of_fold`: what holds of the tokens holds of the trees, and
  brackets are reported at a token.
* `Literal.reports_elements`: literals are reported at a token.
* `Literal.exists_of_parseListAt_error`: where the fault of an argument text
  lies.
-/

namespace QueryShell

open Text

/-! ## Tokens of trees -/

namespace TokenTree

/-- **All tokens of the tree have the property**, which may ask what they are
and where they begin. Commas between the children of a group are trees of their
own, so that nothing of the tokens is left out. -/
inductive Holds (P : TokenKind → Nat → Prop) : TokenTree → Prop
  | leaf {t : Token} (h : P t.kind t.span.start) : Holds P (leaf t)
  | group {b : Bracket} {start stop : Nat} {children : List TokenTree} (ho : P (.opener b) start)
    (h : ∀ t ∈ children, Holds P t) (hc : P (.closer b) stop) :
    Holds P (group b start children stop)

variable {P : TokenKind → Nat → Prop}

/-- What holds of a tree holds of its first token. -/
theorem Holds.head {t : TokenTree} (h : t.Holds P) : P t.head t.start := by
  cases h with
  | leaf h => exact h
  | group ho _ _ => exact ho

/-- What holds of a group holds of its two brackets and of the trees between
them. -/
theorem Holds.of_group {b : Bracket} {start stop : Nat} {children : List TokenTree}
    (h : (TokenTree.group b start children stop).Holds P) :
    P (.opener b) start ∧ (∀ t ∈ children, t.Holds P) ∧ P (.closer b) stop := by
  cases h with
  | group ho h hc => exact ⟨ho, h, hc⟩

/-- The bracket that is open, and the trees before it. -/
def Frame.Holds (P : TokenKind → Nat → Prop) (f : Frame) : Prop :=
  P (.opener f.bracket) f.start ∧ ∀ t ∈ f.before, t.Holds P

/-- **What holds of the tokens holds of the trees** that they are folded into,
and a fault is reported at one of the tokens. -/
theorem holds_of_fold {stack : List Frame} {before : List TokenTree} {ts : List Token}
    (hstack : ∀ f ∈ stack, f.Holds P) (hbefore : ∀ t ∈ before, t.Holds P)
    (hts : ∀ t ∈ ts, P t.kind t.span.start) :
    (∀ trees, fold stack before ts = .ok trees → ∀ t ∈ trees, t.Holds P) ∧
      ∀ x, fold stack before ts = .error x → ∃ k, P k x.2 := by
  fun_induction fold stack before ts with
  | case1 before =>
    refine ⟨fun trees h => ?_, fun _ h => (by cases h)⟩
    cases h
    exact fun t ht => hbefore t (List.mem_reverse.mp ht)
  | case2 before f stack =>
    refine ⟨fun _ h => (by cases h), fun x h => ?_⟩
    cases h
    exact ⟨_, (hstack f List.mem_cons_self).1⟩
  | case3 stack before t ts b hb ih =>
    obtain ⟨ht, hts⟩ := List.forall_mem_cons.mp hts
    refine ih (List.forall_mem_cons.mpr ⟨⟨?_, hbefore⟩, hstack⟩) (List.forall_mem_nil _) hts
    rwa [← hb]
  | case4 before t ts b hb =>
    refine ⟨fun _ h => (by cases h), fun x h => ?_⟩
    cases h
    exact ⟨_, hts t List.mem_cons_self⟩
  | case5 before t ts f tail hb ih =>
    obtain ⟨ht, hts⟩ := List.forall_mem_cons.mp hts
    obtain ⟨⟨hopen, hframe⟩, htail⟩ := List.forall_mem_cons.mp hstack
    rw [hb] at ht
    refine ih htail (List.forall_mem_cons.mpr ⟨.group hopen (fun u hu => ?_) ht, hframe⟩) hts
    exact hbefore u (List.mem_reverse.mp hu)
  | case6 before t ts b hb f stack hne =>
    refine ⟨fun _ h => (by cases h), fun x h => ?_⟩
    cases h
    exact ⟨_, hts t List.mem_cons_self⟩
  | case7 stack before t ts hb hplace =>
    refine ⟨fun _ h => (by cases h), fun x h => ?_⟩
    cases h
    exact ⟨_, hts t List.mem_cons_self⟩
  | case8 stack before t ts _ _ ih | case9 stack before t ts _ _ _ ih =>
    obtain ⟨ht, hts⟩ := List.forall_mem_cons.mp hts
    exact ih hstack (List.forall_mem_cons.mpr ⟨.leaf ht, hbefore⟩) hts

end TokenTree

namespace Literal

open TokenTree

/-! ## Faults -/

variable {P : TokenKind → Nat → Prop} {α β : Type}

/-- Whether a fault is that of a numeral without a value. -/
def Fault.isNumeral : Fault → Bool
  | .numeral _ => true
  | _ => false

/-- **The fault lies at a token** with the property; that of a numeral lies at
the numeral, which has no value. With `P` as being a token of the text, this
puts every fault on a boundary. -/
def LiesAt (P : TokenKind → Nat → Prop) (x : Located) : Prop :=
  ∃ k, P k x.2 ∧ ∀ text, x.1 = .numeral text →
    k = .number text ∧ Double.ofNumeral? text.toList = none

/-- Nothing is reported but faults that lie at a token with the property. -/
def Reports (P : TokenKind → Nat → Prop) (r : Except Located α) : Prop :=
  ∀ x, r = .error x → LiesAt P x

theorem reports_ok (y : α) : Reports P (.ok y) := by
  intro x hx
  cases hx

/-- A fault other than that of a numeral lies where there is a token with the
property. -/
theorem reports_error {f : Fault} {k : TokenKind} {offset : Nat} (h : P k offset)
    (hf : f.isNumeral = false) : Reports P (.error (f, offset) : Except Located α) := by
  intro x hx
  cases hx
  refine ⟨k, h, fun text htext => ?_⟩
  rw [show f = .numeral text from htext] at hf
  cases hf

/-- What is made of a value adds no fault. -/
theorem Reports.map {r : Except Located α} (h : Reports P r) (f : α → β) : Reports P (r.map f) := by
  cases r with
  | ok y => exact reports_ok _
  | error x =>
    intro y hy
    cases hy
    exact h x rfl

/-- **Two readers report nothing else than each of them does.** All readers of
literals are put together in this way. -/
theorem Reports.bind {r : Except Located α} {f : α → Except Located β} (h : Reports P r)
    (hf : ∀ y, Reports P (f y)) : Reports P (r >>= f) := by
  cases r with
  | ok y => exact hf y
  | error x =>
    intro y hy
    cases hy
    exact h x rfl

/-! ## The readers -/

/-- A numeral reports itself, and only if it has no value or one that is too
large. -/
theorem reports_readNumeral {text : String} {offset : Nat} (h : P (.number text) offset) :
    Reports P (readNumeral text offset) := by
  unfold readNumeral
  split
  · next hnone =>
    intro x hx
    cases hx
    refine ⟨_, h, fun text' htext => ?_⟩
    cases htext
    exact ⟨rfl, hnone⟩
  · split
    · exact reports_ok _
    · exact reports_error h rfl

theorem isNumeral_nameFault (name : String) (next : Option TokenKind) :
    (nameFault name next).isNumeral = false := by
  unfold nameFault
  split <;> rfl

theorem isNumeral_of_flagFault? {seen flags : List Char} {f : Fault}
    (h : flagFault? seen flags = some f) : f.isNumeral = false := by
  fun_induction flagFault? seen flags with
  | case1 => cases h
  | case2 =>
    cases h
    rfl
  | case3 =>
    cases h
    rfl
  | case4 _ _ _ _ _ ih => exact ih h

/-- A token that stands for a value reports itself. -/
theorem reports_ofToken {t : Token} (h : P t.kind t.span.start) (next : Option TokenKind) :
    Reports P (ofToken t next) := by
  unfold ofToken
  dsimp only
  split
  · split
    · exact reports_error h rfl
    · exact reports_ok _
  · next text hk =>
    rw [hk] at h
    exact (reports_readNumeral h).map _
  · split
    · exact reports_error h rfl
    · exact reports_error h rfl
  · split
    · next hf => exact reports_error h (isNumeral_of_flagFault? hf)
    · exact reports_ok _
  · exact reports_ok _
  · exact reports_ok _
  · exact reports_ok _
  · exact reports_error h rfl
  · exact reports_error h (isNumeral_nameFault _ _)
  · exact reports_error h (isNumeral_nameFault _ _)
  all_goals exact reports_error h rfl

theorem reports_keyOf {t : TokenTree} (h : t.Holds P) : Reports P (keyOf t) := by
  have hhead := h.head
  unfold keyOf
  split
  · exact reports_ok _
  · exact reports_ok _
  · split
    · exact reports_error hhead rfl
    · exact reports_ok _
  · next text hk =>
    rw [hk] at hhead
    exact (reports_readNumeral hhead).map _
  · exact reports_error hhead rfl
  · exact reports_error hhead rfl

/-- A tree that stands in a wrong place is reported at its first token. -/
theorem reports_misplaced {t : TokenTree} (h : t.Holds P) (expected : Expected) :
    Reports P (.error (misplaced expected t) : Except Located α) := by
  refine reports_error h.head ?_
  split <;> rfl

/-- The numeral that is read together with a minus is a token of the text, and
has the property. -/
theorem holds_of_negated? {t u : TokenTree} {text : String} {offset : Nat} (hu : u.Holds P)
    (h : negated? t u = some (text, offset)) : P (.number text) offset := by
  unfold negated? at h
  split at h
  · cases h
    exact hu.head
  · cases h

mutual

/-- **A tree reports one of its tokens.** This is a proof by recursion on the
tree together with the lists of elements and of properties in it, one function
for each of the readers. -/
theorem reports_ofTree (depth : Nat) (next : Option TokenKind) :
    ∀ t : TokenTree, t.Holds P → Reports P (ofTree depth next t)
  | .leaf t, h => by
    rw [ofTree]
    exact reports_ofToken h.head next
  | .group .paren start children stop, h => by
    rw [ofTree]
    exact reports_error h.head rfl
  | .group .square start children stop, h => by
    rw [ofTree]
    split
    · exact (reports_elements (depth + 1) .afterElement children h.of_group.2.1).map _
    · exact reports_error h.head rfl
  | .group .brace start children stop, h => by
    obtain ⟨-, hchildren, hclose⟩ := h.of_group
    rw [ofTree]
    split
    · exact (reports_properties (depth + 1) hclose children hchildren).map _
    · exact reports_error h.head rfl

/-- **Literals are reported at a token.** It may be one of the literals, or the
token that stands where one is missing. -/
theorem reports_elements (depth : Nat) (expected : Expected) :
    ∀ ts : List TokenTree, (∀ t ∈ ts, t.Holds P) → Reports P (elements depth expected ts)
  | [], _ => by
    rw [elements]
    exact reports_ok _
  | [t], h => by
    have ht := h t List.mem_cons_self
    rw [elements]
    split
    · exact reports_error ht.head rfl
    · exact (reports_ofTree depth none t ht).bind fun _ => reports_ok _
  | t :: u :: rest, h => by
    obtain ⟨ht, hrest⟩ := List.forall_mem_cons.mp h
    obtain ⟨hu, hrest'⟩ := List.forall_mem_cons.mp hrest
    rw [elements]
    split
    · exact reports_error ht.head rfl
    · split
      · next hneg =>
        exact (reports_readNumeral (holds_of_negated? hu hneg)).bind fun _ =>
          (reports_moreElements depth expected rest hrest').bind fun _ => reports_ok _
      · exact (reports_ofTree depth (some u.head) t ht).bind fun _ =>
          (reports_moreElements depth expected (u :: rest) hrest).bind fun _ => reports_ok _

/-- The elements behind a comma report one of their tokens. -/
theorem reports_moreElements (depth : Nat) (expected : Expected) :
    ∀ ts : List TokenTree, (∀ t ∈ ts, t.Holds P) → Reports P (moreElements depth expected ts)
  | [], _ => by
    rw [moreElements]
    exact reports_ok _
  | t :: rest, h => by
    obtain ⟨ht, hrest⟩ := List.forall_mem_cons.mp h
    rw [moreElements]
    split
    · exact reports_elements depth expected rest hrest
    · exact reports_misplaced ht expected

/-- The properties of an object report one of their tokens, or the brace that
closes it if something is missing before it. -/
theorem reports_properties (depth : Nat) {stop : Nat} (hstop : P (.closer .brace) stop) :
    ∀ ts : List TokenTree, (∀ t ∈ ts, t.Holds P) → Reports P (properties depth stop ts)
  | [], _ => by
    rw [properties]
    exact reports_ok _
  | [k], h => by
    rw [properties]
    exact (reports_keyOf (h k List.mem_cons_self)).bind fun _ => reports_error hstop rfl
  | [k, c], h => by
    rw [properties]
    refine (reports_keyOf (h k List.mem_cons_self)).bind fun _ => ?_
    split
    · exact reports_error hstop rfl
    · exact reports_misplaced (h c (by simp)) .colon
  | [k, c, t], h => by
    rw [properties]
    refine (reports_keyOf (h k List.mem_cons_self)).bind fun _ => ?_
    split
    · exact (reports_ofTree depth none t (h t (by simp))).bind fun _ => reports_ok _
    · exact reports_misplaced (h c (by simp)) .colon
  | k :: c :: t :: u :: rest, h => by
    obtain ⟨hk, h⟩ := List.forall_mem_cons.mp h
    obtain ⟨hc, h⟩ := List.forall_mem_cons.mp h
    obtain ⟨ht, hrest⟩ := List.forall_mem_cons.mp h
    obtain ⟨hu, hrest'⟩ := List.forall_mem_cons.mp hrest
    rw [properties]
    refine (reports_keyOf hk).bind fun _ => ?_
    split
    · split
      · next hneg =>
        exact (reports_readNumeral (holds_of_negated? hu hneg)).bind fun _ =>
          (reports_moreProperties depth hstop rest hrest').bind fun _ => reports_ok _
      · exact (reports_ofTree depth (some u.head) t ht).bind fun _ =>
          (reports_moreProperties depth hstop (u :: rest) hrest).bind fun _ => reports_ok _
    · exact reports_misplaced hc .colon

/-- The properties behind a comma report what the first ones do. -/
theorem reports_moreProperties (depth : Nat) {stop : Nat} (hstop : P (.closer .brace) stop) :
    ∀ ts : List TokenTree, (∀ t ∈ ts, t.Holds P) → Reports P (moreProperties depth stop ts)
  | [], _ => by
    rw [moreProperties]
    exact reports_ok _
  | t :: rest, h => by
    obtain ⟨ht, hrest⟩ := List.forall_mem_cons.mp h
    rw [moreProperties]
    split
    · exact reports_properties depth hstop rest hrest
    · exact reports_misplaced ht .afterProperty

end

theorem isNumeral_unclosed (k : TokenKind) : (Fault.unclosed k).isNumeral = false := by
  unfold Fault.unclosed
  split <;> rfl

/-- **An argument list reports one of its tokens**, be it while the tokens are
folded into trees or while the trees are read. -/
theorem reports_listOfTokens {ts : List Token} (h : ∀ t ∈ ts, P t.kind t.span.start) :
    Reports P (listOfTokens ts) := by
  have hfold := @holds_of_fold P [] [] (ts.filter (·.kind != .eof)) (List.forall_mem_nil _)
    (List.forall_mem_nil _)
    fun t ht => h t (List.mem_filter.mp ht).1
  unfold listOfTokens
  split
  · next t ht => exact reports_error (h t (List.mem_of_find?_eq_some ht)) (isNumeral_unclosed _)
  · split
    · next f offset herror =>
      obtain ⟨k, hk⟩ := hfold.2 _ herror
      exact reports_error hk rfl
    · next trees htrees => exact reports_elements 0 .afterArgument trees (hfold.1 trees htrees)

/-! ## Argument texts -/

/-- **A numeral that was scanned has a value.** The scanner and the reader of
numerals find the same parts (`Numeral.exists_parts`), so that the fault of a
numeral without a value is never reported. -/
theorem isSome_ofNumeral?_of_mem {pos : Nat} {r : Bool} {cs : List Char} {t : Token} {text : String}
    (h : t ∈ Token.tokenizeFrom pos r cs) (ht : t.kind = .number text) :
    (Double.ofNumeral? text.toList).isSome = true := by
  obtain ⟨_, c, rest, r', -, -, hk, -⟩ := Token.exists_read_of_mem h (by rw [ht]; exact nofun)
  rw [ht] at hk
  obtain ⟨hc, rfl⟩ := Lexeme.eq_numeral_of_kind_eq_number hk.symm
  rw [String.toList_ofList, Double.ofNumeral?, Option.isSome_map]
  exact Numeral.isSome_decimal?_numeral hc rest

/-- **Where the fault of the tokens of a text lies**: where one of them begins;
and it is never that of a numeral without a value. -/
theorem exists_of_listOfTokens_error {base : Nat} {text : List Char} {f : Fault} {offset : Nat}
    (h : listOfTokens (Token.tokenizeAt base text) = .error (f, offset)) :
    (∃ t ∈ Token.tokenizeAt base text, t.span.start = offset) ∧ ∀ s, f ≠ .numeral s := by
  have hreports : Reports (fun k offset => ∃ t ∈ Token.tokenizeAt base text,
      t.kind = k ∧ t.span.start = offset) (listOfTokens (Token.tokenizeAt base text)) :=
    reports_listOfTokens fun t ht => ⟨t, ht, rfl, rfl⟩
  obtain ⟨k, ⟨t, ht, hk, hoffset⟩, hnumeral⟩ := hreports _ h
  refine ⟨⟨t, ht, hoffset⟩, fun s hs => ?_⟩
  obtain ⟨rfl, hnone⟩ := hnumeral s hs
  have hsome := isSome_ofNumeral?_of_mem ht hk
  rw [hnone] at hsome
  cases hsome

/-- **Where the fault of an argument text lies**: on a boundary of the text,
which begins at the offset `base`; and it is never that of a numeral without a
value. -/
theorem exists_of_parseListAt_error {base : Nat} {text : List Char} {e : QueryError}
    (h : parseListAt base text = .error e) :
    ∃ f a b, text = a ++ b ∧ e = Fault.toError f (base + byteLength a) ∧ ∀ s, f ≠ .numeral s := by
  unfold parseListAt at h
  split at h
  · cases h
  · next f offset herror =>
    cases h
    obtain ⟨⟨t, ht, rfl⟩, hnumeral⟩ := exists_of_listOfTokens_error herror
    obtain ⟨a, b, hab, hstart⟩ := Token.exists_start_of_mem ht
    exact ⟨f, a, b, hab, by rw [← hstart], hnumeral⟩

end Literal

end QueryShell
