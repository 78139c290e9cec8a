import QueryShell.Completion.Context

/-!
# Positions in a query

A cursor may stand anywhere in a query, and in a text that is no query at all.
This module says by a grammar which tokens stand before it at each
position where something can be completed. It speaks of whole lists of tokens
and does not walk along them: what is nested is nested however deep, and no
stack of brackets is kept.

`Chain n` derives `db`, a collection and `n` calls with their arguments. Between
the parentheses of a call the tokens are `Nested`; in arguments that the cursor
cuts off they are `Opens bs`, where `bs` are the brackets left open. `Fits` puts
these together, one equation for each `Slot`.
-/

namespace QueryShell.Completion

variable {u v t : List TokenKind} {bs : List Bracket} {n : Nat}

/-! ### Brackets -/

/-- Tokens where each bracket is closed by its own kind and in its turn. -/
inductive Nested : List TokenKind → Prop
  | nil : Nested []
  | plain {u : List TokenKind} {k : TokenKind} (hu : Nested u) (ho : k.isOpener = false)
      (hc : k.isCloser = false) : Nested (u ++ [k])
  | group {u v : List TokenKind} (b : Bracket) (hu : Nested u) (hv : Nested v) :
      Nested (u ++ .opener b :: (v ++ [.closer b]))

theorem Nested.append (hu : Nested u) (hv : Nested v) : Nested (u ++ v) := by
  induction hv with
  | nil => rwa [List.append_nil]
  | plain _ ho hc ih =>
    rw [← List.append_assoc]
    exact .plain ih ho hc
  | group b _ hw ih _ =>
    rw [← List.append_assoc]
    exact .group b ih hw

/-- Nested tokens do not end in an opening bracket. -/
theorem Nested.getLast?_ne_opener (hu : Nested u) (b : Bracket) : u.getLast? ≠ some (.opener b) := by
  cases hu with
  | nil => simp
  | plain _ ho _ =>
    rw [List.getLast?_concat]
    rintro ⟨rfl⟩
    cases ho
  | group b' _ _ =>
    rw [← List.cons_append, ← List.append_assoc, List.getLast?_concat]
    simp

/-- Tokens that close no bracket wrongly and leave the brackets `bs` open, the
innermost first. -/
inductive Opens : List Bracket → List TokenKind → Prop
  | nested {u : List TokenKind} (hu : Nested u) : Opens [] u
  | opener {bs : List Bracket} {u v : List TokenKind} (b : Bracket) (hu : Opens bs u) (hv : Nested v) :
      Opens (b :: bs) (u ++ .opener b :: v)

/-! ### Chains of calls -/

/-- The tokens that name a collection: a word, the word `db`, or a numeral,
which a word may follow. -/
inductive IsCollection : List TokenKind → Prop
  | word (name : String) : IsCollection [.ident name]
  | db : IsCollection [.db]
  | numeral (text : String) : IsCollection [.number text]
  | numeralWord (text name : String) : IsCollection [.number text, .ident name]

/-- The tokens of a collection with `n` calls on it. -/
inductive Chain : Nat → List TokenKind → Prop
  | collection {c : List TokenKind} (hc : IsCollection c) : Chain 0 (.db :: .dot :: c)
  | call {n : Nat} {t v : List TokenKind} (ht : Chain n t) (name : String) (hv : Nested v) :
      Chain (n + 1) (t ++ .dot :: .ident name :: .opener .paren :: (v ++ [.closer .paren]))

/-- Tokens that end inside the arguments of a call, where the brackets `bs`
are open besides the parenthesis of the call. -/
def IsInside (bs : List Bracket) (ks : List TokenKind) : Prop :=
  ∃ n t name u, Chain n t ∧ Opens bs u ∧ ks = t ++ .dot :: .ident name :: .opener .paren :: u

/-- Whether the last token is a comma or the opening bracket `b`. -/
def EndsIn (b : Bracket) (ks : List TokenKind) : Prop :=
  ks.getLast? = some (.opener b) ∨ ks.getLast? = some .comma

/-- Tokens before a stage of a pipeline: the pipeline is the first argument of
`aggregate`, which is the first call of its chain, and stands in square
brackets. -/
def IsBeforeStage (ks : List TokenKind) : Prop :=
  (∃ t v, Chain 0 t ∧ Nested v ∧
    ks = t ++ .dot :: .ident "aggregate" :: .opener .paren :: .opener .square :: v) ∧
  EndsIn .square ks

/-- **What can be completed** behind the tokens `ks`, outside all literals, once
`typed` has been typed of it. A stage is completed before an operator where both
would fit. A field never fits here: it is completed inside of a string, which
the tokens before the word do not show. -/
def Fits (ks : List TokenKind) (typed : List Char) : Slot → Prop
  | .collection => ks = [.db, .dot]
  | .method => ∃ t, Chain 0 t ∧ ks = t ++ [.dot]
  | .modifier => ∃ n t, Chain (n + 1) t ∧ ks = t ++ [.dot]
  | .stage => IsBeforeStage ks
  | .operator => ¬ IsBeforeStage ks ∧ ∃ bs, IsInside bs ks ∧
      (typed.head? = some '$' ∨ bs.head? = some .brace ∧ EndsIn .brace ks)
  | .field _ => False

end QueryShell.Completion
