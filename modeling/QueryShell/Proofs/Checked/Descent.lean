import QueryShell.Proofs.Checked.Text
import QueryShell.Proofs.Literal.Acceptance

/-!
# Literals read along their tokens

The reader of literals works on trees, in which each bracket has found its
partner. The same literals can be read in one descent along the tokens. Such a
reader counts the brackets that are open, and it relies on what comes next:
behind a value inside brackets there is always one more token, if only the
bracket that closes them. Here it is a `Reading`, which gives nothing at
all where one of its conditions fails: when the tokens end too soon, when the
count falls below zero, and also when a value takes no token.

None of this ever happens on tokens that spell trees (`TokenTree.Spells`). They
are read as their trees are, whatever stands behind them, and the count of open
brackets is the same before and after (`value_tree`). The proof goes along the
trees. The two readers look behind a value in different ways, one at the next
tree and the other at the next token, and `Behind` says which of the differences
they see.

## Main statements

* `TokenTree.Spells.exists_append`: the tokens of a list of trees fall into
  those of its parts.
* `Checked.value_tree`: the tokens of a tree are read as the tree.
* `Checked.elements_trees`, `Checked.properties_trees`: so are the tokens inside
  brackets.
-/

namespace QueryShell

/-! ## Tokens of trees -/

namespace TokenTree

/-- **The tokens that fold into the trees**, in the order of the text. A group
has its two brackets around the tokens of its children, so that brackets are
matched by the shape of the relation and need not be counted. -/
inductive Spells : List Token → List TokenTree → Prop
  | nil : Spells [] []
  | leaf {t : Token} {ts : List Token} {trees : List TokenTree} (ho : t.kind.isOpener = false)
    (hc : t.kind.isCloser = false) (h : Spells ts trees) : Spells (t :: ts) (leaf t :: trees)
  | group {o c : Token} {b : Bracket} {inner ts : List Token} {children trees : List TokenTree}
    (ho : o.kind = .opener b) (hc : c.kind = .closer b) (hin : Spells inner children)
    (h : Spells ts trees) :
    Spells (o :: (inner ++ c :: ts)) (group b o.span.start children c.span.start :: trees)

namespace Spells

variable {ts us : List Token} {t : TokenTree} {trees trees' : List TokenTree}

theorem eq_nil (h : Spells ts []) : ts = [] := by
  cases h
  rfl

/-- Two lists of trees are spelt by their tokens, one behind the other. -/
theorem append (h : Spells ts trees) (h' : Spells us trees') : Spells (ts ++ us) (trees ++ trees') := by
  induction h with
  | nil => exact h'
  | leaf ho hc _ ih => exact .leaf ho hc ih
  | group ho hc hin _ _ ih =>
    rw [List.cons_append, List.append_assoc, List.cons_append]
    exact .group ho hc hin ih

/-- The tokens of the first tree, and those of the others. -/
theorem exists_cons (h : Spells ts (t :: trees)) :
    ∃ a b, ts = a ++ b ∧ Spells a [t] ∧ Spells b trees := by
  cases h with
  | leaf ho hc h => exact ⟨[_], _, rfl, .leaf ho hc .nil, h⟩
  | group ho hc hin h => exact ⟨_ :: (_ ++ [_]), _, by simp, .group ho hc hin .nil, h⟩

/-- The tokens of a list of trees fall into those of its parts. -/
theorem exists_append (h : Spells ts (trees ++ trees')) :
    ∃ a b, ts = a ++ b ∧ Spells a trees ∧ Spells b trees' := by
  induction trees generalizing ts with
  | nil => exact ⟨[], ts, rfl, .nil, h⟩
  | cons t trees ih =>
    obtain ⟨a, b, rfl, ht, h⟩ := exists_cons h
    obtain ⟨a', b', rfl, hrest, h'⟩ := ih h
    exact ⟨a ++ a', b', (List.append_assoc a a' b').symm, ht.append hrest, h'⟩

theorem exists_head (h : Spells ts (t :: trees)) :
    ∃ u us, ts = u :: us ∧ u.kind = t.head ∧ u.span.start = t.start ∧ u.kind.isCloser = false := by
  cases h with
  | leaf ho hc h => exact ⟨_, _, rfl, rfl, rfl, hc⟩
  | group ho hc hin h => exact ⟨_, _, rfl, ho, rfl, by rw [ho]; rfl⟩

/-- The tokens behind a tree that is no bracket. -/
theorem exists_tail (h : Spells ts (t :: trees)) (ht : t.head.isOpener = false) :
    ∃ u us, ts = u :: us ∧ Spells us trees := by
  cases h with
  | leaf _ _ h => exact ⟨_, _, rfl, h⟩
  | group _ _ _ _ => cases ht

end Spells

end TokenTree

namespace Checked

open Literal (Located)
open TokenTree (Spells)

/-! ## Readings -/

/-- The result of a reader, which is nothing at all if one of its steps has
failed its condition. -/
abbrev Reading (ε α : Type) : Type :=
  ExceptT ε Option α

/-- A result that meets every condition. -/
def done {ε α : Type} (r : Except ε α) : Reading ε α :=
  ExceptT.mk (some r)

/-- A condition that has failed. -/
def stuck {ε α : Type} : Reading ε α :=
  ExceptT.mk none

section

variable {ε α β : Type}

theorem some_bind (x : α) (f : α → Reading ε β) : liftM (some x) >>= f = f x := rfl

/-- A step that has a result hands it to the next one. -/
theorem done_ok_bind (x : α) (f : α → Reading ε β) : done (.ok x) >>= f = f x := rfl

/-- If whatever follows a result meets its conditions, then all does, and the
outcome is that of the steps without conditions. Every reader below is shown to
meet its own in this way. -/
theorem done_bind {r : Except ε α} {f : α → Reading ε β} {g : α → Except ε β}
    (h : ∀ x, f x = done (g x)) : done r >>= f = done (r >>= g) := by
  cases r with
  | error e => rfl
  | ok x => exact h x

/-- If what follows a result meets its conditions up to a function, such as the
one that adds what is left to read, then all does up to that function. -/
theorem done_bind_map {r : Except ε α} {γ : Type} {f : α → Reading ε γ} {g : α → Except ε β} {k : β → γ}
    (h : ∀ x, f x = done ((g x).map k)) : done r >>= f = done ((r >>= g).map k) := by
  cases r with
  | error e => rfl
  | ok x => exact h x

/-- What is known of a result may be put into the step that follows. -/
theorem done_map_bind (r : Except ε α) {γ : Type} (k : α → γ) (f : γ → Reading ε β) :
    done (r.map k) >>= f = done r >>= fun x => f (k x) := by
  cases r <;> rfl

/-- Conditions have nothing to do with how an error is told. -/
theorem done_adapt {ε' : Type} (r : Except ε α) (f : ε → ε') :
    (done r).adapt f = done (r.mapError f) := by
  cases r <;> rfl

end

/-! ## The descent -/

/-- The first fault among those flags that are left, which are told from the
ones before them by offset. -/
def flagFaultFrom (flags : List Char) : List (Nat × Char) → Option (Option Literal.Fault)
  | [] => some none
  | (i, c) :: rest => do
    if !Literal.regexFlags.contains c then return some (.unknownFlag c)
    let seen ← slice 0 i flags
    if seen.contains c then return some (.repeatedFlag c)
    flagFaultFrom flags rest

/-- The first flag that is unknown or repeats one before it. -/
def flagFault? (flags : List Char) : Option (Option Literal.Fault) :=
  flagFaultFrom flags (charIndices 0 flags)

/-- Opens a bracket, which may be one too many. -/
def enter (depth offset : Nat) : Reading Located Nat := do
  let depth := depth + 1
  if Literal.maxDepth < depth then throw (.tooDeep, offset)
  return depth

/-- Closes a bracket. -/
def leave (depth : Nat) : Option Nat :=
  sub depth 1

/-- Reads what follows a minus at an offset, which has to be a numeral. -/
def negative (offset : Nat) : List Token → Reading Located (Literal × List Token)
  | ⟨.number text, span⟩ :: ts => do
    let x ← done (Literal.readNumeral text span.start)
    return (.number x.neg, ts)
  | _ => throw (.minus, offset)

/-- Checks that a colon comes next. -/
def expectColon : Option Token → Reading Located Unit
  | none => stuck
  | some t => if t.kind = .colon then return () else throw (Literal.misplaced .colon (.leaf t))

mutual

/-- **Reads a value**, and gives the tokens behind it and the depth there. A
reader of this kind sees tokens only, where the reader through trees knows
beforehand where each bracket is closed. It is `none` if the depth would fall
below zero on the way out of a bracket. -/
def value (depth : Nat) : List Token → Reading Located (Literal × List Token × Nat)
  | [] => stuck
  | t :: ts =>
    match t.kind with
    | .opener .brace => do
      let depth ← enter depth t.span.start
      let (ps, ts, depth) ← properties depth ts
      return (.object (Entries.ofList ps), ts, ← leave depth)
    | .opener .square => do
      let depth ← enter depth t.span.start
      let (xs, ts, depth) ← elements depth ts
      return (.array xs, ts, ← leave depth)
    | .opener .paren => throw (.parenthesized, t.span.start)
    | .operator '-' => do
      let (x, ts) ← negative t.span.start ts
      return (x, ts, depth)
    | .regex pattern flags _ => do
      match ← flagFault? flags.toList with
      | some fault => throw (fault, t.span.start)
      | none => return (.regex pattern flags, ts, depth)
    | _ => do
      let x ← done (Literal.ofToken t (ts.head?.map Token.kind))
      return (x, ts, depth)
termination_by ts => (ts.length, 0)

/-- Reads the elements up to the bracket that closes them. -/
def elements (depth : Nat) : List Token → Reading Located (List Literal × List Token × Nat)
  | [] => stuck
  | t :: ts => do
    if t.kind = .closer .square then return ([], ts, depth)
    if t.kind = .comma then throw (.hole, t.span.start)
    let (x, rest, depth) ← value depth (t :: ts)
    if rest.length < (t :: ts).length then
      let (xs, rest, depth) ← moreElements depth rest
      return (x :: xs, rest, depth)
    else stuck
termination_by ts => (ts.length, 1)

/-- Goes on behind an element. -/
def moreElements (depth : Nat) : List Token → Reading Located (List Literal × List Token × Nat)
  | [] => stuck
  | t :: ts => do
    if t.kind = .comma then elements depth ts
    else if t.kind = .closer .square then return ([], ts, depth)
    else throw (Literal.misplaced .afterElement (.leaf t))
termination_by ts => (ts.length, 0)

/-- Reads the properties up to the bracket that closes them. -/
def properties (depth : Nat) :
    List Token → Reading Located (List (String × Literal) × List Token × Nat)
  | [] => stuck
  | k :: ts => do
    if k.kind = .closer .brace then return ([], ts, depth)
    let key ← done (Literal.keyOf (.leaf k))
    expectColon ts.head?
    let (x, rest, depth) ← value depth ts.tail
    if rest.length < (k :: ts).length then
      let (ps, rest, depth) ← moreProperties depth rest
      return ((key, x) :: ps, rest, depth)
    else stuck
termination_by ts => (ts.length, 0)

/-- Goes on behind a property. -/
def moreProperties (depth : Nat) :
    List Token → Reading Located (List (String × Literal) × List Token × Nat)
  | [] => stuck
  | t :: ts => do
    if t.kind = .comma then properties depth ts
    else if t.kind = .closer .brace then return ([], ts, depth)
    else throw (Literal.misplaced .afterProperty (.leaf t))
termination_by ts => (ts.length, 0)

end

/-! ## Leaves -/

/-- **The flags before a place can always be cut out**, and the first fault
among the flags is the same as without cutting. The flags that have been seen
are kept in reverse there, which makes no difference to whether one is among
them. -/
theorem flagFaultFrom_eq (seen rest : List Char) : flagFaultFrom (seen ++ rest)
    (charIndices (Text.byteLength seen) rest) = some (Literal.flagFault? seen.reverse rest) := by
  induction rest generalizing seen with
  | nil => rfl
  | cons c rest ih =>
    have hnext : Text.byteLength seen + c.utf8Size = Text.byteLength (seen ++ [c]) := by simp
    have hseen : seen.reverse.contains c = seen.contains c := by simp [List.contains_eq_mem]
    rw [charIndices, flagFaultFrom, Literal.flagFault?, slice_prefix, hnext, List.append_cons, ih,
      hseen, List.reverse_append]
    split
    · rfl
    · exact (apply_ite some _ _ _).symm

/-- **The first fault among the flags is found without failing.** A flag is
compared with those before it, which are cut out by their positions. -/
theorem flagFault?_eq (flags : List Char) : flagFault? flags = some (Literal.flagFault? [] flags) :=
  flagFaultFrom_eq [] flags

/-- **What stands behind a tree** is seen by two checks only: a name looks for a
parenthesis, and a minus for a numeral. To the reader of trees the next one has
the kind `next`, and `rest` are the tokens. -/
structure Behind (t : TokenTree) (next : Option TokenKind) (rest : List Token) : Prop where
  nameFault_eq : ∀ name,
    Literal.nameFault name next = Literal.nameFault name (rest.head?.map Token.kind)
  negated?_eq : ∀ v ∈ rest.head?, Literal.negated? t (.leaf v) = none

/-- A token that is a value by itself looks at what follows only to tell a name
from a call. -/
theorem ofToken_congr {next next' : Option TokenKind}
    (h : ∀ name, Literal.nameFault name next = Literal.nameFault name next') (t : Token) :
    Literal.ofToken t next = Literal.ofToken t next' := by
  simp only [Literal.ofToken, h]

/-- **A token that opens no bracket is read as its leaf**, and all that stands
behind it is left. A minus in front of a numeral is read with it, and `Behind`
keeps that case out. -/
theorem value_leaf {t : Token} {next : Option TokenKind} {rest : List Token} {depth : Nat}
    (ho : t.kind.isOpener = false) (h : Behind (.leaf t) next rest) :
    value depth (t :: rest) = done ((Literal.ofToken t next).map fun x => (x, rest, depth)) := by
  rw [value]
  split
  · next hk => simp [hk, TokenKind.isOpener] at ho
  · next hk => simp [hk, TokenKind.isOpener] at ho
  · next hk => simp [hk, TokenKind.isOpener] at ho
  · next hk =>
    have hneg : negative t.span.start rest = throw (.minus, t.span.start) := by
      unfold negative
      split
      · next text span ts =>
        have hnone := h.negated?_eq _ (Option.mem_def.mpr rfl)
        obtain ⟨kind, span⟩ := t
        cases hk
        cases hnone
      · rfl
    rw [hneg]
    simp only [Literal.ofToken, hk]
    rfl
  · next pattern flags closed hk =>
    rw [flagFault?_eq]
    simp only [Literal.ofToken, hk]
    cases Literal.flagFault? [] flags.toList <;> rfl
  · rw [ofToken_congr h.nameFault_eq]
    cases Literal.ofToken t (rest.head?.map Token.kind) <;> rfl

/-! ## What stands behind a tree -/

/-- Only a numeral is read together with a minus. -/
theorem negated?_leaf {v : Token} (hv : ∀ text, v.kind ≠ .number text) (t : TokenTree) :
    Literal.negated? t (.leaf v) = none := by
  unfold Literal.negated?
  split
  · next h =>
    cases h
    exact absurd rfl (hv _)
  · rfl

/-- A closing bracket is neither a parenthesis that a name looks for nor a
numeral, so behind a tree it is as good as the end. -/
theorem behind_of_closer {t : TokenTree} {c : Token} {b : Bracket} (hc : c.kind = .closer b)
    (rest : List Token) : Behind t none (c :: rest) where
  nameFault_eq name := by
    rw [List.head?_cons, Option.map_some, hc]
    rfl
  negated?_eq v hv := by
    cases hv
    exact negated?_leaf (by simp [hc]) t

/-- What the tokens of another tree show of themselves is the kind of its first
one. -/
theorem behind_of_spells {t u : TokenTree} {b : List Token} {trees : List TokenTree}
    (hb : Spells b (u :: trees)) (h : Literal.negated? t u = none) (rest : List Token) :
    Behind t (some u.head) (b ++ rest) where
  nameFault_eq name := by
    obtain ⟨v, vs, rfl, hkind, -, -⟩ := hb.exists_head
    rw [List.cons_append, List.head?_cons, Option.map_some, hkind]
  negated?_eq v hv := by
    cases hb with
    | leaf ho hc hb =>
      cases hv
      exact h
    | group ho hc hin hb =>
      cases hv
      exact negated?_leaf (by simp [ho]) t

/-- A minus and the numeral behind it are read together. -/
theorem value_negated {t u : TokenTree} {a b : List Token} {text : String} {offset : Nat}
    (ha : Spells a [t]) (hb : Spells b [u]) (h : Literal.negated? t u = some (text, offset))
    (depth : Nat) (rest : List Token) : value depth (a ++ (b ++ rest)) =
      done (((Literal.readNumeral text offset).map fun x => .number x.neg).map
        fun x => (x, rest, depth)) := by
  unfold Literal.negated? at h
  split at h
  · cases h
    cases ha with
    | leaf _ _ ha =>
      cases hb with
      | leaf _ _ hb =>
        cases ha.eq_nil
        cases hb.eq_nil
        rw [List.singleton_append, List.singleton_append, value]
        dsimp only [negative]
        cases Literal.readNumeral text _ <;> rfl
  · cases h

/-! ## The steps of the descent -/

/-- What closes no bracket is none of the closing brackets. -/
theorem ne_closer {k : TokenKind} {b : Bracket} (h : k.isCloser = false) : k ≠ .closer b := by
  rintro rfl
  cases h

/-- A bracket is entered unless it is one too many. There is no condition that
could fail, as the depth only grows. -/
theorem enter_bind {α : Type} (depth offset : Nat) (f : Nat → Reading Located α) :
    enter depth offset >>= f =
      if depth < Literal.maxDepth then f (depth + 1) else done (.error (.tooDeep, offset)) := by
  unfold enter
  rcases Nat.lt_or_ge depth Literal.maxDepth with h | h
  · rw [if_neg (by omega), if_pos h]
    rfl
  · rw [if_pos (by omega), if_neg (by omega)]
    rfl

/-- A bracket leaves the depth as it was. -/
theorem bracketed {α : Type} (body : Nat → Reading Located (α × List Token × Nat)) {depth : Nat}
    {r : Except Located α} {rest : List Token}
    (h : body (depth + 1) = done (r.map fun x => (x, rest, depth + 1))) (offset : Nat)
    (f : α → Literal) :
    (do
      let depth ← enter depth offset
      let (x, ts, depth) ← body depth
      return (f x, ts, ← leave depth)) =
      done ((if depth < Literal.maxDepth then r.map f else .error (.tooDeep, offset)).map
        fun x => (x, rest, depth)) := by
  rw [enter_bind]
  split
  · rw [h, done_map_bind]
    cases r with
    | error e => rfl
    | ok x =>
      rw [done_ok_bind]
      dsimp only
      rw [leave, sub_add_right]
      rfl
  · rfl

/-- A fault that names a tree names its first token, so that the token alone
gives the same fault. -/
theorem misplaced_leaf {u : Token} {t : TokenTree} (hkind : u.kind = t.head)
    (hstart : u.span.start = t.start) (expected : Literal.Expected) :
    Literal.misplaced expected (.leaf u) = Literal.misplaced expected t := by
  simp only [Literal.misplaced, TokenTree.head, TokenTree.start, hkind, hstart]

/-- The key that a tree stands for is decided by its first token as well. -/
theorem keyOf_leaf {u : Token} {t : TokenTree} (hkind : u.kind = t.head)
    (hstart : u.span.start = t.start) : Literal.keyOf (.leaf u) = Literal.keyOf t := by
  simp only [Literal.keyOf, TokenTree.head, TokenTree.start, hkind, hstart]

/-- An item, and then the items behind it. -/
theorem item_then {α β : Type} {more : Reading Located (List β × List Token × Nat)} {depth n m : Nat}
    {ys : Except Located (List β)} {rest : List Token} (hlt : n < m)
    (hmore : more = done (ys.map fun ys => (ys, rest, depth))) (r : Except Located α) (f : α → β) :
    (do
      let x ← done r
      if n < m then
        let (ys, rest, depth) ← more
        return (f x :: ys, rest, depth)
      else stuck) =
      done ((do
        let x ← r
        let ys ← ys
        .ok (f x :: ys)).map fun ys => (ys, rest, depth)) := by
  subst hmore
  cases r with
  | error e => rfl
  | ok x =>
    rw [done_ok_bind, if_pos hlt, done_map_bind]
    cases ys <;> rfl

/-- Behind an element a closing square bracket ends the array. -/
theorem moreElements_closer {depth : Nat} {c : Token} (hc : c.kind = .closer .square)
    (rest : List Token) : moreElements depth (c :: rest) =
      done ((Except.ok []).map fun xs => (xs, rest, depth)) := by
  rw [moreElements, if_neg (by simp [hc]), if_pos hc]
  rfl

/-- Behind a property a closing brace ends the object. -/
theorem moreProperties_closer {depth : Nat} {c : Token} (hc : c.kind = .closer .brace)
    (rest : List Token) : moreProperties depth (c :: rest) =
      done ((Except.ok []).map fun ps => (ps, rest, depth)) := by
  rw [moreProperties, if_neg (by simp [hc]), if_pos hc]
  rfl

theorem value_closer {depth : Nat} {c : Token} {b : Bracket} (hc : c.kind = .closer b)
    (rest : List Token) :
    value depth (c :: rest) = done (.error (.unexpected .value (.closer b), c.span.start)) := by
  rw [value, hc]
  simp only [Literal.ofToken, hc]
  rfl

theorem expectColon_closer {c : Token} {b : Bracket} (hc : c.kind = .closer b) :
    expectColon (some c) = done (.error (.unexpected .colon (.closer b), c.span.start)) := by
  rw [expectColon, if_neg (by simp [hc])]
  simp only [Literal.misplaced, TokenTree.head, hc]
  rfl

/-- The colon of a property is looked for in the first token of the next
tree. -/
theorem expectColon_trees {t : TokenTree} {ts : List TokenTree} {b : List Token}
    (hb : Spells b (t :: ts)) (rest : List Token) : expectColon (b ++ rest).head? =
      done (if t.head = .colon then .ok () else .error (Literal.misplaced .colon t)) := by
  obtain ⟨u, us, rfl, hkind, hstart, -⟩ := hb.exists_head
  rw [List.cons_append, List.head?_cons, expectColon, hkind, misplaced_leaf hkind hstart]
  split <;> rfl

/-- The key of a property is its first token, be that a tree or an opening
bracket. -/
theorem properties_cons {depth : Nat} {k : TokenTree} {ts : List TokenTree} {a tail : List Token}
    (ha : Spells a (k :: ts)) {f : String → Except Located (List (String × Literal))}
    {m : List (String × Literal) → List (String × Literal) × List Token × Nat}
    (hf : ∀ u b, Spells b ts → ∀ key, (do
      expectColon (b ++ tail).head?
      let (x, rest, depth) ← value depth (b ++ tail).tail
      if rest.length < (u :: (b ++ tail)).length then
        let (ps, rest, depth) ← moreProperties depth rest
        return ((key, x) :: ps, rest, depth)
      else stuck) = done ((f key).map m)) :
    properties depth (a ++ tail) = done ((Literal.keyOf k >>= f).map m) := by
  cases ha with
  | @leaf u b _ _ hclose hb =>
    have hne : u.kind ≠ .closer .brace := ne_closer hclose
    rw [List.cons_append, properties, if_neg hne]
    exact done_bind_map (hf u b hb)
  | @group o c b _ _ children _ ho _ _ _ =>
    rw [List.cons_append, properties, if_neg (by simp [ho]),
      keyOf_leaf (t := .group b o.span.start children c.span.start) ho rfl]
    cases b <;> rfl

/-! ## Trees -/

mutual

/-- **The tokens of a tree are read as the tree**, whatever stands behind them.
The induction is on the tree, together with the readers of lists and of
properties, and what makes it go through is that the depth behind a tree is the
depth before it. -/
theorem value_tree (depth : Nat) (next : Option TokenKind) : ∀ (t : TokenTree) {a : List Token},
    Spells a [t] → ∀ {rest : List Token}, Behind t next rest →
      value depth (a ++ rest) = done ((Literal.ofTree depth next t).map fun x => (x, rest, depth))
  | .leaf t, a, ha, rest, h => by
    cases ha with
    | leaf ho hc ha =>
      cases ha.eq_nil
      rw [List.singleton_append, value_leaf ho h, Literal.ofTree]
  | .group .paren start children stop, a, ha, rest, h => by
    cases ha with
    | group ho hc hin ha =>
      cases ha.eq_nil
      rw [List.cons_append, value, ho, Literal.ofTree]
      rfl
  | .group .square start children stop, a, ha, rest, h => by
    cases ha with
    | group ho hc hin ha =>
      cases ha.eq_nil
      rw [List.cons_append, List.append_assoc, List.singleton_append, value, ho, Literal.ofTree]
      exact bracketed (fun depth => elements depth _)
        (elements_trees (depth + 1) hc rest children hin) _ .array
  | .group .brace start children stop, a, ha, rest, h => by
    cases ha with
    | group ho hc hin ha =>
      cases ha.eq_nil
      rw [List.cons_append, List.append_assoc, List.singleton_append, value, ho, Literal.ofTree]
      exact bracketed (fun depth => properties depth _)
        (properties_trees (depth + 1) hc rest children hin) _ fun ps => .object (Entries.ofList ps)

/-- The tokens inside brackets are read as the elements that their trees are. -/
theorem elements_trees (depth : Nat) {c : Token} (hc : c.kind = .closer .square)
    (rest : List Token) : ∀ (ts : List TokenTree) {a : List Token}, Spells a ts →
      elements depth (a ++ c :: rest) =
        done ((Literal.elements depth .afterElement ts).map fun xs => (xs, rest, depth))
  | [], a, ha => by
    cases ha
    rw [List.nil_append, elements, if_pos hc, Literal.elements]
    rfl
  | [t], a, ha => by
    obtain ⟨u, us, rfl, hkind, hstart, hcloser⟩ := ha.exists_head
    have hne : u.kind ≠ .closer .square := ne_closer hcloser
    have hlt : (c :: rest).length < (u :: (us ++ c :: rest)).length := by
      simp only [List.length_cons, List.length_append]
      omega
    rw [List.cons_append, elements, if_neg hne, hkind, hstart, Literal.elements]
    split
    · rfl
    · rw [← List.cons_append, value_tree depth none t ha (behind_of_closer hc rest), done_map_bind]
      exact item_then hlt (moreElements_closer hc rest) _ id
  | t :: u :: more, a, h => by
    obtain ⟨a, b, rfl, ha, hb⟩ := h.exists_cons
    obtain ⟨v, vs, rfl, hkind, hstart, hcloser⟩ := ha.exists_head
    have hne : v.kind ≠ .closer .square := ne_closer hcloser
    have hlt : (b ++ c :: rest).length < (v :: (vs ++ (b ++ c :: rest))).length := by
      simp only [List.length_cons, List.length_append]
      omega
    rw [List.append_assoc, List.cons_append, elements, if_neg hne, hkind, hstart, Literal.elements]
    split
    · rfl
    split
    · -- a minus takes the tree behind it with it
      next text offset hneg =>
      obtain ⟨b, b', rfl, hb, hb'⟩ := hb.exists_cons
      rw [← List.cons_append, List.append_assoc, value_negated ha hb hneg, done_map_bind,
        done_map_bind]
      refine item_then ?_ (moreElements_trees depth hc rest more hb') _ fun x : Double => .number x.neg
      simp; omega
    · next hneg =>
      rw [← List.cons_append, value_tree depth _ t ha (behind_of_spells hb hneg _), done_map_bind]
      exact item_then hlt (moreElements_trees depth hc rest (u :: more) hb) _ id

/-- The tokens behind an element are read as the elements that follow, where a
comma separates them. -/
theorem moreElements_trees (depth : Nat) {c : Token} (hc : c.kind = .closer .square)
    (rest : List Token) : ∀ (ts : List TokenTree) {a : List Token}, Spells a ts →
      moreElements depth (a ++ c :: rest) =
        done ((Literal.moreElements depth .afterElement ts).map fun xs => (xs, rest, depth))
  | [], a, ha => by
    cases ha
    rw [List.nil_append, moreElements_closer hc, Literal.moreElements]
  | t :: ts, a, ha => by
    cases ha with
    | @leaf u us _ ho hclose ha =>
      have hne : u.kind ≠ .closer .square := ne_closer hclose
      rw [List.cons_append, moreElements, if_neg hne, Literal.moreElements, TokenTree.head]
      split
      · exact elements_trees depth hc rest ts ha
      · rfl
    | @group o c' b _ _ children _ ho _ _ _ =>
      rw [List.cons_append, moreElements, ho, if_neg (by simp), if_neg (by simp), Literal.moreElements,
        TokenTree.head, if_neg (by simp),
        misplaced_leaf (t := .group b o.span.start children c'.span.start) ho rfl]
      rfl

/-- The tokens inside braces are read as the properties that their trees are. -/
theorem properties_trees (depth : Nat) {c : Token} (hc : c.kind = .closer .brace)
    (rest : List Token) : ∀ (ts : List TokenTree) {a : List Token}, Spells a ts →
      properties depth (a ++ c :: rest) =
        done ((Literal.properties depth c.span.start ts).map fun ps => (ps, rest, depth))
  | [], a, ha => by
    cases ha
    rw [List.nil_append, properties, if_pos hc, Literal.properties]
    rfl
  | [k], a, ha => by
    -- what comes next in place of the colon is the brace itself, and so it is for the value below
    rw [Literal.properties]
    refine properties_cons ha fun u b hb key => ?_
    cases hb.eq_nil
    rw [List.nil_append, List.head?_cons, expectColon_closer hc]
    rfl
  | [k, u], a, ha => by
    rw [Literal.properties]
    refine properties_cons ha fun w b hb key => ?_
    rw [expectColon_trees hb]
    split
    · next hcolon =>
      obtain ⟨v, b, rfl, hu⟩ := hb.exists_tail (by rw [hcolon]; rfl)
      cases hu.eq_nil
      rw [done_ok_bind, List.cons_append, List.tail_cons, List.nil_append, value_closer hc]
      rfl
    · rfl
  | [k, u, t], a, ha => by
    rw [Literal.properties]
    refine properties_cons ha fun w b hb key => ?_
    rw [expectColon_trees hb]
    split
    · next hcolon =>
      obtain ⟨v, b, rfl, ht⟩ := hb.exists_tail (by rw [hcolon]; rfl)
      have hlt : (c :: rest).length < (w :: (v :: b ++ c :: rest)).length := by simp; omega
      rw [done_ok_bind, List.cons_append, List.tail_cons,
        value_tree depth none t ht (behind_of_closer hc rest), done_map_bind]
      exact item_then hlt (moreProperties_closer hc rest) _ fun x => (key, x)
    · rfl
  | k :: u :: t :: t' :: more, a, ha => by
    rw [Literal.properties]
    refine properties_cons ha fun w b hb key => ?_
    rw [expectColon_trees hb]
    split
    · next hcolon =>
      obtain ⟨v, b, rfl, htail⟩ := hb.exists_tail (by rw [hcolon]; rfl)
      obtain ⟨a, b, rfl, ht, hmore⟩ := htail.exists_cons
      rw [done_ok_bind, List.cons_append, List.tail_cons, List.append_assoc]
      split
      · next text offset hneg =>
        obtain ⟨b, b', rfl, ht', hmore⟩ := hmore.exists_cons
        rw [List.append_assoc, value_negated ht ht' hneg, done_map_bind, done_map_bind]
        refine item_then ?_ (moreProperties_trees depth hc rest more hmore) _ fun x : Double =>
          (key, .number x.neg)
        simp; omega
      · next hneg =>
        rw [value_tree depth _ t ht (behind_of_spells hmore hneg _), done_map_bind]
        refine item_then ?_ (moreProperties_trees depth hc rest (t' :: more) hmore) _ fun x => (key, x)
        simp; omega
    · rfl

/-- The tokens behind a property are read as the properties that follow. -/
theorem moreProperties_trees (depth : Nat) {c : Token} (hc : c.kind = .closer .brace)
    (rest : List Token) : ∀ (ts : List TokenTree) {a : List Token}, Spells a ts →
      moreProperties depth (a ++ c :: rest) =
        done ((Literal.moreProperties depth c.span.start ts).map fun ps => (ps, rest, depth))
  | [], a, ha => by
    cases ha
    rw [List.nil_append, moreProperties_closer hc, Literal.moreProperties]
  | t :: ts, a, ha => by
    cases ha with
    | @leaf u us _ ho hclose ha =>
      have hne : u.kind ≠ .closer .brace := ne_closer hclose
      rw [List.cons_append, moreProperties, if_neg hne, Literal.moreProperties, TokenTree.head]
      split
      · exact properties_trees depth hc rest ts ha
      · rfl
    | @group o c' b _ _ children _ ho _ _ _ =>
      rw [List.cons_append, moreProperties, ho, if_neg (by simp), if_neg (by simp), Literal.moreProperties,
        TokenTree.head, if_neg (by simp),
        misplaced_leaf (t := .group b o.span.start children c'.span.start) ho rfl]
      rfl

end

end Checked

end QueryShell
