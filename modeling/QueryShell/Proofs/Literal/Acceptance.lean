import QueryShell.Proofs.Literal.Grammar
import QueryShell.Proofs.Outcome
import QueryShell.Proofs.Token.Scan

/-!
# Which argument texts are accepted

Reading arguments takes two steps. The tokens are folded along their brackets,
and the trees that come out are read by recursion. Neither step follows the
grammar of `DerivesList`: the fold looks at brackets and at commas outside of
them only, and the recursion sees a minus and its numeral as two trees. What
connects the three is `TokenTree.kinds`, the tokens that a tree was folded from.

* `derivesList_of_elements`: what is read from trees derives from their tokens.
* `DerivesList.exists_trees`: tokens that derive a list fold into trees that
  read as the list.

The two together are `parseListAt_eq_ok_iff`, and
`parseList_eq_ok_iff_derivesList` says what it means for a text.
-/

namespace QueryShell

namespace TokenTree

mutual

/-- The tokens that a tree was folded from. -/
def kinds : TokenTree → List TokenKind
  | leaf t => [t.kind]
  | group b _ children _ => .opener b :: (listKinds children ++ [.closer b])

/-- The tokens that some trees were folded from. -/
def listKinds : List TokenTree → List TokenKind
  | [] => []
  | t :: ts => kinds t ++ listKinds ts

end

@[simp] theorem listKinds_nil : listKinds [] = [] := by
  rw [listKinds]

/-- The tokens of trees are those of the first, and then those of the others. -/
@[simp] theorem listKinds_cons (t : TokenTree) (ts : List TokenTree) :
    listKinds (t :: ts) = kinds t ++ listKinds ts := by
  rw [listKinds]

@[simp] theorem kinds_leaf (t : Token) : kinds (leaf t) = [t.kind] := by
  rw [kinds]

@[simp] theorem kinds_group (b : Bracket) (start stop : Nat) (children : List TokenTree) :
    kinds (group b start children stop) = .opener b :: (listKinds children ++ [.closer b]) := by
  rw [kinds]

@[simp] theorem listKinds_append (ts us : List TokenTree) :
    listKinds (ts ++ us) = listKinds ts ++ listKinds us := by
  induction ts with
  | nil => simp
  | cons t ts ih => simp [ih]

/-! ## Folding loses no token -/

/-- The tokens folded so far: those before each open bracket, the bracket, and
those inside the innermost one. -/
def pending : List Frame → List TokenTree → List TokenKind
  | [], before => listKinds before.reverse
  | f :: stack, before => pending stack f.before ++ .opener f.bracket :: listKinds before.reverse

theorem pending_cons (stack : List Frame) (t : TokenTree) (before : List TokenTree) :
    pending stack (t :: before) = pending stack before ++ kinds t := by
  cases stack <;> simp [pending]

/-- **Folding loses no token**: the trees have the tokens that were waiting and
those that were folded, in their order. -/
theorem listKinds_of_fold {stack : List Frame} {before : List TokenTree} {ts : List Token}
    {trees : List TokenTree} (h : fold stack before ts = .ok trees) :
    listKinds trees = pending stack before ++ ts.map Token.kind := by
  fun_induction fold stack before ts with
  | case1 before =>
    cases h
    simp [pending]
  | case2 => cases h
  | case3 stack before t ts b hb ih => simp [ih h, pending, hb]
  | case4 => cases h
  | case5 before t ts f tail hb ih => simp [ih h, pending_cons, pending, hb]
  | case6 => cases h
  | case7 => cases h
  | case8 stack before t ts _ _ ih => simp [ih h, pending_cons]
  | case9 stack before t ts _ _ _ ih => simp [ih h, pending_cons]

/-- The end of the text is no part of the trees. -/
theorem filter_append_eof {ts : List Token} {e : Token} (he : e.kind = .eof)
    (hts : ∀ t ∈ ts, t.kind ≠ .eof) : (ts ++ [e]).filter (·.kind != .eof) = ts := by
  have hself : ts.filter (·.kind != .eof) = ts :=
    List.filter_eq_self.mpr fun t ht => by simpa using hts t ht
  simp [List.filter_append, hself, he]

/-- **Folding loses no token**, with no tree before it and no bracket open. Only
the end of the text is no part of the trees. -/
theorem listKinds_of_ofTokens {ts : List Token} {trees : List TokenTree}
    (h : ofTokens ts = .ok trees) :
    listKinds trees = (ts.filter (·.kind != .eof)).map Token.kind := by
  rw [listKinds_of_fold h]
  simp [pending]

/-- **The tokens fold into the trees** wherever they stand: behind any trees,
inside any open brackets, and before any other tokens. That it says so of all
stacks is what lets it be composed, token list by token list. -/
def FoldsTo (ts : List Token) (trees : List TokenTree) : Prop :=
  ∀ stack before rest, fold stack before (ts ++ rest) = fold stack (trees.reverse ++ before) rest

theorem foldsTo_nil : FoldsTo [] [] := fun _ _ _ => rfl

/-- Tokens that fold on their own fold one behind the other. -/
theorem FoldsTo.append {ts us : List Token} {trees trees' : List TokenTree}
    (h : FoldsTo ts trees) (h' : FoldsTo us trees') : FoldsTo (ts ++ us) (trees ++ trees') := by
  intro stack before rest
  rw [List.append_assoc, h, h', List.reverse_append, List.append_assoc]

/-- A token that is neither a bracket nor a comma is a tree of its own. -/
theorem foldsTo_leaf {t : Token} {k : TokenKind} (ht : t.kind = k) (ho : k.isOpener = false)
    (hc : k.isCloser = false) (hk : k ≠ .comma) : FoldsTo [t] [leaf t] := by
  subst ht
  intro stack before rest
  rw [List.singleton_append, fold]
  split
  · next b hb => simp [hb, TokenKind.isOpener] at ho
  · next b hb => simp [hb, TokenKind.isCloser] at hc
  · next hb => exact absurd hb hk
  · rfl

/-- Two matching brackets and what stands between them are one tree. -/
theorem FoldsTo.group {b : Bracket} {o c : Token} (ho : o.kind = .opener b)
    (hc : c.kind = .closer b) {ts : List Token} {trees : List TokenTree} (h : FoldsTo ts trees) :
    FoldsTo (o :: ts ++ [c]) [group b o.span.start trees c.span.start] := by
  intro stack before rest
  rw [List.append_assoc, List.cons_append, fold, ho]
  dsimp only
  rw [h, List.singleton_append, fold, hc]
  simp

/-- A comma is a tree of its own behind trees that do not end before a new
place. -/
theorem fold_comma {stack : List Frame} {before : List TokenTree} (h : atPlaceStart before = false)
    {t : Token} (ht : t.kind = .comma) (rest : List Token) :
    fold stack before (t :: rest) = fold stack (leaf t :: before) rest := by
  rw [fold, ht]
  simp [h]

end TokenTree

namespace Literal

open TokenTree

/-! ## What single tokens are read as -/

/-- A numeral is read exactly as the number that it is the numeral of. -/
theorem readNumeral_eq_ok {text : String} {offset : Nat} {x : Double} :
    readNumeral text offset = .ok x ↔ IsNumeralOf text x := by
  unfold readNumeral IsNumeralOf
  cases Double.ofNumeral? text.toList with
  | none => simp
  | some y =>
    cases hy : y.isFinite with
    | false =>
      simp only [hy, Bool.false_eq_true, if_false, reduceCtorEq, false_iff, Option.some.injEq]
      rintro ⟨rfl, hx⟩
      rw [hy] at hx
      cases hx
    | true =>
      simp only [hy, if_true, Except.ok.injEq, Option.some.injEq]
      exact ⟨fun h => ⟨h, h ▸ hy⟩, fun h => h.1⟩

/-- **There is no fault among flags** exactly if each is one of the flags and
none is there twice. The reader compares a flag with those before it; the
grammar speaks of the whole string. -/
theorem flagFault?_eq_none {seen cs : List Char} :
    flagFault? seen cs = none ↔ (∀ c ∈ cs, c ∈ regexFlags ∧ c ∉ seen) ∧ cs.Nodup := by
  induction cs generalizing seen with
  | nil => simp [flagFault?]
  | cons c cs ih =>
    unfold flagFault?
    by_cases hc : c ∈ regexFlags
    · by_cases hs : c ∈ seen
      · simp [hc, hs]
      · simp only [List.contains_eq_mem, hc, hs, decide_true, decide_false, Bool.not_true,
          Bool.false_eq_true, if_false, ih, List.mem_cons, not_or, List.nodup_cons,
          forall_eq_or_imp, not_false_eq_true, and_self, true_and]
        constructor
        · rintro ⟨h, hd⟩
          exact ⟨fun d hd' => ⟨(h d hd').1, (h d hd').2.2⟩, fun hm => (h c hm).2.1 rfl, hd⟩
        · rintro ⟨h, hm, hd⟩
          refine ⟨fun d hd' => ⟨(h d hd').1, ?_, (h d hd').2⟩, hd⟩
          rintro rfl
          exact hm hd'
    · simp [hc]

/-- There is no fault among all flags exactly if they are flags as the grammar
has them. -/
theorem flagFault?_nil_eq_none {flags : String} :
    flagFault? [] flags.toList = none ↔ AreFlags flags := by
  simp [flagFault?_eq_none, AreFlags]

/-- A grave accent is the only quote that is not plain. -/
theorem isPlainQuote_iff {quote : Char} (h : Lexeme.isQuote quote = true) :
    IsPlainQuote quote ↔ quote ≠ '\x60' := by
  simp only [Lexeme.isQuote, Bool.or_eq_true, beq_iff_eq] at h
  rcases h with (rfl | rfl) | rfl <;> simp [IsPlainQuote]

/-- No word but the three that are values is read as one. -/
theorem derivesValue_of_word {name : String} {span : Span} {next : Option TokenKind} {x : Literal}
    (h : ofToken ⟨.ident name, span⟩ next = .ok x) (n : Nat) : DerivesValue n [.ident name] x := by
  by_cases htrue : name = "true"
  · subst htrue
    cases h
    exact .true
  by_cases hfalse : name = "false"
  · subst hfalse
    cases h
    exact .false
  by_cases hnull : name = "null"
  · subst hnull
    cases h
    exact .null
  by_cases hnew : name = "new"
  · subst hnew
    cases h
  · simp [ofToken] at h

/-- What a token alone is read as derives from it. -/
theorem derivesValue_of_ofToken {t : Token} (ht : Token.IsScanned t.kind)
    {next : Option TokenKind} {x : Literal} (h : ofToken t next = .ok x) (n : Nat) :
    DerivesValue n [t.kind] x := by
  obtain ⟨kind, span⟩ := t
  cases kind with
  | string value quote closed =>
    change (if quote = '\x60' then .error _ else .ok (string value)) = Except.ok x at h
    split at h
    · cases h
    · next hq =>
      cases h
      exact .string ((isPlainQuote_iff ht).mpr hq)
  | number text =>
    obtain ⟨y, hy, rfl⟩ := map_eq_ok.mp (show (readNumeral text span.start).map number = .ok x from h)
    exact .number (readNumeral_eq_ok.mp hy)
  | regex pattern flags closed =>
    cases hf : flagFault? [] flags.toList with
    | some f => simp [ofToken, hf] at h
    | none =>
      obtain rfl : regex pattern flags = x := by simpa [ofToken, hf] using h
      exact .regex (flagFault?_nil_eq_none.mp hf)
  | ident name => exact derivesValue_of_word h n
  | _ => cases h

/-- The key that is read from a tree derives from its token. -/
theorem derivesKey_of_keyOf {t : TokenTree} (ht : ∀ k ∈ t.kinds, Token.IsScanned k) {key : String}
    (h : keyOf t = .ok key) : ∃ k, t.kinds = [k] ∧ DerivesKey k key := by
  cases t with
  | group b start children stop =>
    unfold keyOf head at h
    cases b <;> cases h
  | leaf t =>
    simp only [kinds_leaf, List.mem_singleton, forall_eq] at ht ⊢
    refine ⟨t.kind, rfl, ?_⟩
    unfold keyOf head at h
    dsimp only at h
    split at h
    · next name hk =>
      rw [hk]
      cases h
      exact .word _
    · next hk =>
      rw [hk]
      cases h
      exact .db
    · next value quote closed hk =>
      rw [hk] at ht ⊢
      split at h
      · cases h
      · next hq =>
        cases h
        exact .string ((isPlainQuote_iff ht).mpr hq)
    · next text hk =>
      rw [hk]
      cases hr : readNumeral text (leaf t).start with
      | error e => simp [hr, Except.map] at h
      | ok y =>
        simp only [hr, Except.map, Except.ok.injEq] at h
        rw [← h]
        exact .number (readNumeral_eq_ok.mp hr)
    · cases h
    · cases h

/-- A tree whose first token opens no bracket is a leaf. -/
theorem kinds_of_head_eq {t : TokenTree} {k : TokenKind} (h : t.head = k) (hk : ∀ b, k ≠ .opener b) :
    t.kinds = [k] := by
  cases t with
  | leaf t => rw [kinds_leaf, ← h]; rfl
  | group b start children stop => exact absurd h.symm (hk b)

/-- A minus and the numeral that is read together with it are two leaves. -/
theorem kinds_of_negated? {t u : TokenTree} {text : String} {offset : Nat}
    (h : negated? t u = some (text, offset)) :
    t.kinds = [.operator '-'] ∧ u.kinds = [.number text] := by
  unfold negated? at h
  split at h
  · cases h
    simp
  · cases h

/-! ## What is read from trees derives from their tokens -/

-- one statement for each reader: `moreElements` and `moreProperties` begin behind a literal, so theirs
-- take over the derivation of that literal and say what it becomes a part of
mutual

/-- **What is read from a tree derives from its tokens.** The recursion goes
with the readers: a tree, the elements and the properties in it, and each of the
latter behind a comma. The depth that is left to the grammar is what the reader
has not used. -/
theorem derivesValue_of_ofTree {depth n : Nat} (hn : depth + n = maxDepth)
    {next : Option TokenKind} {x : Literal} :
    ∀ t : TokenTree, (∀ k ∈ t.kinds, Token.IsScanned k) → ofTree depth next t = .ok x →
      DerivesValue n t.kinds x
  | .leaf t, ht, h => by
    rw [ofTree] at h
    simp only [kinds_leaf, List.mem_singleton, forall_eq] at ht ⊢
    exact derivesValue_of_ofToken ht h n
  | .group .paren start children stop, _, h => by
    rw [ofTree] at h
    cases h
  | .group .square start children stop, ht, h => by
    rw [ofTree] at h
    split at h
    · next hlt =>
      obtain ⟨xs, hxs, rfl⟩ := map_eq_ok.mp h
      obtain ⟨m, rfl⟩ : ∃ m, n = m + 1 := ⟨n - 1, by omega⟩
      rw [kinds_group]
      exact .array (derivesList_of_elements (by omega) children
        (fun k hk => ht k (by simp [hk])) hxs)
    · cases h
  | .group .brace start children stop, ht, h => by
    rw [ofTree] at h
    split at h
    · next hlt =>
      obtain ⟨ps, hps, rfl⟩ := map_eq_ok.mp h
      obtain ⟨m, rfl⟩ : ∃ m, n = m + 1 := ⟨n - 1, by omega⟩
      rw [kinds_group]
      exact .object (derivesProperties_of_properties (by omega) children
        (fun k hk => ht k (by simp [hk])) hps)
    · cases h

/-- What is read as elements derives as a list from the tokens. -/
theorem derivesList_of_elements {depth n : Nat} (hn : depth + n = maxDepth)
    {expected : Expected} {xs : List Literal} :
    ∀ ts : List TokenTree, (∀ k ∈ listKinds ts, Token.IsScanned k) →
      elements depth expected ts = .ok xs → DerivesList n (listKinds ts) xs
  | [], _, h => by
    rw [elements] at h
    cases h
    rw [listKinds_nil]
    exact .nil
  | [t], ht, h => by
    rw [elements] at h
    split at h
    · cases h
    · obtain ⟨x, hx, hxs⟩ := bind_eq_ok.mp h
      cases hxs
      simp only [listKinds_cons, listKinds_nil, List.append_nil] at ht ⊢
      exact .single (derivesValue_of_ofTree hn t ht hx)
  | t :: u :: rest, ht, h => by
    rw [elements] at h
    split at h
    · cases h
    · split at h
      -- the minus and its numeral are two trees and one literal
      · next text offset hneg =>
        obtain ⟨x, hx, h⟩ := bind_eq_ok.mp h
        obtain ⟨ys, hys, hxs⟩ := bind_eq_ok.mp h
        cases hxs
        obtain ⟨hkt, hku⟩ := kinds_of_negated? hneg
        have hv : DerivesValue n [.operator '-', .number text] (number x.neg) :=
          .negated (readNumeral_eq_ok.mp hx)
        simp only [listKinds_cons, hkt, hku] at ht ⊢
        exact derivesList_of_moreElements hn rest (fun k hk => ht k (by simp [hk])) hv hys
      · obtain ⟨x, hx, h⟩ := bind_eq_ok.mp h
        obtain ⟨ys, hys, hxs⟩ := bind_eq_ok.mp h
        cases hxs
        rw [listKinds_cons] at ht ⊢
        exact derivesList_of_moreElements hn (u :: rest)
          (fun k hk => ht k (List.mem_append_right _ hk))
          (derivesValue_of_ofTree hn t (fun k hk => ht k (List.mem_append_left _ hk)) hx) hys

/-- A value, and what is read as elements behind it, derives as a list. -/
theorem derivesList_of_moreElements {depth n : Nat} (hn : depth + n = maxDepth)
    {expected : Expected} {xs : List Literal} {ks : List TokenKind} {x : Literal} :
    ∀ ts : List TokenTree, (∀ k ∈ listKinds ts, Token.IsScanned k) → DerivesValue n ks x →
      moreElements depth expected ts = .ok xs → DerivesList n (ks ++ listKinds ts) (x :: xs)
  | [], _, hx, h => by
    rw [moreElements] at h
    cases h
    rw [listKinds_nil, List.append_nil]
    exact .single hx
  | t :: rest, ht, hx, h => by
    rw [moreElements] at h
    split at h
    · next hc =>
      have hk : t.kinds = [.comma] := kinds_of_head_eq hc (by simp)
      simp only [listKinds_cons, hk, List.singleton_append] at ht ⊢
      exact .cons hx (derivesList_of_elements hn rest
        (fun k hk => ht k (List.mem_cons_of_mem _ hk)) h)
    · cases h

/-- What is read as properties derives as properties from the tokens. -/
theorem derivesProperties_of_properties {depth n stop : Nat} (hn : depth + n = maxDepth)
    {ps : List (String × Literal)} :
    ∀ ts : List TokenTree, (∀ k ∈ listKinds ts, Token.IsScanned k) →
      properties depth stop ts = .ok ps → DerivesProperties n (listKinds ts) ps
  | [], _, h => by
    rw [properties] at h
    cases h
    rw [listKinds_nil]
    exact .nil
  | [k], _, h => by
    rw [properties] at h
    obtain ⟨_, _, h⟩ := bind_eq_ok.mp h
    cases h
  | [k, c], _, h => by
    rw [properties] at h
    obtain ⟨_, _, h⟩ := bind_eq_ok.mp h
    split at h <;> cases h
  | [k, c, t], ht, h => by
    rw [properties] at h
    obtain ⟨key, hkey, h⟩ := bind_eq_ok.mp h
    split at h
    · next hc =>
      obtain ⟨x, hx, hps⟩ := bind_eq_ok.mp h
      cases hps
      simp only [listKinds_cons, listKinds_nil, kinds_of_head_eq hc (by simp), List.append_nil,
        List.mem_append] at ht ⊢
      obtain ⟨kind, hk, hd⟩ := derivesKey_of_keyOf (fun k hk => ht k (.inl hk)) hkey
      rw [hk]
      exact .single hd (derivesValue_of_ofTree hn t (fun k hk => ht k (.inr (.inr hk))) hx)
    · cases h
  | k :: c :: t :: u :: rest, ht, h => by
    rw [properties] at h
    obtain ⟨key, hkey, h⟩ := bind_eq_ok.mp h
    split at h
    · next hc =>
      rw [listKinds_cons, listKinds_cons, kinds_of_head_eq hc (by simp)] at ht ⊢
      simp only [List.mem_append] at ht
      obtain ⟨kind, hk, hd⟩ := derivesKey_of_keyOf (fun k hk => ht k (.inl hk)) hkey
      rw [hk]
      split at h
      · next text offset hneg =>
        obtain ⟨x, hx, h⟩ := bind_eq_ok.mp h
        obtain ⟨qs, hqs, hps⟩ := bind_eq_ok.mp h
        cases hps
        obtain ⟨hkt, hku⟩ := kinds_of_negated? hneg
        have hv : DerivesValue n [.operator '-', .number text] (number x.neg) :=
          .negated (readNumeral_eq_ok.mp hx)
        simp only [listKinds_cons, hkt, hku] at ht ⊢
        exact derivesProperties_of_moreProperties hn rest
          (fun k hk => ht k (.inr (.inr (by simp [hk])))) hd hv hqs
      · obtain ⟨x, hx, h⟩ := bind_eq_ok.mp h
        obtain ⟨qs, hqs, hps⟩ := bind_eq_ok.mp h
        cases hps
        rw [listKinds_cons] at ht ⊢
        simp only [List.mem_append] at ht
        exact derivesProperties_of_moreProperties hn (u :: rest)
          (fun k hk => ht k (.inr (.inr (.inr hk)))) hd
          (derivesValue_of_ofTree hn t (fun k hk => ht k (.inr (.inr (.inl hk)))) hx) hqs
    · cases h

/-- A property, and what is read as properties behind it, derives as
properties. -/
theorem derivesProperties_of_moreProperties {depth n stop : Nat} (hn : depth + n = maxDepth)
    {ps : List (String × Literal)} {k : TokenKind} {key : String} {ks : List TokenKind}
    {x : Literal} :
    ∀ ts : List TokenTree, (∀ k ∈ listKinds ts, Token.IsScanned k) → DerivesKey k key →
      DerivesValue n ks x → moreProperties depth stop ts = .ok ps →
      DerivesProperties n (k :: .colon :: (ks ++ listKinds ts)) ((key, x) :: ps)
  | [], _, hk, hx, h => by
    rw [moreProperties] at h
    cases h
    rw [listKinds_nil, List.append_nil]
    exact .single hk hx
  | t :: rest, ht, hkey, hx, h => by
    rw [moreProperties] at h
    split at h
    · next hc =>
      have hk : t.kinds = [.comma] := kinds_of_head_eq hc (by simp)
      simp only [listKinds_cons, hk, List.singleton_append] at ht ⊢
      exact .cons hkey hx (derivesProperties_of_properties hn rest
        (fun k hk => ht k (List.mem_cons_of_mem _ hk)) h)
    · cases h

end

/-! ## What derives from the grammar is read -/

theorem ofTree_leaf {t : Token} {x : Literal} (h : ∀ next, ofToken t next = .ok x) (depth : Nat)
    (next : Option TokenKind) : ofTree depth next (.leaf t) = .ok x := by
  rw [ofTree, h]

/-- **The trees read as a literal**: a list or an object that goes on with them
goes on with the literal. One literal is one tree, but for a negative number,
which is the tree of the minus and that of the numeral. -/
structure ReadsAs (depth : Nat) (trees : List TokenTree) (x : Literal) : Prop where
  elements_append : ∀ expected rest,
    elements depth expected (trees ++ rest) =
      (moreElements depth expected rest).map (x :: ·)
  properties_append : ∀ stop k c key rest, keyOf k = .ok key → c.head = .colon →
    properties depth stop (k :: c :: (trees ++ rest)) =
      (moreProperties depth stop rest).map ((key, x) :: ·)

/-- A tree that no token after it changes reads as what it stands for. -/
theorem readsAs_tree {depth : Nat} {t : TokenTree} {x : Literal}
    (h : ∀ next, ofTree depth next t = .ok x) : ReadsAs depth [t] x := by
  -- the readers look at a tree twice before they read it: for a comma and for a minus
  have hcomma : t.head ≠ .comma := by
    intro hc
    cases t with
    | leaf t =>
      have ht := h none
      rw [ofTree, ofToken, show t.kind = .comma from hc] at ht
      cases ht
    | group b start children stop => cases hc
  have hneg : ∀ u, negated? t u = none := by
    intro u
    cases hu : negated? t u with
    | none => rfl
    | some p =>
      have hk := (kinds_of_negated? hu).1
      cases t with
      | leaf t =>
        rw [kinds_leaf, List.cons.injEq] at hk
        have ht := h none
        rw [ofTree, ofToken, hk.1] at ht
        cases ht
      | group b start children stop =>
        rw [kinds_group] at hk
        cases hk
  constructor
  · intro expected rest
    cases rest with
    | nil =>
      rw [List.append_nil, elements, if_neg hcomma, h, moreElements]
      rfl
    | cons u rest =>
      rw [List.singleton_append, elements, if_neg hcomma, hneg]
      dsimp only
      rw [h]
      cases moreElements depth expected (u :: rest) <;> rfl
  · intro stop k c key rest hk hc
    cases rest with
    | nil =>
      rw [List.append_nil, properties, hk, moreProperties]
      simp [bind, Except.bind, hc, h, Except.map]
    | cons u rest =>
      rw [List.singleton_append, properties, hk]
      simp only [bind, Except.bind, hc, if_true, hneg, h]
      cases moreProperties depth stop (u :: rest) <;> rfl

/-- A minus and a numeral read as the number with the other sign. -/
theorem readsAs_negated {depth : Nat} {t u : Token} {text : String} {x : Double}
    (ht : t.kind = .operator '-') (hu : u.kind = .number text) (h : IsNumeralOf text x) :
    ReadsAs depth [.leaf t, .leaf u] (number x.neg) := by
  obtain ⟨kt, st⟩ := t
  obtain ⟨ku, su⟩ := u
  subst ht hu
  have hneg : negated? (.leaf ⟨.operator '-', st⟩) (.leaf ⟨.number text, su⟩) =
      some (text, su.start) := rfl
  have hread : readNumeral text su.start = .ok x := readNumeral_eq_ok.mpr h
  constructor
  · intro expected rest
    rw [List.cons_append, List.singleton_append, elements, if_neg (by simp [head]), hneg]
    simp only [bind, Except.bind, hread]
    cases moreElements depth expected rest <;> rfl
  · intro stop k c key rest hk hc
    rw [List.cons_append, List.singleton_append, properties, hk]
    simp only [bind, Except.bind, hc, if_true, hneg, hread]
    cases moreProperties depth stop rest <;> rfl

/-- A token that is a key is read as the key, and the fold leaves it alone. -/
theorem DerivesKey.exists_tree {t : Token} {key : String} (h : DerivesKey t.kind key) :
    FoldsTo [t] [.leaf t] ∧ keyOf (.leaf t) = .ok key := by
  obtain ⟨kind, span⟩ := t
  dsimp only at h
  cases h with
  | word name => exact ⟨foldsTo_leaf rfl rfl rfl (by simp), rfl⟩
  | db => exact ⟨foldsTo_leaf rfl rfl rfl (by simp), rfl⟩
  | string hq =>
    refine ⟨foldsTo_leaf rfl rfl rfl (by simp), ?_⟩
    rcases hq with rfl | rfl <;> rfl
  | number hx =>
    refine ⟨foldsTo_leaf rfl rfl rfl (by simp), ?_⟩
    unfold keyOf head
    dsimp only
    rw [readNumeral_eq_ok.mpr hx]
    rfl

/-- A token that a literal derives from alone is read as the literal, whatever
stands behind it. -/
theorem ofToken_of_derivesValue {n : Nat} {t : Token} {x : Literal}
    (h : DerivesValue n [t.kind] x) :
    (∀ next, ofToken t next = .ok x) ∧
      t.kind.isOpener = Bool.false ∧ t.kind.isCloser = Bool.false ∧ t.kind ≠ .comma := by
  obtain ⟨kind, span⟩ := t
  generalize hks : [(Token.mk kind span).kind] = ks at h
  cases h with
  | true | false | null =>
    cases hks
    exact ⟨fun _ => rfl, rfl, rfl, by simp⟩
  | string hq =>
    cases hks
    refine ⟨fun _ => ?_, rfl, rfl, by simp⟩
    rcases hq with rfl | rfl <;> rfl
  | number hx =>
    cases hks
    refine ⟨fun _ => ?_, rfl, rfl, by simp⟩
    show (readNumeral _ span.start).map number = _
    rw [readNumeral_eq_ok.mpr hx]
    rfl
  | regex hf =>
    cases hks
    refine ⟨fun _ => ?_, rfl, rfl, by simp⟩
    dsimp only [ofToken]
    rw [flagFault?_nil_eq_none.mpr hf]
  | negated | array | object => simp at hks

/-- A token that a literal derives from alone folds into a tree that reads as
the literal. -/
theorem exists_trees_of_token {n : Nat} {k : TokenKind} {x : Literal} (h : DerivesValue n [k] x)
    {ts : List Token} (hts : ts.map Token.kind = [k]) :
    ∃ trees, FoldsTo ts trees ∧ (∀ before, atPlaceStart (trees.reverse ++ before) = Bool.false) ∧
      ∀ depth, depth + n = maxDepth → ReadsAs depth trees x := by
  obtain ⟨t, rfl, rfl⟩ := List.map_eq_singleton_iff.mp hts
  obtain ⟨hread, ho, hc, hk⟩ := ofToken_of_derivesValue h
  refine ⟨[.leaf t], foldsTo_leaf rfl ho hc hk, fun before => ?_, fun depth _ => ?_⟩
  · simpa [atPlaceStart] using hk
  · exact readsAs_tree (ofTree_leaf hread depth)

/-- Tokens with the kinds of a group are two brackets with tokens between
them. -/
theorem exists_of_map_kind_eq_group {b : Bracket} {ks : List TokenKind} {ts : List Token}
    (h : ts.map Token.kind = .opener b :: ks ++ [.closer b]) :
    ∃ o us c, ts = o :: us ++ [c] ∧ o.kind = .opener b ∧ us.map Token.kind = ks ∧
      c.kind = .closer b := by
  obtain ⟨os, cs, rfl, hos, hcs⟩ := List.map_eq_append_iff.mp h
  obtain ⟨o, us, rfl, ho, hus⟩ := List.map_eq_cons_iff.mp hos
  obtain ⟨c, rfl, hc⟩ := List.map_eq_singleton_iff.mp hcs
  exact ⟨o, us, c, rfl, ho, hus, hc⟩

-- a derivation says nothing about what stands around its tokens, while the fold and the readers look
-- at the tree before and the tree behind, so each statement holds in every surrounding
mutual

/-- Tokens that derive a literal fold into trees that read as it. -/
theorem DerivesValue.exists_trees {n : Nat} {ks : List TokenKind} {x : Literal} :
    DerivesValue n ks x → ∀ ts : List Token, ts.map Token.kind = ks →
      ∃ trees, FoldsTo ts trees ∧ (∀ before, atPlaceStart (trees.reverse ++ before) = false) ∧
        ∀ depth, depth + n = maxDepth → ReadsAs depth trees x
  | .true, _, hts => exists_trees_of_token .true hts
  | .false, _, hts => exists_trees_of_token .false hts
  | .null, _, hts => exists_trees_of_token .null hts
  | .string hq, _, hts => exists_trees_of_token (.string hq) hts
  | .number h, _, hts => exists_trees_of_token (.number h) hts
  | .regex h, _, hts => exists_trees_of_token (.regex h) hts
  | .negated h, ts, hts => by
    obtain ⟨t, us, rfl, ht, hus⟩ := List.map_eq_cons_iff.mp hts
    obtain ⟨u, rfl, hu⟩ := List.map_eq_singleton_iff.mp hus
    refine ⟨[.leaf t, .leaf u], ?_, fun before => ?_, fun depth _ => readsAs_negated ht hu h⟩
    · exact (foldsTo_leaf ht rfl rfl (by simp)).append (foldsTo_leaf hu rfl rfl (by simp))
    · simp [atPlaceStart, hu]
  | .array h, ts, hts => by
    obtain ⟨o, us, c, rfl, ho, hus, hc⟩ := exists_of_map_kind_eq_group hts
    obtain ⟨trees, hf, hr⟩ := h.exists_trees us hus
    refine ⟨_, hf.group ho hc, fun before => rfl, fun depth hn => readsAs_tree fun next => ?_⟩
    rw [ofTree, if_pos (by omega), hr (depth + 1) (by omega)]
    rfl
  | .object h, ts, hts => by
    obtain ⟨o, us, c, rfl, ho, hus, hc⟩ := exists_of_map_kind_eq_group hts
    obtain ⟨trees, hf, hr⟩ := h.exists_trees us hus
    refine ⟨_, hf.group ho hc, fun before => rfl, fun depth hn => readsAs_tree fun next => ?_⟩
    rw [ofTree, if_pos (by omega), hr (depth + 1) (by omega)]
    rfl

/-- **Tokens that derive a list fold into trees that read as the list.** This is
the direction from the grammar to the reader, by recursion on the derivation. -/
theorem DerivesList.exists_trees {n : Nat} {ks : List TokenKind} {xs : List Literal} :
    DerivesList n ks xs → ∀ ts : List Token, ts.map Token.kind = ks →
      ∃ trees, FoldsTo ts trees ∧ ∀ depth, depth + n = maxDepth →
        ∀ expected, elements depth expected trees = .ok xs
  | .nil, ts, hts => by
    rw [List.map_eq_nil_iff.mp hts]
    exact ⟨[], foldsTo_nil, fun depth _ expected => by rw [elements]⟩
  | .single h, ts, hts => by
    obtain ⟨trees, hf, -, hr⟩ := h.exists_trees ts hts
    refine ⟨trees, hf, fun depth hn expected => ?_⟩
    have happ := (hr depth hn).elements_append expected []
    rwa [List.append_nil, moreElements] at happ
  | .cons h hs, ts, hts => by
    obtain ⟨us, vs, rfl, hus, hvs⟩ := List.map_eq_append_iff.mp hts
    obtain ⟨c, vs, rfl, hc, hvs⟩ := List.map_eq_cons_iff.mp hvs
    obtain ⟨trees, hf, hp, hr⟩ := h.exists_trees us hus
    obtain ⟨trees', hf', hr'⟩ := hs.exists_trees vs hvs
    refine ⟨trees ++ .leaf c :: trees', fun stack before rest => ?_, fun depth hn expected => ?_⟩
    -- the comma is kept, because the trees of a literal do not end before a new place
    · rw [List.append_assoc, hf, List.cons_append, fold_comma (hp before) hc, hf']
      simp
    · rw [(hr depth hn).elements_append, moreElements, if_pos (by exact hc), hr' depth hn]
      rfl

/-- Tokens that derive properties fold into trees that read as them. -/
theorem DerivesProperties.exists_trees {n : Nat} {ks : List TokenKind}
    {ps : List (String × Literal)} :
    DerivesProperties n ks ps → ∀ ts : List Token, ts.map Token.kind = ks →
      ∃ trees, FoldsTo ts trees ∧ ∀ depth, depth + n = maxDepth →
        ∀ stop, properties depth stop trees = .ok ps
  | .nil, ts, hts => by
    rw [List.map_eq_nil_iff.mp hts]
    exact ⟨[], foldsTo_nil, fun depth _ stop => by rw [properties]⟩
  | .single hk h, ts, hts => by
    obtain ⟨k, us, rfl, hkk, hus⟩ := List.map_eq_cons_iff.mp hts
    obtain ⟨c, us, rfl, hc, hus⟩ := List.map_eq_cons_iff.mp hus
    obtain ⟨hfk, hkey⟩ := DerivesKey.exists_tree (hkk ▸ hk)
    obtain ⟨trees, hf, -, hr⟩ := h.exists_trees us hus
    refine ⟨.leaf k :: .leaf c :: trees, ?_, fun depth hn stop => ?_⟩
    · exact hfk.append ((foldsTo_leaf hc rfl rfl (by simp)).append hf)
    · have happ := (hr depth hn).properties_append stop (.leaf k) (.leaf c) _ [] hkey hc
      rwa [List.append_nil, moreProperties] at happ
  | .cons hk h hs, ts, hts => by
    obtain ⟨us, vs, rfl, hus, hvs⟩ := List.map_eq_append_iff.mp hts
    obtain ⟨k, us, rfl, hkk, hus⟩ := List.map_eq_cons_iff.mp hus
    obtain ⟨c, us, rfl, hc, hus⟩ := List.map_eq_cons_iff.mp hus
    obtain ⟨d, vs, rfl, hd, hvs⟩ := List.map_eq_cons_iff.mp hvs
    obtain ⟨hfk, hkey⟩ := DerivesKey.exists_tree (hkk ▸ hk)
    obtain ⟨trees, hf, hp, hr⟩ := h.exists_trees us hus
    obtain ⟨trees', hf', hr'⟩ := hs.exists_trees vs hvs
    have hfc : FoldsTo [c] [.leaf c] := foldsTo_leaf hc rfl rfl (by simp)
    refine ⟨.leaf k :: .leaf c :: (trees ++ .leaf d :: trees'), fun stack before rest => ?_,
      fun depth hn stop => ?_⟩
    · have hkct : FoldsTo (k :: c :: us) (.leaf k :: .leaf c :: trees) :=
        hfk.append (hfc.append hf)
      have hplace : atPlaceStart ((.leaf k :: .leaf c :: trees).reverse ++ before) = Bool.false := by
        simpa using hp (.leaf c :: .leaf k :: before)
      rw [List.append_assoc, hkct, List.cons_append, fold_comma hplace hd, hf']
      simp
    · rw [(hr depth hn).properties_append stop (.leaf k) (.leaf c) _ _ hkey hc, moreProperties,
        if_pos (by exact hd), hr' depth hn]
      rfl

end

/-! ## Accepted texts -/

/-- **Reading tokens is deriving**: tokens with the end of the text behind them
are read as the literals that derive from them, as long as none of them is left
unclosed. -/
theorem listOfTokens_eq_ok_iff {ts : List Token} {e : Token} (he : e.kind = .eof)
    (hts : ∀ t ∈ ts, t.kind ≠ .eof ∧ Token.IsScanned t.kind) {xs : List Literal} :
    listOfTokens (ts ++ [e]) = .ok xs ↔
      (∀ t ∈ ts, t.isUnclosed = Bool.false) ∧ DerivesList maxDepth (ts.map Token.kind) xs := by
  have hfilter := filter_append_eof he fun t ht => (hts t ht).1
  have hunclosed : e.isUnclosed = Bool.false := by
    rw [Token.isUnclosed, he]
    rfl
  constructor
  · intro h
    unfold listOfTokens at h
    split at h
    · cases h
    · next hfind =>
      have hclosed : ∀ t ∈ ts ++ [e], t.isUnclosed = Bool.false := by
        intro t ht
        simpa using List.find?_eq_none.mp hfind t ht
      split at h
      · cases h
      · next trees htrees =>
        have hkinds := listKinds_of_ofTokens htrees
        rw [hfilter] at hkinds
        refine ⟨fun t ht => hclosed t (List.mem_append_left _ ht), ?_⟩
        rw [← hkinds]
        refine derivesList_of_elements (Nat.zero_add _) trees (fun k hk => ?_) h
        rw [hkinds] at hk
        obtain ⟨t, ht, rfl⟩ := List.mem_map.mp hk
        exact (hts t ht).2
  · rintro ⟨hclosed, h⟩
    obtain ⟨trees, hf, hr⟩ := h.exists_trees ts rfl
    have hfind : (ts ++ [e]).find? Token.isUnclosed = none := by
      rw [List.find?_eq_none]
      intro t ht
      rcases List.mem_append.mp ht with ht | ht
      · simp [hclosed t ht]
      · simp [List.mem_singleton.mp ht, hunclosed]
    have htrees : ofTokens (ts ++ [e]) = .ok trees := by
      have hfold := hf [] [] []
      rw [List.append_nil, List.append_nil, fold] at hfold
      rw [ofTokens, hfilter, hfold, List.reverse_reverse]
    rw [listOfTokens, hfind]
    dsimp only
    rw [htrees]
    exact hr 0 (Nat.zero_add _) _

/-- **What an argument text is accepted as**, wherever it begins. The offset of
the text matters for its faults only. -/
theorem parseListAt_eq_ok_iff {base : Nat} {text : List Char} {xs : List Literal} :
    parseListAt base text = .ok xs ↔
      (∀ t ∈ Token.tokenize text, t.isUnclosed = Bool.false) ∧
        ∃ ks, (Token.tokenize text).map Token.kind = ks ++ [.eof] ∧ DerivesList maxDepth ks xs := by
  obtain ⟨ts, hts, hne⟩ := Token.tokenizeFrom_eq_append_eof base Bool.true text
  have hkinds : (Token.tokenize text).map Token.kind = ts.map Token.kind ++ [.eof] := by
    rw [Token.tokenize, Token.tokenizeAt, Token.map_kind_tokenizeFrom 0 base, hts, List.map_append]
    rfl
  have hunclosed : (∀ t ∈ Token.tokenize text, t.isUnclosed = Bool.false) ↔
      ∀ t ∈ ts, t.isUnclosed = Bool.false := by
    have hall (us : List Token) : (∀ t ∈ us, t.isUnclosed = Bool.false) ↔
        ∀ k ∈ us.map Token.kind, k.isUnclosed = Bool.false := by
      rw [List.forall_mem_map]
      rfl
    rw [hall, hall, hkinds, List.forall_mem_append]
    exact and_iff_left fun k hk => by rw [List.mem_singleton.mp hk]; rfl
  have hscanned : ∀ t ∈ ts, t.kind ≠ .eof ∧ Token.IsScanned t.kind := fun t ht =>
    ⟨hne t ht, Token.isScanned_of_mem_tokenizeFrom
      (show t ∈ Token.tokenizeFrom base Bool.true text by rw [hts]; exact List.mem_append_left _ ht)⟩
  have hok : parseListAt base text = .ok xs ↔ listOfTokens (Token.tokenizeAt base text) = .ok xs := by
    unfold parseListAt
    cases listOfTokens (Token.tokenizeAt base text) <;> simp
  rw [hok, Token.tokenizeAt, hts, listOfTokens_eq_ok_iff rfl hscanned, hunclosed, hkinds]
  simp

/-- Where an argument text begins makes no difference to what it is accepted
as. -/
theorem parseList_ofList_eq_ok_iff (base : Nat) {text : List Char} {xs : List Literal} :
    parseList (String.ofList text) = .ok xs ↔ parseListAt base text = .ok xs := by
  rw [parseList, String.toList_ofList, parseListAt_eq_ok_iff, parseListAt_eq_ok_iff]

/-- **The arguments of a call are a closed grammar**: a text is accepted exactly
if none of its literals is left unclosed and its tokens derive from the grammar,
with arrays and objects nested at most `maxDepth` deep, and what is returned is
what the derivation stands for. So no text is accepted that has a token anywhere
for which the grammar has no place. -/
theorem parseList_eq_ok_iff_derivesList (text : String) :
    (∀ xs, parseList text = .ok xs ↔
      (∀ t ∈ Token.tokenize text.toList, t.isUnclosed = Bool.false) ∧
        ∃ ks, (Token.tokenize text.toList).map Token.kind = ks ++ [.eof] ∧
          DerivesList maxDepth ks xs) ∧
    ((∃ pre k post, (Token.tokenize text.toList).map Token.kind = pre ++ k :: (post ++ [.eof]) ∧
        IsForeign pre.getLast? k post.head?) →
      ∀ xs, parseList text ≠ .ok xs) := by
  refine ⟨fun xs => parseListAt_eq_ok_iff, ?_⟩
  rintro ⟨pre, k, post, hks, hforeign⟩ xs h
  obtain ⟨-, ks, hks', hd⟩ := parseListAt_eq_ok_iff.mp h
  rw [hks, ← List.cons_append, ← List.append_assoc] at hks'
  obtain rfl : pre ++ k :: post = ks := List.append_cancel_right hks'
  exact hd.not_isForeign hforeign

end Literal

end QueryShell
