import QueryShell.Proofs.Checked.Descent

/-!
# Arguments read one by one

The reader of literals folds all tokens of an argument list into trees before it
reads the first argument. The list can also be split first: `split` goes along
the tokens, keeps the brackets that are open on a stack, and gives the range of
tokens of each argument. Then each range is cut out and read on its own, to its
last token.

That no cut fails, and that both orders of work give the same result, faults
included, is shown in two steps. Where the tokens do not fold, splitting fails
at the same token (`split_of_fold_error`). Where they do, the ranges are those
of the trees between commas (`split_trees`), and the first argument that is
refused by one reader is refused by the other.

## Main statements

* `TokenTree.spells_of_fold`: the tokens that were folded spell the trees.
* `Checked.split_trees`: what is read from the ranges of a split.
* `Checked.parseListAt_eq`: argument texts are read without failing.
-/

namespace QueryShell

namespace TokenTree

/-! ## Folding -/

variable {ts us : List Token} {trees : List TokenTree} {stack : List Frame} {before : List TokenTree}

/-- **The tokens read so far**: what stands before each open bracket, the
bracket, and what stands inside the innermost one. This is what the stack of a
fold stands for, and the invariant of `spells_of_fold`. -/
def Read : List Frame → List TokenTree → List Token → Prop
  | [], before, ts => Spells ts before.reverse
  | f :: stack, before, ts => ∃ a o b, ts = a ++ o :: b ∧ o.kind = .opener f.bracket ∧
      o.span.start = f.start ∧ Read stack f.before a ∧ Spells b before.reverse

theorem Read.append {trees : List TokenTree} (h : Read stack before ts) (hus : Spells us trees) :
    Read stack (trees.reverse ++ before) (ts ++ us) := by
  have hrev : (trees.reverse ++ before).reverse = before.reverse ++ trees := by simp
  cases stack with
  | nil =>
    rw [Read, hrev]
    exact Spells.append h hus
  | cons f stack =>
    obtain ⟨a, o, b, rfl, ho, hstart, ha, hb⟩ := h
    refine ⟨a, o, b ++ us, by simp, ho, hstart, ha, ?_⟩
    rw [hrev]
    exact hb.append hus

/-- **The tokens that were folded spell the trees.** The induction is on the
fold; an opening bracket pushes what was read onto the stack, and a closing one
takes it off again as a group. -/
theorem spells_of_fold {all : List TokenTree} (h : fold stack before ts = .ok all)
    (hus : Read stack before us) : Spells (us ++ ts) all := by
  fun_induction fold stack before ts generalizing us with
  | case1 before =>
    cases h
    rwa [List.append_nil]
  | case2 => cases h
  | case3 stack before t ts b hb ih =>
    rw [List.append_cons]
    exact ih h ⟨us, t, [], rfl, hb, rfl, hus, .nil⟩
  | case4 => cases h
  | case5 before t ts f tail hb ih =>
    obtain ⟨a, o, b, rfl, ho, hstart, ha, hb'⟩ := hus
    rw [List.append_cons]
    refine ih h ?_
    have hgroup := ha.append (Spells.group ho hb hb' .nil)
    rw [hstart, List.reverse_singleton, List.singleton_append, ← List.cons_append,
      ← List.append_assoc] at hgroup
    exact hgroup
  | case6 => cases h
  | case7 => cases h
  | case8 stack before t ts hk _ ih =>
    rw [List.append_cons]
    exact ih h (hus.append (.leaf (by rw [hk]; rfl) (by rw [hk]; rfl) .nil))
  | case9 stack before t ts ho hc _ ih =>
    rw [List.append_cons]
    refine ih h (hus.append (.leaf ?_ ?_ .nil))
    · cases hk : t.kind <;> first | rfl | exact absurd hk (ho _)
    · cases hk : t.kind <;> first | rfl | exact absurd hk (hc _)

/-- Trees stay as they are unless a comma among them leaves a place empty. -/
theorem Spells.fold_append (h : Spells ts trees) (hcomma : stack ≠ [] ∨ ∀ t ∈ trees, t.head ≠ .comma)
    (us : List Token) : fold stack before (ts ++ us) = fold stack (trees.reverse ++ before) us := by
  induction h generalizing stack before us with
  | nil => rfl
  | @leaf t ts trees ho hc h ih =>
    have htail : stack ≠ [] ∨ ∀ u ∈ trees, u.head ≠ .comma :=
      hcomma.imp_right fun h u hu => h u (List.mem_cons_of_mem _ hu)
    have hleaf : fold stack before (t :: (ts ++ us)) = fold stack (.leaf t :: before) (ts ++ us) := by
      by_cases hk : t.kind = .comma
      · have hstack : stack ≠ [] := hcomma.resolve_right fun h => h _ List.mem_cons_self hk
        rw [fold, hk]
        exact if_neg (by simp [hstack])
      · exact foldsTo_leaf rfl ho hc hk stack before (ts ++ us)
    rw [List.cons_append, hleaf, ih htail, List.reverse_cons, List.append_assoc]
    rfl
  | @group o c b inner ts children trees ho hc hin h ihin ih =>
    have htail : stack ≠ [] ∨ ∀ u ∈ trees, u.head ≠ .comma :=
      hcomma.imp_right fun h u hu => h u (List.mem_cons_of_mem _ hu)
    rw [List.cons_append, List.append_assoc, List.cons_append, fold, ho]
    dsimp only
    rw [ihin (.inl (List.cons_ne_nil _ _)), fold, hc]
    dsimp only
    rw [if_pos rfl, ih htail]
    simp

end TokenTree

namespace Checked

open Literal (Located)
open TokenTree (Spells)

/-! ## The reader -/

/-- **Splits tokens at the commas outside all brackets.** The range at hand
began at the position `start`, and `i` is the position that has been reached. -/
def split (openers : List (Bracket × Nat)) (start i : Nat) :
    List Token → Except (TokenTree.Fault × Nat) (List (Nat × Nat))
  | [] =>
    match openers with
    | (b, offset) :: _ => .error (.unclosed b, offset)
    | [] => .ok (if start < i then [(start, i)] else [])
  | t :: ts =>
    match t.kind with
    | .opener b => split ((b, t.span.start) :: openers) start (i + 1) ts
    | .closer b =>
      match openers with
      | [] => .error (.unmatched b, t.span.start)
      | (o, _) :: openers =>
        if o = b then split openers start (i + 1) ts
        else .error (.mismatched o b, t.span.start)
    | .comma =>
      if openers.isEmpty then
        if i = start then .error (.emptyPlace, t.span.start)
        else do
          let ranges ← split [] (i + 1) (i + 1) ts
          .ok ((start, i) :: ranges)
      else split openers start (i + 1) ts
    | _ => split openers start (i + 1) ts

/-- Reads exactly one value. -/
def argument (ts : List Token) : Reading Located Literal := do
  let (x, rest, _) ← value 0 ts
  match rest with
  | [] => return x
  | t :: _ => throw (Literal.misplaced .afterArgument (.leaf t))

/-- Reads one value from each range. -/
def arguments (tokens : List Token) : List (Nat × Nat) → Reading Located (List Literal)
  | [] => return []
  | (start, stop) :: ranges => do
    let x ← argument (← range start stop tokens)
    let xs ← arguments tokens ranges
    return (x :: xs)

/-- Reads the tokens of a text, of which the last one marks its end. -/
def listOfTokens (tokens : List Token) : Reading Located (List Literal) :=
  match tokens.find? Token.isUnclosed with
  | some t => throw (.unclosed t.kind, t.span.start)
  | none => do
    let ts ← range 0 (tokens.length - 1) tokens
    let ranges ← done ((split [] 0 0 ts).mapError fun (f, offset) => (.brackets f, offset))
    arguments tokens ranges

/-- The literals of an argument text, which begins at the offset `base`. -/
def parseListAt (base : Nat) (text : List Char) : Reading QueryError (List Literal) :=
  (listOfTokens (Token.tokenizeAt base text)).adapt fun (f, offset) => f.toError offset

/-- The literals of an argument text. -/
def parseList (text : String) : Reading QueryError (List Literal) :=
  parseListAt 0 text.toList

/-! ## Splitting -/

variable {openers : List (Bracket × Nat)} {start i : Nat} {ts us : List Token} {trees : List TokenTree}

/-- Splitting goes past trees unless a comma among them ends the range. -/
theorem split_append (h : Spells ts trees) (hcomma : openers ≠ [] ∨ ∀ t ∈ trees, t.head ≠ .comma)
    (us : List Token) :
    split openers start i (ts ++ us) = split openers start (i + ts.length) us := by
  induction h generalizing openers i us with
  | nil => rfl
  | @leaf t ts trees ho hc h ih =>
    have htail : openers ≠ [] ∨ ∀ u ∈ trees, u.head ≠ .comma :=
      hcomma.imp_right fun h u hu => h u (List.mem_cons_of_mem _ hu)
    have hleaf : split openers start i (t :: (ts ++ us)) = split openers start (i + 1) (ts ++ us) := by
      rw [split]
      split
      · next hk => simp [hk, TokenKind.isOpener] at ho
      · next hk => simp [hk, TokenKind.isCloser] at hc
      · next hk =>
        have hopeners : openers ≠ [] := hcomma.resolve_right fun h => h _ List.mem_cons_self hk
        exact if_neg (by simp [hopeners])
      · rfl
    rw [List.cons_append, hleaf, ih htail, List.length_cons, Nat.add_assoc, Nat.add_comm 1]
  | @group o c b inner ts children trees ho hc hin h ihin ih =>
    have htail : openers ≠ [] ∨ ∀ u ∈ trees, u.head ≠ .comma :=
      hcomma.imp_right fun h u hu => h u (List.mem_cons_of_mem _ hu)
    rw [List.cons_append, List.append_assoc, List.cons_append, split, ho]
    dsimp only
    rw [ihin (.inl (List.cons_ne_nil _ _)), split, hc]
    dsimp only
    rw [if_pos rfl, ih htail]
    congr 1
    simp
    omega

theorem split_of_fold_error {stack : List TokenTree.Frame} {before : List TokenTree}
    {x : TokenTree.Fault × Nat} (h : TokenTree.fold stack before ts = .error x) (hle : start ≤ i)
    (hstack : stack ≠ [] → start < i)
    (hplace : stack = [] → (TokenTree.atPlaceStart before = true ↔ i = start)) :
    split (stack.map fun f => (f.bracket, f.start)) start i ts = .error x := by
  fun_induction TokenTree.fold stack before ts generalizing start i with
  | case1 before => cases h
  | case2 before f stack =>
    cases h
    rfl
  | case3 stack before t ts b hb ih =>
    rw [split, hb]
    exact ih h (by omega) (by omega) fun hnil => absurd hnil (List.cons_ne_nil _ _)
  | case4 before t ts b hb =>
    cases h
    rw [split, hb]
    rfl
  | case5 before t ts f tail hb ih =>
    have hlt := hstack (List.cons_ne_nil _ _)
    rw [split, hb]
    simp only [List.map_cons, if_true]
    refine ih h (by omega) (by omega) fun _ => ?_
    simp [TokenTree.atPlaceStart]
    omega
  | case6 before t ts b hb f stack hne =>
    cases h
    rw [split, hb]
    simp [hne]
  | case7 stack before t ts hb hk =>
    cases h
    rw [Bool.and_eq_true, List.isEmpty_iff] at hk
    obtain ⟨rfl, hplace'⟩ := hk
    rw [split, hb]
    exact if_pos ((hplace rfl).mp hplace')
  | case8 stack before t ts hk hne ih =>
    rw [split, hk]
    cases stack with
    | nil =>
      have hi : i ≠ start := fun h => hne (by simp [(hplace rfl).mpr h])
      have hnext : split [] (i + 1) (i + 1) ts = .error x :=
        ih h (Nat.le_refl _) (absurd rfl) fun _ => by simp [TokenTree.atPlaceStart, hk]
      simp only [List.map_nil, List.isEmpty_nil, if_true, if_neg hi, hnext]
      rfl
    | cons f stack =>
      exact ih h (by omega) (fun _ => Nat.lt_succ_of_lt (hstack (List.cons_ne_nil _ _)))
        fun hnil => absurd hnil (List.cons_ne_nil _ _)
  | case9 stack before t ts ho hc hk ih =>
    have hnext := ih h (by omega) (fun _ => Nat.lt_succ_of_le hle) fun _ =>
      ⟨fun hcomma => absurd (eq_of_beq hcomma) hk, by omega⟩
    rw [split]
    split
    · next b hb => exact absurd hb (ho b)
    · next b hb => exact absurd hb (hc b)
    · next hb => exact absurd hb hk
    · exact hnext

/-! ## One argument -/

/-- At the end of the tokens there is neither a parenthesis nor a numeral. -/
theorem behind_nil (t : TokenTree) : Behind t none [] where
  nameFault_eq _ := rfl
  negated?_eq _ hv := by cases hv

/-- A tree looks at what follows only to tell a name from a call, as a token
does. -/
theorem ofTree_congr {next next' : Option TokenKind}
    (h : ∀ name, Literal.nameFault name next = Literal.nameFault name next') (depth : Nat)
    (t : TokenTree) : Literal.ofTree depth next t = Literal.ofTree depth next' t := by
  cases t with
  | leaf t =>
    rw [Literal.ofTree, Literal.ofTree]
    exact ofToken_congr h t
  | group b start children stop => cases b <;> rw [Literal.ofTree, Literal.ofTree]

/-- A place ends here: there are no more trees, or a comma comes next. -/
def EndsPlace (more : List TokenTree) : Prop :=
  ∀ t ∈ more.head?, t.head = .comma

theorem negated?_of_comma {t c : TokenTree} (hc : c.head = .comma) : Literal.negated? t c = none := by
  cases c with
  | leaf c => exact negated?_leaf (fun text h => by simp [TokenTree.head, h] at hc) t
  | group => cases hc

/-- Checks that a place holds nothing behind its value. -/
def ends : List TokenTree → Except Located Unit
  | [] => .ok ()
  | t :: _ => .error (Literal.misplaced .afterArgument t)

/-- What follows a value in its place is a fault before anything behind the
place is looked at. -/
theorem moreElements_append {ts : List TokenTree} (hcomma : ∀ t ∈ ts, t.head ≠ .comma)
    (more : List TokenTree) : Literal.moreElements 0 .afterArgument (ts ++ more) = (do
      ends ts
      Literal.moreElements 0 .afterArgument more) := by
  cases ts with
  | nil => rfl
  | cons t ts =>
    rw [List.cons_append, Literal.moreElements, if_neg (hcomma t List.mem_cons_self)]
    rfl

/-- A place is its first value, and then nothing: what else there is has been
misplaced. -/
theorem argument_of_value {a b : List Token} {ts : List TokenTree} {r : Except Located Literal}
    (h : value 0 a = done (r.map fun x => (x, b, 0))) (hb : Spells b ts) :
    argument a = done (do
      let x ← r
      ends ts
      .ok x) := by
  rw [argument, h, done_map_bind]
  cases ts with
  | nil =>
    cases hb.eq_nil
    cases r <;> rfl
  | cons t ts =>
    obtain ⟨u, us, rfl, hkind, hstart, -⟩ := hb.exists_head
    dsimp only
    rw [misplaced_leaf hkind hstart]
    cases r <;> rfl

/-- **A place is read as the one argument that it holds**, and whatever the
reader of trees does behind the place, it has done the same in it. -/
theorem argument_trees {place : List TokenTree} {a : List Token} (ha : Spells a place)
    (hplace : place ≠ []) (hcomma : ∀ t ∈ place, t.head ≠ .comma) :
    ∃ r, argument a = done r ∧ ∀ more, EndsPlace more →
      Literal.elements 0 .afterArgument (place ++ more) = (do
        let x ← r
        let xs ← Literal.moreElements 0 .afterArgument more
        .ok (x :: xs)) := by
  match place, ha with
  | [], _ => exact absurd rfl hplace
  | [t], ha =>
    have ht := hcomma t List.mem_cons_self
    have hvalue := value_tree 0 none t ha (behind_nil t)
    rw [List.append_nil] at hvalue
    refine ⟨_, argument_of_value hvalue .nil, fun more hmore => ?_⟩
    cases more with
    | nil =>
      rw [List.append_nil, Literal.elements, if_neg ht, Literal.moreElements]
      cases Literal.ofTree 0 none t <;> rfl
    | cons c more =>
      have hc : c.head = .comma := hmore c (Option.mem_def.mpr rfl)
      have hnext : Literal.ofTree 0 (some c.head) t = Literal.ofTree 0 none t :=
        ofTree_congr (fun name => by rw [hc]; rfl) 0 t
      rw [List.singleton_append, Literal.elements, if_neg ht, negated?_of_comma hc]
      dsimp only
      rw [hnext]
      cases Literal.ofTree 0 none t <;> rfl
  | t :: u :: rest, h =>
    have ht := hcomma t List.mem_cons_self
    have hrest : ∀ v ∈ rest, v.head ≠ .comma := fun v hv => hcomma v (by simp [hv])
    obtain ⟨a, b, rfl, hfirst, hb⟩ := h.exists_cons
    cases hneg : Literal.negated? t u with
    | none =>
      have hvalue := value_tree 0 (some u.head) t hfirst (behind_of_spells hb hneg [])
      rw [List.append_nil] at hvalue
      refine ⟨_, argument_of_value hvalue hb, fun more hmore => ?_⟩
      rw [List.cons_append, List.cons_append, Literal.elements, if_neg ht, hneg]
      dsimp only
      rw [← List.cons_append, moreElements_append fun v hv => hcomma v (List.mem_cons_of_mem _ hv)]
      cases Literal.ofTree 0 (some u.head) t <;> rfl
    | some p =>
      obtain ⟨text, offset⟩ := p
      obtain ⟨b, b', rfl, hsecond, hb'⟩ := hb.exists_cons
      refine ⟨_, argument_of_value (value_negated hfirst hsecond hneg 0 b') hb', fun more hmore => ?_⟩
      rw [List.cons_append, List.cons_append, Literal.elements, if_neg ht, hneg]
      dsimp only
      rw [moreElements_append hrest]
      cases Literal.readNumeral text offset with
      | error e => rfl
      | ok x => cases rest <;> rfl

/-! ## All arguments -/

theorem exists_place (trees : List TokenTree) :
    ∃ place more, trees = place ++ more ∧ (∀ t ∈ place, t.head ≠ .comma) ∧ EndsPlace more := by
  refine ⟨trees.takeWhile (·.head != .comma), trees.dropWhile (·.head != .comma),
    List.takeWhile_append_dropWhile.symm, fun t ht => ?_, fun t ht => ?_⟩
  · simpa using List.all_eq_true.mp List.all_takeWhile t ht
  · have hhead := List.head?_dropWhile_not (·.head != .comma) trees
    rw [Option.mem_def] at ht
    rw [ht] at hhead
    simpa using hhead

/-- A place that holds something is not at its start any more. -/
theorem atPlaceStart_append {place : List TokenTree} (hplace : place ≠ [])
    (hcomma : ∀ t ∈ place, t.head ≠ .comma) (before : List TokenTree) :
    TokenTree.atPlaceStart (place.reverse ++ before) = false := by
  cases hrev : place.reverse with
  | nil => exact absurd (List.reverse_eq_nil_iff.mp hrev) hplace
  | cons t ts =>
    have ht : t ∈ place := List.mem_reverse.mp (by rw [hrev]; exact List.mem_cons_self)
    cases t with
    | leaf t => exact beq_false_of_ne (hcomma _ ht)
    | group => rfl

/-- **The first range is read on its own**, and then the others: the tokens of a
range are all that its reader sees. The fault that is reported first is that of
the first range that has one. -/
theorem arguments_cons {pre a rest : List Token} {ranges : List (Nat × Nat)}
    {r : Except Located Literal} {rs : Except Located (List Literal)} (ha : argument a = done r)
    (h : arguments (pre ++ (a ++ rest)) ranges = done rs) :
    arguments (pre ++ (a ++ rest)) ((pre.length, pre.length + a.length) :: ranges) = done (do
      let x ← r
      let xs ← rs
      .ok (x :: xs)) := by
  rw [arguments, range_append, some_bind, ha, h]
  exact done_bind fun x => done_bind fun xs => rfl

/-- **Each place is read on its own**: what the ranges of a split are read as is
what the trees between commas are read as. -/
theorem split_trees (pre rest : List Token) {ts : List Token} {trees before all : List TokenTree}
    (h : Spells ts trees) (hbefore : TokenTree.atPlaceStart before = true)
    (hfold : TokenTree.fold [] before ts = .ok all) :
    ∃ ranges, split [] pre.length pre.length ts = .ok ranges ∧
      arguments (pre ++ (ts ++ rest)) ranges = done (Literal.elements 0 .afterArgument trees) := by
  obtain ⟨place, more, rfl, hcomma, hmore⟩ := exists_place trees
  obtain ⟨a, b, rfl, ha, hb⟩ := h.exists_append
  rw [ha.fold_append (.inr hcomma)] at hfold
  rw [split_append ha (.inr hcomma), List.append_assoc]
  by_cases hplace : place = []
  · -- a place without trees is the end, since folding refuses a comma behind it
    subst hplace
    cases ha
    cases hb with
    | nil =>
      refine ⟨[], by simp [split], ?_⟩
      rw [List.append_nil, Literal.elements]
      rfl
    | @leaf u =>
      have hu : u.kind = .comma := hmore _ (Option.mem_def.mpr rfl)
      rw [TokenTree.fold, hu] at hfold
      simp [hbefore] at hfold
    | group => cases hmore _ (Option.mem_def.mpr rfl)
  obtain ⟨r, hr, helements⟩ := argument_trees ha hplace hcomma
  have hlen : 0 < a.length := by
    obtain ⟨t, ts, rfl⟩ := List.exists_cons_of_ne_nil hplace
    obtain ⟨u, us, rfl, -⟩ := ha.exists_head
    exact Nat.zero_lt_succ _
  rw [helements more hmore]
  cases hb with
  | nil =>
    refine ⟨[(pre.length, pre.length + a.length)], ?_, arguments_cons hr ?_⟩
    · rw [split, if_pos (by omega)]
    · rw [Literal.moreElements]
      rfl
  | @leaf u us more _ _ hus =>
    have hu : u.kind = .comma := hmore _ (Option.mem_def.mpr rfl)
    rw [TokenTree.fold_comma (atPlaceStart_append hplace hcomma before) hu] at hfold
    have hpre : (pre ++ (a ++ [u])).length = pre.length + a.length + 1 := by simp [Nat.add_assoc]
    have htokens : pre ++ (a ++ [u]) ++ (us ++ rest) = pre ++ (a ++ (u :: us ++ rest)) := by simp
    obtain ⟨ranges, hranges, hread⟩ := split_trees (pre ++ (a ++ [u])) rest hus
      (by simp [TokenTree.atPlaceStart, hu]) hfold
    rw [hpre] at hranges
    rw [htokens] at hread
    refine ⟨(pre.length, pre.length + a.length) :: ranges, ?_, arguments_cons hr ?_⟩
    · rw [split, hu]
      simp only [List.isEmpty_nil, if_true]
      rw [if_neg (by omega), hranges]
      rfl
    · rw [hread, Literal.moreElements, TokenTree.head, if_pos hu]
  | group => cases hmore _ (Option.mem_def.mpr rfl)
termination_by trees.length

/-! ## Argument texts -/

/-- The tokens of a text are split and read without failing, and give what their
trees give. The mark of the end is set aside first. -/
theorem listOfTokens_eq {ts : List Token} {e : Token} (he : e.kind = .eof)
    (hts : ∀ t ∈ ts, t.kind ≠ .eof) :
    listOfTokens (ts ++ [e]) = done (Literal.listOfTokens (ts ++ [e])) := by
  have hrange : range 0 ((ts ++ [e]).length - 1) (ts ++ [e]) = some ts := by
    simpa using range_append [] ts [e]
  rw [listOfTokens, Literal.listOfTokens]
  cases (ts ++ [e]).find? Token.isUnclosed with
  | some t => rfl
  | none =>
    rw [hrange, some_bind, TokenTree.ofTokens, TokenTree.filter_append_eof he hts]
    cases hfold : TokenTree.fold [] [] ts with
    | error x =>
      have hsplit : split [] 0 0 ts = .error x :=
        split_of_fold_error hfold (Nat.le_refl 0) (absurd rfl) fun _ => ⟨fun _ => rfl, fun _ => rfl⟩
      rw [hsplit]
      rfl
    | ok trees =>
      have hspells : Spells ts trees := TokenTree.spells_of_fold hfold .nil
      obtain ⟨ranges, hranges, hread⟩ := split_trees [] [e] hspells rfl hfold
      rw [List.length_nil] at hranges
      rw [hranges]
      exact hread

/-- **Argument texts are read without failing**, and as they are read through
trees. The ranges of a split are the trees between commas (`split_trees`), and
each of them is read as its tree (`value_tree`). -/
theorem parseListAt_eq (base : Nat) (text : List Char) :
    parseListAt base text = done (Literal.parseListAt base text) := by
  obtain ⟨ts, hts, hne⟩ := Token.tokenizeFrom_eq_append_eof base true text
  have htokens : Token.tokenizeAt base text = ts ++ [_] := hts
  rw [parseListAt, Literal.parseListAt, htokens, listOfTokens_eq rfl hne]
  cases Literal.listOfTokens _ <;> rfl

/-- Argument texts that stand alone are read without failing, as those inside of
a query are. -/
theorem parseList_eq (text : String) : parseList text = done (Literal.parseList text) :=
  parseListAt_eq 0 text.toList

end Checked

end QueryShell
