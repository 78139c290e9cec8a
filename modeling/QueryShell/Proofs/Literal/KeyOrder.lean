import QueryShell.Proofs.Literal.Views

/-!
# The order of an object's keys

An object literal is read property by property, and each property is inserted
into the object that is being made. A key that is written twice is therefore one
key of the object, in the place where it was written first and with the value
that was written last: the object is what the properties leave
(`Entries.LeftBy`).

An object is shown in three ways: as text, as JSON and as a document. The text
is written entry by entry, but JSON objects and documents are maps of their own,
and the entries of the object are inserted into them anew. Nothing is merged or
moved then, since the keys are distinct already.

What a text lists is a matter of its tokens and not of its characters, because a
key may stand with or without quotes. So the text of an object is told by the
properties that derive from its tokens, repeated keys included, in the same way
as the text that the object was read from.

## Main statements

* `Literal.DerivesValue.exists_object`: an object is what properties that stand
  between braces leave.
* `Literal.showsKeys_of_readable`: the three ways list the same keys.
* `Literal.insertion_ordered`: both together, for what can be read.
-/

namespace QueryShell.Literal

open Token

/-! ## Objects in a text -/

/-- **The literal stands in another one**, however deep, or is the other one. -/
inductive IsPart (x : Literal) : Literal → Prop
  | refl : IsPart x x
  | item {y : Literal} {items : List Literal} (hy : y ∈ items) (h : IsPart x y) :
    IsPart x (array items)
  | value {p : String × Literal} {entries : List (String × Literal)} (hp : p ∈ entries)
    (h : IsPart x p.2) : IsPart x (object entries)

/-- **The properties stand between braces** somewhere among the tokens, in the
order in which they are written. Nothing is said of what became of the object: a
repeated key further out may have replaced it. -/
def HasObject (ks : List TokenKind) (ps : List (String × Literal)) : Prop :=
  ∃ n ls, .opener .brace :: ls ++ [.closer .brace] <:+: ks ∧ DerivesProperties n ls ps

/-- What stands among some tokens also stands among more of them. -/
theorem HasObject.mono {ks ls : List TokenKind} {ps : List (String × Literal)} (h : HasObject ks ps)
    (hks : ks <:+: ls) : HasObject ls ps := by
  obtain ⟨n, ms, hms, hd⟩ := h
  exact ⟨n, ms, hms.trans hks, hd⟩

mutual

/-- **An object is what properties between braces leave**: each object in a
literal is made of properties that stand among the tokens of the literal. -/
theorem DerivesValue.exists_object {n : Nat} {ks : List TokenKind} {x : Literal} :
    DerivesValue n ks x → ∀ es, IsPart (object es) x →
      ∃ ps, es = Entries.ofList ps ∧ HasObject ks ps
  | .true => nofun
  | .false => nofun
  | .null => nofun
  | .string _ => nofun
  | .number _ => nofun
  | .negated _ => nofun
  | .regex _ => nofun
  | .array h => fun es hpart => by
    cases hpart with
    | item hy hpart =>
      obtain ⟨ps, hes, hps⟩ := h.exists_object _ hy es hpart
      exact ⟨ps, hes, hps.mono ⟨[.opener .square], [.closer .square], rfl⟩⟩
  | .object h => fun es hpart => by
    cases hpart with
    | refl => exact ⟨_, rfl, _, _, List.infix_refl _, h⟩
    | value hp hpart =>
      obtain ⟨ps, hes, hps⟩ := h.exists_object _ (Entries.mem_of_mem_ofList hp) es hpart
      exact ⟨ps, hes, hps.mono ⟨[.opener .brace], [.closer .brace], rfl⟩⟩

/-- The objects in a list of literals are made of properties among the tokens of
the list. -/
theorem DerivesList.exists_object {n : Nat} {ks : List TokenKind} {xs : List Literal} :
    DerivesList n ks xs → ∀ x ∈ xs, ∀ es, IsPart (object es) x →
      ∃ ps, es = Entries.ofList ps ∧ HasObject ks ps
  | .nil => fun _ hx => absurd hx List.not_mem_nil
  | .single h => List.forall_mem_singleton.mpr h.exists_object
  | .cons h hs => by
    refine List.forall_mem_cons.mpr ⟨fun es hpart => ?_, fun x hx es hpart => ?_⟩
    · obtain ⟨ps, hes, hps⟩ := h.exists_object es hpart
      exact ⟨ps, hes, hps.mono (List.prefix_append _ _).isInfix⟩
    · obtain ⟨ps, hes, hps⟩ := hs.exists_object x hx es hpart
      exact ⟨ps, hes, hps.mono ((List.suffix_cons _ _).trans (List.suffix_append _ _)).isInfix⟩

/-- The objects in the values of properties are made of properties among their
tokens. -/
theorem DerivesProperties.exists_object {n : Nat} {ks : List TokenKind}
    {qs : List (String × Literal)} :
    DerivesProperties n ks qs → ∀ q ∈ qs, ∀ es, IsPart (object es) q.2 →
      ∃ ps, es = Entries.ofList ps ∧ HasObject ks ps
  | .nil => fun _ hq => absurd hq List.not_mem_nil
  | .single _ h => List.forall_mem_singleton.mpr fun es hpart => by
    obtain ⟨ps, hes, hps⟩ := h.exists_object es hpart
    exact ⟨ps, hes, hps.mono ((List.suffix_cons _ _).trans (List.suffix_cons _ _)).isInfix⟩
  | .cons _ h hs => by
    refine List.forall_mem_cons.mpr ⟨fun es hpart => ?_, fun q hq es hpart => ?_⟩
    · obtain ⟨ps, hes, hps⟩ := h.exists_object es hpart
      exact ⟨ps, hes, hps.mono ⟨[_, .colon], .comma :: _, rfl⟩⟩
    · obtain ⟨ps, hes, hps⟩ := hs.exists_object q hq es hpart
      exact ⟨ps, hes, hps.mono ((List.suffix_cons _ _).trans (List.suffix_append _ _)).isInfix⟩

end

/-! ## The three ways to show an object -/

/-- **The text lists the keys**: it is the text of an object and of nothing
else, and these are the keys of its properties as they are written one after the
other. -/
def ListsKeys (text : List Char) (names : List String) : Prop :=
  ∃ n ks ps, kinds true text = .opener .brace :: ks ++ [.closer .brace, .eof] ∧
    DerivesProperties n ks ps ∧ Entries.keys ps = names

/-- **The object is shown with the keys**, in this order: in its text, in its
JSON object and in its document. The keys of the text are those of the
properties that its tokens derive. -/
structure ShowsKeys (entries : List (String × Literal)) (names : List String) : Prop where
  text : ListsKeys (object entries).text.toList names
  json : ∃ members, toJson (object entries) = .object members ∧ Entries.keys members = names
  document : Entries.keys (toDocument entries) = names

/-- The three ways list the same keys if these are distinct and the values can
be read. -/
theorem showsKeys_of_readable {n : Nat} {es : List (String × Literal)} (hk : (Entries.keys es).Nodup)
    (h : ∀ p ∈ es, Readable n p.2) : ShowsKeys es (Entries.keys es) := by
  refine ⟨?_, ⟨_, toJson_object hk, ?_⟩, ?_⟩
  · obtain ⟨ks, hd, -, hks⟩ := exists_kinds_object fun p hp => (h p hp).isWritten
    have hend := hks []
    rw [List.append_nil, kinds_nil] at hend
    rw [Literal.text, String.toList_ofList]
    exact ⟨n, ks, es, hend, hd, rfl⟩
  · simp [Entries.keys]
  · rw [← keys_entriesToBson] at hk
    rw [toDocument, Entries.ofList_of_nodup hk, keys_entriesToBson]

/-- **Object literals are insertion-ordered maps.** Whatever is inserted, in
whatever order and with whatever keys repeated, the keys are in the order of
their first insertions and have their last values. An accepted text is read in
this way: each object that comes out of it, however deep, is what properties
that stand between braces in the text leave. And whatever properties stand
between braces in it, also those whose object a repeated key has replaced, the
object that they leave is shown with its keys in this order in all three
ways. -/
theorem insertion_ordered :
    (∀ ps : List (String × Literal), Entries.LeftBy (Entries.ofList ps) ps) ∧
    ∀ (s : String) (vs : List Literal), parseList s = .ok vs →
      (∀ v ∈ vs, ∀ es, IsPart (object es) v →
        ∃ ps, es = Entries.ofList ps ∧ HasObject (kinds true s.toList) ps) ∧
      ∀ ps, HasObject (kinds true s.toList) ps →
        ShowsKeys (Entries.ofList ps) (Entries.keys (Entries.ofList ps)) := by
  refine ⟨Entries.leftBy_ofList, fun s vs h => ⟨fun v hv es hpart => ?_, ?_⟩⟩
  · obtain ⟨-, ks, hks, hd⟩ := parseListAt_eq_ok_iff.mp h
    obtain ⟨ps, hes, hps⟩ := hd.exists_object v hv es hpart
    refine ⟨ps, hes, hps.mono ?_⟩
    show ks <:+: (tokenize s.toList).map Token.kind
    rw [hks]
    exact (List.prefix_append _ _).isInfix
  · rintro ps ⟨n, ls, hls, hd⟩
    have hread := hd.readable fun k hk =>
      isClosedScan_of_parseListAt h (hls.subset (by simp [hk]))
    exact showsKeys_of_readable (Entries.leftBy_ofList ps).nodup fun p hp =>
      hread p (Entries.mem_of_mem_ofList hp)

/-- Both objects of the text have a key that is written twice. -/
theorem insertion_ordered_repeated :
    let s := r"{ b: true, a: { x: true, y: null, 'x': false }, b: null }"
    let inner := [("x", bool false), ("y", null)]
    let outer := [("b", null), ("a", object inner)]
    parseList s = .ok [object outer] ∧
      Entries.LeftBy outer [("b", bool true), ("a", object inner), ("b", null)] ∧
      IsPart (object inner) (object outer) ∧
      (∃ ps, inner = Entries.ofList ps ∧ HasObject (kinds true s.toList) ps) ∧
      HasObject (kinds true s.toList) [("x", bool true), ("y", null), ("x", bool false)] ∧
      ShowsKeys inner ["x", "y"] := by
  intro s inner outer
  have hinner : DerivesProperties (maxDepth - 2)
      [.ident "x", .colon, .ident "true", .comma, .ident "y", .colon, .ident "null", .comma,
        .string "x" '\'' true, .colon, .ident "false"]
      [("x", bool true), ("y", null), ("x", bool false)] :=
    .cons (.word "x") .true (.cons (.word "y") .null (.single (.string (.inl rfl)) .false))
  have houter := DerivesProperties.cons (.word "b") .true
    (.cons (.word "a") (.object hinner) (.single (.word "b") .null))
  have h : parseList s = .ok [object outer] :=
    parseListAt_of_kinds (by decide +kernel) (by decide) (.single (.object houter)) 0
  have hpart : IsPart (object inner) (object outer) :=
    .value (List.mem_cons_of_mem _ List.mem_cons_self) .refl
  have hobject : HasObject (kinds true s.toList) [("x", bool true), ("y", null), ("x", bool false)] :=
    ⟨_, _, by decide +kernel, hinner⟩
  obtain ⟨hleft, hread⟩ := insertion_ordered
  obtain ⟨hcome, hshown⟩ := hread s _ h
  exact ⟨h, hleft [("b", bool true), ("a", object inner), ("b", null)], hpart,
    hcome _ List.mem_cons_self inner hpart, hobject, hshown _ hobject⟩

end QueryShell.Literal
