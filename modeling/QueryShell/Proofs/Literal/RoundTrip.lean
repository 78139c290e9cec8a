import Mathlib
import QueryShell.Proofs.Entries
import QueryShell.Proofs.Literal.Acceptance
import QueryShell.Proofs.Token.Written

/-!
# Literals read back

A literal that came out of an accepted text is written in the notation that it
was read from, and the written text is accepted again and stands for the same
literal: numbers to the bit, the keys of an object in their order, and strings,
keys and regular expressions to the character.

Not every value of the type `Literal` has this property. A literal that is read
has finite numbers only, its patterns are closed by the slash behind them, its
flags are known and distinct, the keys of its objects are distinct, and it is
nested at most `maxDepth` deep. `Readable` collects these conditions; every
accepted literal satisfies them, and they are all that the way back needs.

## Main statements

* `Literal.DerivesList.readable`: what derives from tokens that were read is
  readable.
* `Literal.Readable.isWritten`: a readable literal is written as tokens that it
  derives from.
* `Literal.parseListAt_itemsChars`: written arguments are accepted as what they
  were written from.
* `Literal.parseList_text`: an accepted literal is read back from its text.
-/

namespace QueryShell

namespace Literal

open Lexeme Token

/-! ## What is read can be written -/

/-- **A literal that can come out of a text**, nested at most `n` deep. Its
numbers are finite, its patterns end where a slash ends them, its flags are
flags and its objects are maps; strings and keys may be any. -/
inductive Readable : Nat → Literal → Prop
  | null {n : Nat} : Readable n null
  | bool {n : Nat} (b : Bool) : Readable n (bool b)
  | number {n : Nat} {x : Double} (h : x.isFinite = true) : Readable n (number x)
  | string {n : Nat} (s : String) : Readable n (string s)
  | regex {n : Nat} {pattern flags : String} (hp : IsPattern false pattern.toList)
    (hf : AreFlags flags) : Readable n (regex pattern flags)
  | array {n : Nat} {items : List Literal} (h : ∀ x ∈ items, Readable n x) :
    Readable (n + 1) (array items)
  | object {n : Nat} {entries : List (String × Literal)} (hk : (Entries.keys entries).Nodup)
    (h : ∀ p ∈ entries, Readable n p.2) : Readable (n + 1) (object entries)

/-- The token was read from a text and is closed. -/
def IsClosedScan (k : TokenKind) : Prop := IsScanned k ∧ k.isUnclosed = false

/-- The sign of a number says nothing about whether it is finite. -/
theorem isFinite_neg (x : Double) : x.neg.isFinite = x.isFinite := by
  refine Double.isFinite_congr ?_
  rw [Double.neg_eq, Double.magnitudeBits_ofMagnitude _ x.magnitudeBits_lt]

mutual

/-- A literal that the grammar derives from closed tokens is readable. The proof
is by recursion on the derivation, together with the two that follow it. -/
theorem DerivesValue.readable {n : Nat} {ks : List TokenKind} {x : Literal} :
    DerivesValue n ks x → (∀ k ∈ ks, IsClosedScan k) → Readable n x
  | .true, _ => .bool _
  | .false, _ => .bool _
  | .null, _ => .null
  | .string _, _ => .string _
  | .number h, _ => .number h.2
  | .negated (x := x) h, _ => .number ((isFinite_neg x).trans h.2)
  | .regex hf, hks => by
    obtain ⟨hscan, hclosed⟩ := hks _ List.mem_cons_self
    refine .regex (hscan ?_) hf
    simpa [TokenKind.isUnclosed] using hclosed
  | .array h, hks => .array (h.readable fun k hk => hks k (by simp [hk]))
  | .object h, hks =>
    .object (Entries.leftBy_ofList _).nodup fun p hp =>
      h.readable (fun k hk => hks k (by simp [hk])) p (Entries.mem_of_mem_ofList hp)

/-- **What derives from tokens that were read is readable.** The tokens must
have been read from a text, since only then does a pattern among them end at its
slash. -/
theorem DerivesList.readable {n : Nat} {ks : List TokenKind} {xs : List Literal} :
    DerivesList n ks xs → (∀ k ∈ ks, IsClosedScan k) → ∀ x ∈ xs, Readable n x
  | .nil, _ => fun _ hx => absurd hx List.not_mem_nil
  | .single h, hks => List.forall_mem_singleton.mpr (h.readable hks)
  | .cons h hs, hks =>
    List.forall_mem_cons.mpr ⟨h.readable fun k hk => hks k (by simp [hk]),
      hs.readable fun k hk => hks k (by simp [hk])⟩

/-- The values of properties that the grammar derives from closed tokens are
readable. -/
theorem DerivesProperties.readable {n : Nat} {ks : List TokenKind} {ps : List (String × Literal)} :
    DerivesProperties n ks ps → (∀ k ∈ ks, IsClosedScan k) → ∀ p ∈ ps, Readable n p.2
  | .nil, _ => fun _ hp => absurd hp List.not_mem_nil
  | .single _ h, hks =>
    List.forall_mem_singleton.mpr (h.readable fun k hk => hks k (by simp [hk]))
  | .cons _ h hs, hks =>
    List.forall_mem_cons.mpr ⟨h.readable fun k hk => hks k (by simp [hk]),
      hs.readable fun k hk => hks k (by simp [hk])⟩

end

/-! ## What is written can be read -/

/-- **The literal is written as tokens that it derives from**, nested at most
`n` deep, wherever a value may begin and whatever follows it. What follows must
not go on with the last token, which no separator does. -/
def IsWritten (n : Nat) (x : Literal) : Prop :=
  ∃ ks, DerivesValue n ks x ∧ (∀ k ∈ ks, k.isUnclosed = false) ∧
    ∀ cs, Text.HeadNot continues cs → kinds true (chars x ++ cs) = ks ++ kinds false cs

/-- A literal that is written as one bare word (`true`, `false`, `null`) and is
derived from that word is written well. -/
theorem isWritten_word {n : Nat} {x : Literal} {w : List Char} (hx : chars x = w)
    (hd : DerivesValue n [wordKind w] x) (hw : ∃ c t, w = c :: t ∧ isWordStart c = true ∧
      t.all isWordChar = true) : IsWritten n x := by
  obtain ⟨c, t, rfl, hc, ht⟩ := hw
  rw [List.all_eq_true] at ht
  refine ⟨_, hd, ?_, fun cs hcs => ?_⟩
  · rcases wordKind_cases (c :: t) with ⟨-, h⟩ | h <;> simp [h, TokenKind.isUnclosed]
  · rw [hx, List.cons_append, kinds_word hc ht (hcs.mono fun d => continues_of_isWordChar)]
    rfl

/-- A finite number is written as a numeral, or as a minus and a numeral. -/
theorem isWritten_number {n : Nat} {x : Double} (h : x.isFinite = true) :
    IsWritten n (number x) := by
  obtain ⟨whole, fraction, hp, htext, hnum⟩ := exists_numberChars_eq h
  have hchars : chars (number x) = numberChars x := by rw [chars]
  have hx := x.ofMagnitude_magnitudeBits
  cases hneg : x.isNegative with
  | false =>
    rw [hneg] at htext hx
    have hd := DerivesValue.number (n := n) hnum
    rw [hx] at hd
    refine ⟨_, hd, by simp [TokenKind.isUnclosed], fun cs hcs => ?_⟩
    rw [hchars, htext, if_neg Bool.false_ne_true, List.nil_append, kinds_numeral hp hcs]
    rfl
  | true =>
    rw [hneg] at htext hx
    have hd := DerivesValue.negated (n := n) hnum
    rw [Double.neg_eq, Double.isNegative_ofMagnitude false x.magnitudeBits_lt,
      Double.magnitudeBits_ofMagnitude false x.magnitudeBits_lt, Bool.not_false, hx] at hd
    refine ⟨_, hd, by simp [TokenKind.isUnclosed], fun cs hcs => ?_⟩
    rw [hchars, htext, if_pos rfl, List.append_assoc, List.singleton_append,
      kinds_mark (by decide), kinds_numeral hp hcs]
    rfl

/-- The text of a string literal is one quoted token, whose content is the
string again. -/
theorem isWritten_string {n : Nat} (s : String) : IsWritten n (string s) := by
  refine ⟨[.string s '"' true], .string (.inr rfl), by simp [TokenKind.isUnclosed],
    fun cs _ => ?_⟩
  rw [chars, kinds_quoted, String.ofList_toList]
  rfl

/-- The text of a regular expression is one token, which the scanner splits into
the same pattern and flags. -/
theorem isWritten_regex {n : Nat} {pattern flags : String} (hp : IsPattern false pattern.toList)
    (hf : AreFlags flags) : IsWritten n (regex pattern flags) := by
  have halpha : ∀ c ∈ flags.toList, c.isAlpha = true := by
    have hall : regexFlags.all Char.isAlpha = true := by decide
    exact fun c hc => List.all_eq_true.mp hall c (hf.1 c hc)
  refine ⟨[.regex pattern flags true], .regex hf, by simp [TokenKind.isUnclosed], fun cs hcs => ?_⟩
  have hcs' : Text.HeadNot Char.isAlpha cs :=
    hcs.mono fun c h => continues_of_isAlphanum (by simp [Char.isAlphanum, h])
  have hregex := kinds_regex hp halpha hcs'
  rw [String.ofList_toList, String.ofList_toList] at hregex
  rw [chars]
  simpa using hregex

@[simp] theorem itemsChars_singleton (x : Literal) : itemsChars [x] = chars x := by
  rw [itemsChars]

@[simp] theorem itemsChars_cons_cons (x y : Literal) (xs : List Literal) :
    itemsChars (x :: y :: xs) = chars x ++ ',' :: ' ' :: itemsChars (y :: xs) := by
  rw [itemsChars]
  exact List.cons_ne_nil y xs

@[simp] theorem entriesChars_singleton (p : String × Literal) :
    entriesChars [p] = keyChars p.1 ++ ':' :: ' ' :: chars p.2 := by
  rw [entriesChars]

@[simp] theorem entriesChars_cons_cons (p q : String × Literal) (ps : List (String × Literal)) :
    entriesChars (p :: q :: ps) =
      keyChars p.1 ++ ':' :: ' ' :: chars p.2 ++ ',' :: ' ' :: entriesChars (q :: ps) := by
  rw [entriesChars]
  exact List.cons_ne_nil q ps

/-- Literals that are written well are written well as a list. A value may still
begin behind it if it is empty. -/
theorem exists_derivesList {n : Nat} {xs : List Literal} (h : ∀ x ∈ xs, IsWritten n x) :
    ∃ ks r, DerivesList n ks xs ∧ (∀ k ∈ ks, k.isUnclosed = false) ∧
      ∀ cs, Text.HeadNot continues cs → kinds true (itemsChars xs ++ cs) = ks ++ kinds r cs := by
  induction xs with
  | nil => exact ⟨[], true, .nil, by simp, fun cs _ => by rw [itemsChars]; rfl⟩
  | cons x xs ih =>
    obtain ⟨ks, hd, hclosed, hks⟩ := h x List.mem_cons_self
    cases xs with
    | nil => exact ⟨ks, false, .single hd, hclosed, fun cs hcs => by rw [itemsChars, hks cs hcs]⟩
    | cons y ys =>
      obtain ⟨ls, r, hds, hcloseds, hls⟩ := ih fun z hz => h z (List.mem_cons_of_mem x hz)
      refine ⟨ks ++ .comma :: ls, r, .cons hd hds, ?_, fun cs hcs => ?_⟩
      · rw [List.forall_mem_append, List.forall_mem_cons]
        exact ⟨hclosed, rfl, hcloseds⟩
      · rw [itemsChars_cons_cons, List.append_assoc, List.cons_append, List.cons_append,
          hks _ (Text.headNot_cons.mpr rfl), kinds_mark (by decide), kinds_space]
        show _ ++ .comma :: kinds true _ = _
        rw [hls cs hcs, List.append_assoc, List.cons_append]

/-- A key that is written without quotes is a word: it has a first character
that begins a word, and goes on with characters of a word. -/
theorem isWordStart_of_isBareKey {w : List Char} (h : isBareKey w = true) :
    ∃ c t, w = c :: t ∧ isWordStart c = true ∧ ∀ d ∈ t, isWordChar d = true := by
  cases w with
  | nil => cases h
  | cons c t =>
    rw [isBareKey, Bool.and_eq_true, List.all_eq_true] at h
    refine ⟨c, t, rfl, h.1, fun d hd => ?_⟩
    have hd' := h.2 d hd
    simp only [Bool.or_eq_true] at hd'
    rcases hd' with (hd' | hd') | hd'
    · exact isWordChar_of_isAlphanum hd'
    · simp [isWordChar, hd']
    · simp [isWordChar, hd']

/-- A key is written as one token that it derives from. -/
theorem exists_derivesKey (key : String) :
    ∃ k, DerivesKey k key ∧ k.isUnclosed = false ∧ ∀ (r : Bool) (cs : List Char),
      Text.HeadNot continues cs → kinds r (keyChars key ++ cs) = k :: kinds false cs := by
  by_cases hbare : isBareKey key.toList = true
  · obtain ⟨c, t, hw, hc, ht⟩ := isWordStart_of_isBareKey hbare
    refine ⟨wordKind key.toList, ?_, ?_, fun r cs hcs => ?_⟩
    · unfold wordKind
      split
      · next hdb =>
        have hkey : key = "db" := String.toList_injective hdb
        rw [hkey]
        exact .db
      · rw [String.ofList_toList]
        exact .word key
    · rcases wordKind_cases key.toList with ⟨-, h⟩ | h <;> simp [h, TokenKind.isUnclosed]
    · rw [keyChars, if_pos hbare, hw, List.cons_append,
        kinds_word hc ht (hcs.mono fun d => continues_of_isWordChar)]
  · refine ⟨.string key '"' true, .string (.inr rfl), rfl, fun r cs _ => ?_⟩
    rw [keyChars, if_neg hbare, kinds_quoted, String.ofList_toList]

/-- A property is written as a key, a colon and its literal. -/
theorem kinds_property {n : Nat} {p : String × Literal} (h : IsWritten n p.2) :
    ∃ k ks, DerivesKey k p.1 ∧ DerivesValue n ks p.2 ∧
      (∀ l ∈ k :: .colon :: ks, l.isUnclosed = false) ∧ ∀ cs, Text.HeadNot continues cs →
        kinds true (keyChars p.1 ++ ':' :: ' ' :: chars p.2 ++ cs) =
          k :: .colon :: ks ++ kinds false cs := by
  obtain ⟨k, hk, hkc, hkk⟩ := exists_derivesKey p.1
  obtain ⟨ks, hd, hclosed, hks⟩ := h
  refine ⟨k, ks, hk, hd, ?_, fun cs hcs => ?_⟩
  · rw [List.forall_mem_cons, List.forall_mem_cons]
    exact ⟨hkc, rfl, hclosed⟩
  · rw [List.append_assoc, List.cons_append, List.cons_append,
      hkk _ _ (Text.headNot_cons.mpr rfl), kinds_mark (by decide), kinds_space]
    show _ :: .colon :: kinds true _ = _
    rw [hks cs hcs]
    rfl

/-- Entries whose literals are written well are written well as properties. -/
theorem exists_derivesProperties {n : Nat} {ps : List (String × Literal)} (hne : ps ≠ [])
    (h : ∀ p ∈ ps, IsWritten n p.2) :
    ∃ ks, DerivesProperties n ks ps ∧ (∀ k ∈ ks, k.isUnclosed = false) ∧
      ∀ cs, Text.HeadNot continues cs →
        kinds true (entriesChars ps ++ cs) = ks ++ kinds false cs := by
  induction ps with
  | nil => exact absurd rfl hne
  | cons p ps ih =>
    obtain ⟨k, ks, hk, hd, hclosed, hks⟩ := kinds_property (h p List.mem_cons_self)
    cases ps with
    | nil =>
      refine ⟨_, .single hk hd, hclosed, fun cs hcs => ?_⟩
      rw [entriesChars_singleton, hks cs hcs]
    | cons q qs =>
      obtain ⟨ls, hds, hcloseds, hls⟩ :=
        ih (List.cons_ne_nil q qs) fun z hz => h z (List.mem_cons_of_mem p hz)
      refine ⟨_, .cons hk hd hds, ?_, fun cs hcs => ?_⟩
      · refine List.forall_mem_append.mpr ⟨hclosed, ?_⟩
        exact List.forall_mem_cons.mpr ⟨rfl, hcloseds⟩
      · rw [entriesChars_cons_cons, List.append_assoc, List.cons_append, List.cons_append,
          hks _ (Text.headNot_cons.mpr rfl), kinds_mark (by decide), kinds_space]
        show _ ++ .comma :: kinds true _ = _
        rw [hls cs hcs, ← List.cons_append, ← List.append_assoc]

/-- An object is written with its entries as the properties between its braces,
whatever follows it. -/
theorem exists_kinds_object {n : Nat} {entries : List (String × Literal)}
    (h : ∀ p ∈ entries, IsWritten n p.2) :
    ∃ ks, DerivesProperties n ks entries ∧ (∀ k ∈ ks, k.isUnclosed = false) ∧ ∀ cs,
      kinds true (chars (object entries) ++ cs) =
        .opener .brace :: ks ++ .closer .brace :: kinds false cs := by
  cases entries with
  | nil =>
    refine ⟨[], .nil, List.forall_mem_nil _, fun cs => ?_⟩
    rw [chars, List.cons_append, List.singleton_append, kinds_mark (by decide),
      kinds_mark (by decide)]
    rfl
  | cons p ps =>
    obtain ⟨ks, hd, hclosed, hks⟩ := exists_derivesProperties (List.cons_ne_nil p ps) h
    refine ⟨ks, hd, hclosed, fun cs => ?_⟩
    rw [chars, List.append_assoc, List.cons_append, List.cons_append, kinds_mark (by decide),
      kinds_space]
    show _ :: kinds true _ = _
    rw [List.cons_append, List.singleton_append, hks _ (Text.headNot_cons.mpr rfl), kinds_space,
      kinds_mark (by decide)]
    simp [punctuation, TokenKind.allowsRegex]

/-- **A readable literal is written as tokens that it derives from**, by
induction on the literal. The cases are the ways in which the literals are
written, and only those with parts use the induction. -/
theorem Readable.isWritten {n : Nat} {x : Literal} (h : Readable n x) : IsWritten n x := by
  induction h with
  | null =>
    refine isWritten_word (w := ['n', 'u', 'l', 'l']) ?_ .null ⟨_, _, rfl, rfl, by decide⟩
    rw [chars]
    rfl
  | bool b =>
    cases b
    · refine isWritten_word (w := ['f', 'a', 'l', 's', 'e']) ?_ .false ⟨_, _, rfl, rfl, by decide⟩
      rw [chars]
      rfl
    · refine isWritten_word (w := ['t', 'r', 'u', 'e']) ?_ .true ⟨_, _, rfl, rfl, by decide⟩
      rw [chars]
      rfl
  | number hx => exact isWritten_number hx
  | string s => exact isWritten_string s
  | regex hp hf => exact isWritten_regex hp hf
  | array _ ih =>
    obtain ⟨ks, r, hd, hclosed, hks⟩ := exists_derivesList ih
    refine ⟨_, .array hd, ?_, fun cs hcs => ?_⟩
    · rw [List.forall_mem_append, List.forall_mem_cons, List.forall_mem_singleton]
      exact ⟨⟨rfl, hclosed⟩, rfl⟩
    · rw [chars, List.append_assoc, List.cons_append, kinds_mark (by decide)]
      show _ :: kinds true _ = _
      rw [List.singleton_append, hks _ (Text.headNot_cons.mpr rfl), kinds_mark (by decide)]
      simp [punctuation, TokenKind.allowsRegex]
  | object hk _ ih =>
    obtain ⟨ks, hd, hclosed, hks⟩ := exists_kinds_object ih
    -- the keys are distinct, so the map made of the properties is the list that was written
    have hobject := DerivesValue.object hd
    rw [Entries.ofList_of_nodup hk] at hobject
    refine ⟨_, hobject, ?_, fun cs _ => ?_⟩
    · rw [List.forall_mem_append, List.forall_mem_cons, List.forall_mem_singleton]
      exact ⟨⟨rfl, hclosed⟩, rfl⟩
    · rw [hks, List.append_assoc, List.singleton_append]

/-! ## Accepted literals -/

/-- A text with the tokens of a list is accepted as the list, wherever it
stands. -/
theorem parseListAt_of_kinds {text : List Char} {ks : List TokenKind} {xs : List Literal}
    (hks : kinds true text = ks ++ [.eof]) (hclosed : ∀ k ∈ ks, k.isUnclosed = false)
    (h : DerivesList maxDepth ks xs) (base : Nat) : parseListAt base text = .ok xs := by
  refine parseListAt_eq_ok_iff.mpr ⟨fun t ht => ?_, ks, hks, h⟩
  have hk : t.kind ∈ kinds true text := List.mem_map_of_mem ht
  rw [hks] at hk
  rcases List.mem_append.mp hk with hk | hk
  · exact hclosed _ hk
  · rw [isUnclosed, List.mem_singleton.mp hk]
    rfl

/-- **Written arguments are accepted as what they were written from**, wherever
they stand. This is what printing and reading come to for a single literal and
for the arguments of a call alike. -/
theorem parseListAt_itemsChars {xs : List Literal} (h : ∀ x ∈ xs, Readable maxDepth x) (base : Nat) :
    parseListAt base (itemsChars xs) = .ok xs := by
  obtain ⟨ks, r, hd, hclosed, hks⟩ := exists_derivesList fun x hx => (h x hx).isWritten
  refine parseListAt_of_kinds ?_ hclosed hd base
  have hend := hks [] Text.headNot_nil
  rwa [List.append_nil, kinds_nil] at hend

/-- The tokens of an accepted argument text are closed. -/
theorem isClosedScan_of_parseListAt {base : Nat} {text : List Char} {xs : List Literal}
    (h : parseListAt base text = .ok xs) {k : TokenKind} (hk : k ∈ kinds true text) :
    IsClosedScan k := by
  obtain ⟨t, ht, rfl⟩ := List.mem_map.mp hk
  exact ⟨isScanned_of_mem_tokenizeFrom ht, (parseListAt_eq_ok_iff.mp h).1 t ht⟩

/-- What an argument text is accepted as is readable. -/
theorem readable_of_parseListAt {base : Nat} {text : List Char} {xs : List Literal}
    (h : parseListAt base text = .ok xs) : ∀ x ∈ xs, Readable maxDepth x := by
  obtain ⟨-, ks, hks, hd⟩ := parseListAt_eq_ok_iff.mp h
  refine hd.readable fun k hk => isClosedScan_of_parseListAt h ?_
  show k ∈ (tokenize text).map Token.kind
  rw [hks]
  exact List.mem_append_left _ hk

/-- **An accepted literal is read back from its text**, and nothing else with
it: its text is accepted, and what it is accepted as is the one literal, with
the bits of its numbers, the order of its keys and all characters of its
strings, keys and regular expressions as they were. -/
theorem parseList_text {s : String} {vs : List Literal} (h : parseList s = .ok vs) {v : Literal}
    (hv : v ∈ vs) : parseList v.text = .ok [v] := by
  have hv' : ∀ x ∈ [v], Readable maxDepth x :=
    List.forall_mem_singleton.mpr (readable_of_parseListAt h v hv)
  rw [parseList, text, String.toList_ofList, ← itemsChars_singleton]
  exact parseListAt_itemsChars hv' 0

/-- The object that is printed has a bare key with a dollar sign and a quoted
one with a blank, a string with a line break, an array inside an array and a
negative number, and had a comma behind its last property. -/
theorem parseList_text_nested :
    parseList r"-7, { $in: ['x\n', [null]], 'a b': -7, }" =
        .ok [number ⟨0xC01C000000000000⟩, object [("$in", array [string "x\n", array [null]]),
          ("a b", number ⟨0xC01C000000000000⟩)]] ∧
      parseList (object [("$in", array [string "x\n", array [null]]),
          ("a b", number ⟨0xC01C000000000000⟩)]).text =
        .ok [object [("$in", array [string "x\n", array [null]]),
          ("a b", number ⟨0xC01C000000000000⟩)]] := by
  have h : parseList r"-7, { $in: ['x\n', [null]], 'a b': -7, }" =
      .ok [number ⟨0xC01C000000000000⟩, object [("$in", array [string "x\n", array [null]]),
        ("a b", number ⟨0xC01C000000000000⟩)]] := by
    cbv
  exact ⟨h, parseList_text h (List.mem_cons_of_mem _ List.mem_cons_self)⟩

end Literal

end QueryShell
