import Mathlib
import QueryShell.Completion.Suggestion
import QueryShell.Proofs.Completion.Cursor
import QueryShell.Proofs.Completion.Ranking
import QueryShell.Proofs.Query.Acceptance
import QueryShell.Proofs.Token.Unclosed

/-!
# What a suggestion inserts

A suggestion for a collection or a field is a name that comes from the store. It
is inserted as it stands: what is escaped in it is escaped for the editor, which
reads the snippet and takes the escapes out again (`Snippet.inserted?_escape`).
Nothing is escaped for the reader of queries, since a query has no way to write
a collection with any other name than a word, and the text of a string is the
name only if it stands for itself there. So a suggestion that is accepted does
not always name what was suggested. It does for exactly the collections with a
word for a name, and for exactly the fields that stand for themselves
(`Lexeme.Verbatim`).

Where a collection is completed, blanks, `db`, blanks, a point and blanks stand
in front of the word, and so the word is all that the reader takes for the name.
Where a field is completed, the word begins right behind a quote that is
left open. The tokens before that quote are not changed by what is inserted
behind it.

## Main statements

* `Snippet.inserted?_escape`: an escaped text is inserted as it stands.
* `Completion.insertion_names`: what a suggestion names once it is accepted.
-/

namespace QueryShell

open Text

/-! ## Reading snippets -/

namespace Snippet

/-- The text that a snippet inserts, if there is no place in it for the cursor
to stop at. A backslash before a special character stands for that character. -/
def inserted? : List Char → Option (List Char)
  | [] => some []
  | '\\' :: c :: cs =>
    if isSpecial c then (inserted? cs).map (c :: ·) else (inserted? (c :: cs)).map ('\\' :: ·)
  | c :: cs => if c = '$' then none else (inserted? cs).map (c :: ·)

/-- **An escaped text is inserted as it stands.** All characters that a snippet
gives a meaning to are escaped, the backslash among them, and no others are. -/
theorem inserted?_escape (cs : List Char) : inserted? (escape cs) = some cs := by
  induction cs with
  | nil => rfl
  | cons c cs ih =>
    rw [escape, List.flatMap_cons, ← escape]
    split
    · next hc => rw [List.cons_append, List.singleton_append, inserted?, if_pos hc, ih]; rfl
    · next hc =>
      have hbackslash : c ≠ '\\' := by
        rintro rfl
        exact hc rfl
      have hdollar : c ≠ '$' := by
        rintro rfl
        exact hc rfl
      rw [List.singleton_append, inserted?, if_neg hdollar, ih]
      · rfl
      · exact fun d ds h => absurd h hbackslash

end Snippet

namespace Completion

/-! ## What is suggested -/

namespace Candidate

variable {collections : List String} {schema : Option Schema} {slot : Slot} {x : Candidate}

/-- What fits into a slot is a collection, a field, or an entry of a table. -/
theorem forSlot_cases (h : x ∈ forSlot collections schema slot) :
    (slot = .collection ∧ ∃ name, x = ofCollection name) ∨
    (∃ reference collection path, slot = .field reference ∧ x = ofField collection reference path) ∨
    x.category ≠ .collection ∧ x.category ≠ .field := by
  cases slot with
  | collection =>
    obtain ⟨name, -, rfl⟩ := List.mem_map.mp h
    exact .inl ⟨rfl, name, rfl⟩
  | field reference =>
    cases schema with
    | none => cases h
    | some s =>
      obtain ⟨path, -, rfl⟩ := List.mem_map.mp h
      exact .inr (.inl ⟨reference, s.collection, path, rfl, rfl⟩)
  | method | modifier | stage =>
    obtain ⟨e, -, rfl⟩ := List.mem_map.mp h
    exact .inr (.inr ⟨nofun, nofun⟩)
  | operator =>
    rcases List.mem_append.mp h with h | h <;> obtain ⟨e, -, rfl⟩ := List.mem_map.mp h <;>
      exact .inr (.inr ⟨nofun, nofun⟩)

/-- A field is inserted as it stands, and a reference with a dollar sign in
front of it. -/
theorem inserted?_ofField (collection : String) (reference : Bool) (path : String) :
    Snippet.inserted? (ofField collection reference path).template.toList =
      some (if reference = true then '$' :: path.toList else path.toList) := by
  have hpath := Snippet.inserted?_escape path.toList
  cases reference with
  | false =>
    simp only [ofField, String.toList_ofList]
    exact hpath
  | true =>
    have hdollar : Snippet.isSpecial '$' = true := rfl
    simp only [ofField, String.toList_ofList, if_true, Snippet.inserted?, hdollar, hpath]
    rfl

end Candidate

/-- A suggestion is made in the context of the cursor, for the word that it
touches. -/
theorem exists_context_of_mem_complete {e : Completer} {text : List Char} {cursor : Nat}
    {schema : Option Schema} {s : Suggestion} (h : s ∈ e.complete text cursor schema) :
    ∃ c, contextOf (takeBytes cursor text) schema.isSome = some c ∧ s.range = wordRange text cursor ∧
      s.candidate ∈ Candidate.forSlot e.collections schema c.slot := by
  unfold Completer.complete at h
  dsimp only at h
  split at h
  · cases h
  · next c hc =>
    obtain ⟨x, hx, rfl⟩ := List.mem_map.mp h
    exact ⟨c, hc, rfl, (Candidate.mem_ranked_iff.mp (List.mem_of_mem_take hx)).1⟩

/-! ## The text around the word -/

/-- The text with other text in the place of a range. -/
def replaceRange (text : List Char) (s : Span) (inserted : List Char) : List Char :=
  takeBytes s.start text ++ (inserted ++ dropBytes s.stop text)

/-- **The text around the word that the cursor touches**: what is in front of
the word, and what is behind it, which does not go on with it. -/
theorem exists_around_word (text : List Char) (cursor : Nat) :
    ∃ a b, takeBytes cursor text = a ++ wordBefore (takeBytes cursor text) ∧
      (wordRange text cursor).start = byteLength a ∧ HeadNot Lexeme.isWordChar b ∧
      ∀ inserted, replaceRange text (wordRange text cursor) inserted = a ++ (inserted ++ b) := by
  obtain ⟨a, ha, -⟩ := exists_eq_append_wordBefore (takeBytes cursor text)
  have hstart : (wordRange text cursor).start = byteLength a := byteLength_sub_wordBefore ha
  refine ⟨a, (dropBytes cursor text).dropWhile Lexeme.isWordChar, ha, hstart, headNot_dropWhile _ _, ?_⟩
  intro inserted
  -- the text is cut at both ends of the word
  have htext : takeBytes cursor text ++ (wordAfter (dropBytes cursor text) ++
      (dropBytes cursor text).dropWhile Lexeme.isWordChar) = text := by
    rw [wordAfter, List.takeWhile_append_dropWhile, takeBytes_append_dropBytes]
  have hfront : takeBytes (byteLength a) text = a := by
    rw [← htext, ha, List.append_assoc, takeBytes_byteLength]
  have hback : dropBytes (wordRange text cursor).stop text =
      (dropBytes cursor text).dropWhile Lexeme.isWordChar := by
    have hstop : (wordRange text cursor).stop =
        byteLength (takeBytes cursor text ++ wordAfter (dropBytes cursor text)) := by
      rw [byteLength_append]
      rfl
    have hdrop := dropBytes_byteLength (takeBytes cursor text ++ wordAfter (dropBytes cursor text))
      ((dropBytes cursor text).dropWhile Lexeme.isWordChar)
    rwa [List.append_assoc, htext, ← hstop] at hdrop
  rw [replaceRange, hstart, hfront, hback]

/-- The context of a cursor, by the tokens before its word. -/
theorem contextOf_takeBytes (text : List Char) (cursor : Nat) (hasSchema : Bool) :
    let ts := tokensBefore text cursor
    let w := (wordRange text cursor).start
    let typed := typedAt text cursor
    contextOf (takeBytes cursor text) hasSchema =
      match ts.find? Token.isUnclosed with
      | none => (Machine.walk {} ((ts.filter (·.span.start < w)).map Token.kind)).context? typed
      | some literal => (Machine.walk {} ((ts.takeWhile (!·.isUnclosed)).map Token.kind)).literalContext?
          literal w typed hasSchema := by
  intro ts w typed
  have hcut : CutsAt w ts := cutsAt_word (takeBytes cursor text)
  have hwalk : contextOf (takeBytes cursor text) hasSchema =
      contextOfTokens w typed hasSchema {} ts := by
    rw [show typed = wordBefore (takeBytes cursor text) from typedAt_eq text cursor]
    rfl
  exact hwalk.trans (contextOfTokens_eq hcut {})

/-! ## Collections -/

/-- A collection is completed outside all literals, behind `db` and a point. -/
theorem kinds_of_collection {text : List Char} {cursor : Nat} {hasSchema : Bool} {c : Context}
    (h : contextOf (takeBytes cursor text) hasSchema = some c) (hslot : c.slot = .collection) :
    ((tokensBefore text cursor).filter (·.span.start < (wordRange text cursor).start)).map Token.kind =
      [.db, .dot] := by
  have hcut : CutsAt (wordRange text cursor).start (tokensBefore text cursor) :=
    cutsAt_word (takeBytes cursor text)
  rw [contextOf_takeBytes] at h
  cases hfind : (tokensBefore text cursor).find? Token.isUnclosed with
  | none =>
    rw [hfind] at h
    obtain ⟨-, hfits⟩ := (context?_walk_eq_some_iff hcut.eof_not_mem_filter _ c).mp h
    rwa [hslot] at hfits
  | some literal =>
    rw [hfind] at h
    obtain ⟨-, hfield⟩ := (literalContext?_walk_eq_some_iff (hcut.eof_not_mem_takeWhile hfind)
      (List.find?_some hfind) c).mp h
    rcases hfield.context with ⟨_, -, rfl⟩ | ⟨-, rfl⟩ <;> cases hslot

/-- Tokens in the order of the text are cut in two by an offset. -/
theorem exists_eq_filter_append {ts : List Token}
    (h : ts.Pairwise fun t u => t.span.start ≤ u.span.start) (w : Nat) :
    ∃ us, ts = ts.filter (·.span.start < w) ++ us ∧ ∀ u ∈ us, w ≤ u.span.start := by
  induction ts with
  | nil => exact ⟨[], rfl, by simp⟩
  | cons t ts ih =>
    obtain ⟨hle, h⟩ := List.pairwise_cons.mp h
    obtain ⟨us, hts, hus⟩ := ih h
    by_cases ht : t.span.start < w
    · refine ⟨us, ?_, hus⟩
      rw [List.filter_cons_of_pos (by simpa using ht), List.cons_append, ← hts]
    · have hafter : ∀ u ∈ t :: ts, w ≤ u.span.start :=
        List.forall_mem_cons.mpr ⟨Nat.le_of_not_lt ht, fun u hu => Nat.le_trans (Nat.le_of_not_lt ht) (hle u hu)⟩
      have hnil : (t :: ts).filter (·.span.start < w) = [] := by
        rw [List.filter_eq_nil_iff]
        intro u hu
        simpa using hafter u hu
      exact ⟨t :: ts, by rw [hnil, List.nil_append], hafter⟩

/-- **What stands in front of the name of a collection**: `db` and a point, with
blanks around them. Nothing else can, since these two are all the tokens that
begin before the word. -/
theorem exists_front_of_collection {a word : List Char}
    (h : ((Token.tokenize (a ++ word)).filter (·.span.start < byteLength a)).map Token.kind = [.db, .dot]) :
    ∃ w₀ w₁ w₂, (∀ c ∈ w₀, isBlank c = true) ∧ (∀ c ∈ w₁, isBlank c = true) ∧
      (∀ c ∈ w₂, isBlank c = true) ∧ a = w₀ ++ 'd' :: 'b' :: (w₁ ++ '.' :: w₂) := by
  obtain ⟨us, hts, hus⟩ := exists_eq_filter_append (Token.pairwise_start 0 true (a ++ word)) (byteLength a)
  obtain ⟨t, ts, hfilter, ht, hkinds⟩ := List.map_eq_cons_iff.mp h
  obtain ⟨t', ts', rfl, ht', hkinds⟩ := List.map_eq_cons_iff.mp hkinds
  obtain rfl := List.map_eq_nil_iff.mp hkinds
  have hlt : t'.span.start < byteLength a := by
    have hmem : t' ∈ (Token.tokenize (a ++ word)).filter (·.span.start < byteLength a) := by
      rw [hfilter]
      simp
    simpa using (List.mem_filter.mp hmem).2
  rw [show (Token.tokenizeFrom 0 true (a ++ word)).filter _ = _ from hfilter] at hts
  -- the word `db` with blanks in front of it, then the point, and the rest `x`
  obtain ⟨w₀, c, x₀, hw₀, -, hcs, hk, hspan, hts⟩ :=
    Token.eq_of_tokenizeFrom_eq_cons hts (by rw [ht]; nofun)
  have htext := Lexeme.text_append_rest true c x₀
  have hword := Lexeme.text_eq_of_kind_eq_word (w := "db") (.inr ⟨hk.symm.trans ht, rfl⟩)
  obtain ⟨w₁, d, x, hw₁, -, hrest, hk', hspan', hts⟩ :=
    Token.eq_of_tokenizeFrom_eq_cons hts.symm (by rw [ht']; nofun)
  obtain ⟨rfl, hread⟩ :=
    Lexeme.read_eq_of_kind_eq_punctuation (m := '.') (by decide) (hk'.symm.trans ht')
  rw [hword, hrest] at htext
  rw [hword] at hspan
  rw [hread] at hspan' hts
  have hparts : a ++ word = (w₀ ++ ("db".toList ++ (w₁ ++ ['.']))) ++ x := by
    rw [hcs, ← htext]
    simp
  have hstop : t'.span.stop = byteLength (w₀ ++ ("db".toList ++ (w₁ ++ ['.']))) := by
    simp only [hspan', hspan, byteLength_append]
    omega
  have hle : t'.span.stop ≤ byteLength a := by
    have hone : t'.span.stop = t'.span.start + 1 := by rw [hspan']; rfl
    omega
  -- no token begins between the point and the word
  obtain ⟨w₂, rfl, rfl⟩ := exists_eq_append_of_byteLength_le hparts (by rw [← hstop]; exact hle)
  have hblank : ∀ u ∈ Token.tokenizeFrom t'.span.stop t'.kind.allowsRegex (w₂ ++ word),
      t'.span.stop + byteLength w₂ ≤ u.span.start := by
    intro u hu
    rw [hstop, ← byteLength_append]
    rw [← hts] at hu
    exact hus u hu
  exact ⟨w₀, w₁, w₂, hw₀, hw₁, Token.isBlank_of_le_start hblank, by simp⟩

/-- **Which names a query reads as its collection**: those that are words. The
name ends where its characters do, so that any other character in it, a point or
a dollar sign, ends the name early or leaves none. -/
theorem collection?_eq_some_iff {w₀ w₁ w₂ b : List Char} (hw₀ : ∀ c ∈ w₀, isBlank c = true)
    (hw₁ : ∀ c ∈ w₁, isBlank c = true) (hw₂ : ∀ c ∈ w₂, isBlank c = true)
    (hb : HeadNot Lexeme.isWordChar b) (name : String) :
    Query.collection? (String.ofList
        ((w₀ ++ 'd' :: 'b' :: (w₁ ++ '.' :: w₂)) ++ (name.toList ++ b))) = some name ↔
      name.toList ≠ [] ∧ ∀ c ∈ name.toList, Query.isNameChar c = true := by
  have hdrop : (String.ofList ((w₀ ++ 'd' :: 'b' :: (w₁ ++ '.' :: w₂)) ++
      (name.toList ++ b))).toList.dropWhile isBlank =
        'd' :: 'b' :: (w₁ ++ '.' :: (w₂ ++ (name.toList ++ b))) := by
    rw [String.toList_ofList, List.append_assoc, List.dropWhile_append_of_pos hw₀, List.cons_append,
      dropWhile_of_headNot (headNot_cons.mpr (by decide))]
    simp
  unfold Query.collection?
  dsimp only
  rw [hdrop]
  constructor
  · intro h
    split at h
    · next t ht =>
      obtain ⟨_, _, -, -, hc, hne, -⟩ := Query.exists_parts_of_target_read ht
      have hname : t.collection = name.toList := by
        rw [← Option.some.inj h, String.toList_ofList]
      rw [hname] at hc hne
      exact ⟨hne, hc⟩
    · cases h
  · rintro ⟨hne, hname⟩
    have hb' : HeadNot Query.isNameChar b := hb.mono fun c => Query.isWordChar_of_isNameChar
    rw [Query.target_read_of_parts hw₁ hw₂ hname hne hb']
    exact congrArg some String.ofList_toList

/-! ## Fields -/

/-- A field is completed behind a quote that is left open. -/
theorem isField_of_field {text : List Char} {cursor : Nat} {hasSchema reference : Bool} {c : Context}
    (h : contextOf (takeBytes cursor text) hasSchema = some c) (hslot : c.slot = .field reference) :
    ∃ literal ks, (tokensBefore text cursor).find? Token.isUnclosed = some literal ∧
      IsField literal ks (wordRange text cursor).start (typedAt text cursor) c := by
  have hcut : CutsAt (wordRange text cursor).start (tokensBefore text cursor) :=
    cutsAt_word (takeBytes cursor text)
  rw [contextOf_takeBytes] at h
  cases hfind : (tokensBefore text cursor).find? Token.isUnclosed with
  | none =>
    rw [hfind] at h
    obtain ⟨-, hfits⟩ := (context?_walk_eq_some_iff hcut.eof_not_mem_filter _ c).mp h
    rw [hslot] at hfits
    exact hfits.elim
  | some literal =>
    rw [hfind] at h
    obtain ⟨-, hfield⟩ := (literalContext?_walk_eq_some_iff (hcut.eof_not_mem_takeWhile hfind)
      (List.find?_some hfind) c).mp h
    exact ⟨literal, _, rfl, hfield⟩

/-- A dollar sign at the beginning of the word makes a reference of the
field. -/
theorem IsField.reference_iff {literal : Token} {ks : List TokenKind} {w : Nat} {typed : List Char}
    {c : Context} {reference : Bool} (h : IsField literal ks w typed c) (hslot : c.slot = .field reference) :
    typed.head? = some '$' ↔ reference = true := by
  rcases h.context with ⟨name, rfl, rfl⟩ | ⟨hdollar, rfl⟩
  · cases hslot
    exact ⟨fun _ => rfl, fun _ => rfl⟩
  · cases hslot
    exact ⟨fun h => absurd h hdollar, nofun⟩

/-- **The string that a text ends in**: it begins with a quote behind the text
`front`, and the tokens of `front` stand in front of the string, however the
text goes on. -/
theorem exists_front_of_string {a word : List Char} {literal : Token}
    (hfind : (Token.tokenize (a ++ word)).find? Token.isUnclosed = some literal) {value : String}
    {quote : Char} (hkind : literal.kind = .string value quote false)
    (ha : byteLength a = literal.span.start + quote.utf8Size) :
    ∃ front, a = front ++ [quote] ∧ byteLength front = literal.span.start ∧
      Lexeme.isQuote quote = true ∧ ∀ x, ∃ ts r, Token.tokenize (front ++ quote :: x) =
        ts ++ Token.tokenizeFrom (byteLength front) r (quote :: x) := by
  obtain ⟨front, c, x, r, hcs, -, rfl, hfront⟩ := Token.exists_front_of_find? hfind
  -- the literal begins with its quote
  obtain ⟨hquote, rfl⟩ := Lexeme.eq_quote_of_kind_eq_string hkind
  have hcut : byteLength a = byteLength (front ++ [c]) := by
    rw [ha, byteLength_append]
    rfl
  obtain ⟨rfl, rfl⟩ := append_inj_of_byteLength hcut (x := word) (y := x) (by rw [hcs]; simp)
  refine ⟨front, rfl, rfl, hquote, fun x => ?_⟩
  obtain ⟨ts, htokens⟩ := hfront x
  exact ⟨ts, r, htokens⟩

/-- A string that is read has its text as its value if that stands for
itself. -/
theorem string_mem_iff {front inserted rest : List Char} {quote : Char}
    (hq : Lexeme.isQuote quote = true) {ts : List Token} {r : Bool}
    (h : Token.tokenize (front ++ quote :: (inserted ++ quote :: rest)) =
      ts ++ Token.tokenizeFrom (byteLength front) r (quote :: (inserted ++ quote :: rest))) :
    ⟨.string (String.ofList inserted) quote true, ⟨byteLength front,
        byteLength front + byteLength (quote :: (inserted ++ [quote]))⟩⟩ ∈
      Token.tokenize (front ++ quote :: (inserted ++ quote :: rest)) ↔
      Lexeme.Verbatim quote inserted := by
  rw [Token.tokenizeFrom_cons (Lexeme.continues_of_isQuote hq).2] at h
  have horder := Token.pairwise_span 0 true (front ++ quote :: (inserted ++ quote :: rest))
  rw [show Token.tokenizeFrom 0 true _ = _ from h, List.pairwise_append, List.pairwise_cons] at horder
  obtain ⟨-, ⟨hafter, -⟩, hbefore⟩ := horder
  rw [h, ← Lexeme.read_quote_iff hq r inserted rest, List.mem_append, List.mem_cons]
  constructor
  · -- the tokens before the string end too early, and those behind it begin too late
    rintro (hmem | hmem | hmem)
    · have hle := hbefore _ hmem _ List.mem_cons_self
      have hpos := quote.utf8Size_pos
      simp only [byteLength_cons] at hle
      omega
    · obtain ⟨hkind, hspan⟩ := Token.mk.inj hmem
      exact ⟨hkind.symm, (Nat.add_left_cancel (Span.mk.inj hspan).2).symm⟩
    · have hle := hafter _ hmem
      have hpos : byteLength (Lexeme.read r quote (inserted ++ quote :: rest)).text ≠ 0 :=
        mt byteLength_eq_zero_iff.mp (Lexeme.text_ne_nil _ _ _)
      dsimp only at hle
      omega
  · rintro ⟨hkind, hlen⟩
    rw [hkind, hlen]
    exact .inr (.inl rfl)

/-! ## Accepted suggestions -/

section

variable {e : Completer} {text : List Char} {cursor : Nat} {schema : Option Schema} {s : Suggestion}

/-- The suggestion of a collection is inserted as it stands, and a query reads
it if it is a word. -/
theorem names_collection (hs : s ∈ e.complete text cursor schema)
    (hcategory : s.candidate.category = .collection) :
    Snippet.inserted? s.candidate.template.toList = some s.candidate.label.toList ∧
      (Query.collection? (String.ofList (replaceRange text s.range s.candidate.label.toList)) =
          some s.candidate.label ↔
        s.candidate.label.toList ≠ [] ∧ ∀ c ∈ s.candidate.label.toList, Query.isNameChar c = true) := by
  obtain ⟨c, hcontext, hrange, hcandidate⟩ := exists_context_of_mem_complete hs
  obtain ⟨a, b, hbefore, hstart, hb, hreplace⟩ := exists_around_word text cursor
  rcases Candidate.forSlot_cases hcandidate with ⟨hslot, label, hx⟩ | ⟨_, _, _, _, hx⟩ | ⟨hne, -⟩
  · have hkinds := kinds_of_collection hcontext hslot
    rw [tokensBefore, hstart, hbefore] at hkinds
    obtain ⟨w₀, w₁, w₂, hw₀, hw₁, hw₂, rfl⟩ := exists_front_of_collection hkinds
    rw [hrange, hreplace]
    refine ⟨?_, collection?_eq_some_iff hw₀ hw₁ hw₂ hb _⟩
    simp only [hx, Candidate.ofCollection, String.toList_ofList]
    exact Snippet.inserted?_escape _
  · rw [hx] at hcategory
    cases hcategory
  · exact absurd hcategory hne

/-- The suggestion of a field is inserted as it stands, behind a dollar sign if
one was typed, and it is the value of the string that it was completed in if it
stands for itself there. -/
theorem names_field (hs : s ∈ e.complete text cursor schema) (hcategory : s.candidate.category = .field) :
    ∃ inserted literal value quote,
      Snippet.inserted? s.candidate.template.toList = some inserted ∧
      inserted = (if (typedAt text cursor).head? = some '$' then '$' :: s.candidate.label.toList
        else s.candidate.label.toList) ∧
      literal ∈ tokensBefore text cursor ∧ literal.kind = .string value quote false ∧
      s.range.start = literal.span.start + quote.utf8Size ∧
      (⟨.string (String.ofList inserted) quote true,
          ⟨literal.span.start, s.range.start + byteLength (inserted ++ [quote])⟩⟩ ∈
        Token.tokenize (replaceRange text s.range (inserted ++ [quote])) ↔
          Lexeme.Verbatim quote s.candidate.label.toList) := by
  obtain ⟨c, hcontext, hrange, hcandidate⟩ := exists_context_of_mem_complete hs
  obtain ⟨a, b, hbefore, hstart, -, hreplace⟩ := exists_around_word text cursor
  rcases Candidate.forSlot_cases hcandidate with ⟨_, _, hx⟩ | ⟨reference, collection, path, hslot, hx⟩ |
    ⟨-, hne⟩
  · rw [hx] at hcategory
    cases hcategory
  · obtain ⟨literal, ks, hfind, hfield⟩ := isField_of_field hcontext hslot
    obtain ⟨value, quote, hkind, -, hquote⟩ := hfield.quoted
    have hmem := List.mem_of_find?_eq_some hfind
    rw [hstart] at hquote
    rw [tokensBefore, hbefore] at hfind
    obtain ⟨front, rfl, hfront, hisQuote, htokens⟩ := exists_front_of_string hfind hkind hquote
    have hname : s.candidate.label.toList = path.toList := by
      rw [hx]
      rfl
    have htemplate := Candidate.inserted?_ofField collection reference path
    simp only [← hfield.reference_iff hslot, ← hx, ← hname] at htemplate
    generalize hinserted : (if (typedAt text cursor).head? = some '$' then '$' :: s.candidate.label.toList
      else s.candidate.label.toList) = inserted at htemplate
    have hverbatim : Lexeme.Verbatim quote inserted ↔
        Lexeme.Verbatim quote s.candidate.label.toList := by
      rw [← hinserted]
      split
      · exact Lexeme.verbatim_cons_iff (Lexeme.ne_of_apply_ne hisQuote rfl).symm (by decide)
      · rfl
    have htext : replaceRange text (wordRange text cursor) (inserted ++ [quote]) =
        front ++ quote :: (inserted ++ quote :: b) := by
      rw [hreplace]
      simp
    have hstop : (wordRange text cursor).start + byteLength (inserted ++ [quote]) =
        byteLength front + byteLength (quote :: (inserted ++ [quote])) := by
      rw [hstart, byteLength_append front, byteLength_cons, byteLength_cons, byteLength_nil]
      omega
    obtain ⟨ts, r, hts⟩ := htokens (inserted ++ quote :: b)
    refine ⟨inserted, literal, value, quote, htemplate, rfl, hmem, hkind, by rw [hrange, hstart, hquote], ?_⟩
    rw [hrange, htext, ← hverbatim, ← string_mem_iff hisQuote hts, hstop, hfront]
  · exact absurd hcategory hne

/-- **What a suggestion names once it is accepted.** A collection is inserted as
it stands, and a query reads its name from there if it is a word. A field is
inserted as it stands too, behind a dollar sign if one was typed. With the quote
behind it that its string begins with, it is the value of the string if it
stands for itself between two of these quotes. -/
theorem insertion_names (hs : s ∈ e.complete text cursor schema) :
    let name := s.candidate.label.toList
    (s.candidate.category = .collection →
      Snippet.inserted? s.candidate.template.toList = some name ∧
      (Query.collection? (String.ofList (replaceRange text s.range name)) = some s.candidate.label ↔
        name ≠ [] ∧ ∀ c ∈ name, Query.isNameChar c = true)) ∧
    (s.candidate.category = .field → ∃ inserted literal value quote,
      Snippet.inserted? s.candidate.template.toList = some inserted ∧
      inserted = (if (typedAt text cursor).head? = some '$' then '$' :: name else name) ∧
      literal ∈ tokensBefore text cursor ∧ literal.kind = .string value quote false ∧
      s.range.start = literal.span.start + quote.utf8Size ∧
      (⟨.string (String.ofList inserted) quote true,
          ⟨literal.span.start, s.range.start + byteLength (inserted ++ [quote])⟩⟩ ∈
        Token.tokenize (replaceRange text s.range (inserted ++ [quote])) ↔
          Lexeme.Verbatim quote name)) :=
  ⟨names_collection hs, names_field hs⟩

end

/-- **Not every suggestion names what it suggests.** A query reads no dollar
sign as part of a collection, and a string ends at the first quote in a
field. -/
theorem not_insertion_names :
    ((Completer.ofCollections ["cost$"]).complete "db.".toList 3 none = [⟨.ofCollection "cost$", ⟨3, 3⟩⟩] ∧
      Snippet.inserted? (Candidate.ofCollection "cost$").template.toList = some "cost$".toList ∧
      Query.collection? (String.ofList (replaceRange "db.".toList ⟨3, 3⟩ "cost$".toList)) ≠ some "cost$") ∧
    (Completer.ofCollections []).complete "db.c.f(\"".toList 8 (some ⟨"c", ["a\"b"]⟩) =
        [⟨.ofField "c" false "a\"b", ⟨8, 8⟩⟩] ∧
      Snippet.inserted? (Candidate.ofField "c" false "a\"b").template.toList = some "a\"b".toList ∧
      ∀ span, ⟨.string "a\"b" '"' true, span⟩ ∉
        Token.tokenize (replaceRange "db.c.f(\"".toList ⟨8, 8⟩ "a\"b\"".toList) := by
  have hcollection : Query.collection? (String.ofList (replaceRange "db.".toList ⟨3, 3⟩ "cost$".toList)) =
      some "cost" := by
    cbv
  have htokens : Token.tokenize (replaceRange "db.c.f(\"".toList ⟨8, 8⟩ "a\"b\"".toList) =
      [⟨.db, ⟨0, 2⟩⟩, ⟨.dot, ⟨2, 3⟩⟩, ⟨.ident "c", ⟨3, 4⟩⟩, ⟨.dot, ⟨4, 5⟩⟩, ⟨.ident "f", ⟨5, 6⟩⟩,
        ⟨.opener .paren, ⟨6, 7⟩⟩, ⟨.string "a" '"' true, ⟨7, 10⟩⟩, ⟨.ident "b", ⟨10, 11⟩⟩,
        ⟨.string "" '"' false, ⟨11, 12⟩⟩, ⟨.eof, ⟨12, 12⟩⟩] := by
    cbv
  refine ⟨⟨by cbv, by decide, ?_⟩, by cbv, by decide, ?_⟩
  · rw [hcollection]
    decide
  · rw [htokens]
    simp

/-- A collection with a plain name, and a field with a point in its name inside
a string that was left open behind a dollar sign. -/
theorem insertion_names_users :
    (⟨.ofCollection "users", ⟨3, 3⟩⟩ ∈ (Completer.ofCollections ["users"]).complete "db.".toList 3 none ∧
      Query.collection? (String.ofList (replaceRange "db.".toList ⟨3, 3⟩ "users".toList)) = some "users") ∧
    ⟨.ofField "c" true "a.b", ⟨8, 9⟩⟩ ∈
        (Completer.ofCollections []).complete "db.c.f(\"$".toList 9 (some ⟨"c", ["a.b"]⟩) ∧
      ⟨.string "$a.b" '"' true, ⟨7, 13⟩⟩ ∈
        Token.tokenize (replaceRange "db.c.f(\"$".toList ⟨8, 9⟩ "$a.b\"".toList) := by
  have hcollection : ⟨.ofCollection "users", ⟨3, 3⟩⟩ ∈
      (Completer.ofCollections ["users"]).complete "db.".toList 3 none := by
    have hall : (Completer.ofCollections ["users"]).complete "db.".toList 3 none =
        [⟨.ofCollection "users", ⟨3, 3⟩⟩] := by cbv
    rw [hall]
    exact List.mem_singleton_self _
  have hfield : ⟨.ofField "c" true "a.b", ⟨8, 9⟩⟩ ∈
      (Completer.ofCollections []).complete "db.c.f(\"$".toList 9 (some ⟨"c", ["a.b"]⟩) := by
    have hall : (Completer.ofCollections []).complete "db.c.f(\"$".toList 9 (some ⟨"c", ["a.b"]⟩) =
        [⟨.ofField "c" true "a.b", ⟨8, 9⟩⟩] := by cbv
    rw [hall]
    exact List.mem_singleton_self _
  have htokens : tokensBefore "db.c.f(\"$".toList 9 =
      [⟨.db, ⟨0, 2⟩⟩, ⟨.dot, ⟨2, 3⟩⟩, ⟨.ident "c", ⟨3, 4⟩⟩, ⟨.dot, ⟨4, 5⟩⟩, ⟨.ident "f", ⟨5, 6⟩⟩,
        ⟨.opener .paren, ⟨6, 7⟩⟩, ⟨.string "$" '"' false, ⟨7, 9⟩⟩, ⟨.eof, ⟨9, 9⟩⟩] := by
    cbv
  refine ⟨⟨hcollection, ((insertion_names hcollection).1 rfl).2.mpr
    ⟨List.cons_ne_nil _ _, List.all_eq_true.mp rfl⟩⟩, hfield, ?_⟩
  obtain ⟨inserted, literal, value, quote, -, hname, hmem, hkind, -, hstring⟩ :=
    (insertion_names hfield).2 rfl
  -- there is one string before the cursor
  rw [htokens] at hmem
  obtain rfl : literal = ⟨.string "$" '"' false, ⟨7, 9⟩⟩ := by
    simp only [List.mem_cons, List.not_mem_nil, or_false] at hmem
    rcases hmem with rfl | rfl | rfl | rfl | rfl | rfl | rfl | rfl <;> first | rfl | cases hkind
  cases hkind
  have hinserted : inserted = "$a.b".toList := by
    rw [hname]
    decide
  subst hinserted
  exact hstring.mpr (.plain (by decide) (by decide) (.plain (by decide) (by decide)
    (.plain (by decide) (by decide) .nil)))

end Completion

end QueryShell
