import QueryShell.Proofs.Completion.Walk
import QueryShell.Proofs.Token.Cut

/-!
# What is completed at a cursor

The word that the cursor touches is cut off from the tokens before it by bytes,
and may begin in the middle of one of them. The walk takes the tokens that begin
before the word, in the order of the text, and stops early at a literal that is
not closed.

That it never stops too early is a fact about characters: a literal begins with
a quote or a slash, and neither belongs to a word, so a literal that is not
closed begins before the word (`Token.start_lt_of_isUnclosed`). The word cuts
the tokens (`CutsAt`), and the walk takes just those before the cut, or those
before the first literal that is not closed. They are tokens that
`context?_walk_eq_some_iff` speaks of, and so the context of a cursor is where
the grammar has it.
-/

namespace QueryShell

open Text

namespace Token

variable {pos : Nat} {r : Bool} {cs : List Char} {t : Token}

/-! ### Tokens in the order of the text -/

/-- The tokens begin in the order in which they are listed. -/
theorem pairwise_start (pos : Nat) (r : Bool) (cs : List Char) :
    (tokenizeFrom pos r cs).Pairwise fun t u => t.span.start ≤ u.span.start :=
  (pairwise_span pos r cs).imp_of_mem fun ht _ h => Nat.le_trans (start_le_stop ht) h

/-- A token that begins with a character of a word is no literal that is
left open. -/
theorem isUnclosed_read_of_isWordChar {c : Char} (hc : Lexeme.isWordChar c = true) (r : Bool)
    (cs : List Char) : (Lexeme.read r c cs).kind.isUnclosed = false := by
  have hquote : ¬ Lexeme.isQuote c = true := by
    rw [Lexeme.isQuote_eq_false hc rfl rfl rfl]
    exact Bool.false_ne_true
  have hslash : ¬ (c = '/' ∧ r = true) := fun h => Lexeme.ne_of_apply_ne hc rfl h.1
  unfold Lexeme.read
  rw [if_neg hquote, if_neg hslash]
  split
  · rfl
  split
  · exact Lexeme.wordKind_isUnclosed _
  · exact Lexeme.punctuation_isUnclosed c

/-- **A literal that is not closed begins before the word** at the end of the
text. It begins with a quote or a slash, and no word has such a character in
it. -/
theorem start_lt_of_isUnclosed {a w : List Char} (hw : ∀ c ∈ w, Lexeme.isWordChar c = true)
    (h : t ∈ tokenizeFrom pos r (a ++ w)) (ht : t.isUnclosed = true) :
    t.span.start < pos + byteLength a := by
  have hne : t.kind ≠ .eof := by
    intro heof
    rw [isUnclosed, heof] at ht
    cases ht
  obtain ⟨b, c, rest, r', hsplit, hstart, hkind, -⟩ := exists_read_of_mem h hne
  by_contra hlt
  rw [hstart, Nat.add_lt_add_iff_left, Nat.not_lt] at hlt
  -- the token begins in the word
  have hmem : c ∈ w := by
    rcases List.append_eq_append_iff.mp hsplit with ⟨x, rfl, rfl⟩ | ⟨x, rfl, hw'⟩
    · exact List.mem_append_right x List.mem_cons_self
    · cases x with
      | nil =>
        rw [← List.nil_append w, ← hw']
        exact List.mem_cons_self
      | cons d x =>
        have hpos := d.utf8Size_pos
        rw [byteLength_append, byteLength_cons] at hlt
        omega
  rw [isUnclosed, hkind, isUnclosed_read_of_isWordChar (hw c hmem)] at ht
  cases ht

end Token

namespace Completion

variable {ts : List Token} {w : Nat} {typed : List Char} {hasSchema : Bool}

/-! ### The word under the cursor -/

/-- The part of the word under the cursor that stands before the cursor. -/
def typedAt (text : List Char) (cursor : Nat) : List Char :=
  slice (wordRange text cursor).start cursor text

/-- The tokens before the cursor. -/
def tokensBefore (text : List Char) (cursor : Nat) : List Token :=
  Token.tokenize (takeBytes cursor text)

/-- The word at the end of a text, and what is left in front of it. -/
theorem exists_eq_append_wordBefore (before : List Char) :
    ∃ a, before = a ++ wordBefore before ∧ (∀ c ∈ wordBefore before, Lexeme.isWordChar c = true) ∧
      HeadNot Lexeme.isWordChar a.reverse := by
  refine ⟨(before.reverse.dropWhile Lexeme.isWordChar).reverse, ?_, fun c hc => ?_, ?_⟩
  · rw [wordBefore, ← List.reverse_append, List.takeWhile_append_dropWhile, List.reverse_reverse]
  · exact List.all_eq_true.mp List.all_takeWhile c (List.mem_reverse.mp hc)
  · rw [List.reverse_reverse]
    exact headNot_dropWhile _ _

/-- What stands between the beginning of the word and the cursor is the word. -/
theorem slice_of_takeBytes {text a word : List Char} {cursor : Nat}
    (h : takeBytes cursor text = a ++ word) : slice (byteLength a) cursor text = word := by
  have htext : text = a ++ (word ++ dropBytes cursor text) := by
    rw [← List.append_assoc, ← h, takeBytes_append_dropBytes]
  have hle : byteLength a ≤ cursor := by
    have hcut := byteLength_takeBytes_le cursor text
    rw [h, byteLength_append] at hcut
    omega
  generalize dropBytes cursor text = rest at htext
  subst htext
  rw [takeBytes_append_of_le hle] at h
  rw [slice, dropBytes_byteLength, List.append_cancel_left h]

/-- Where the word at the end of a text begins. -/
theorem byteLength_sub_wordBefore {before a : List Char} (h : before = a ++ wordBefore before) :
    byteLength before - byteLength (wordBefore before) = byteLength a := by
  have hlen := congrArg byteLength h
  rw [byteLength_append] at hlen
  omega

/-- A cursor inside a character touches the word that it touches at the boundary
before. -/
theorem wordRange_clamp (text : List Char) (cursor : Nat) :
    wordRange text (clamp cursor text) = wordRange text cursor := by
  rw [wordRange, wordRange, takeBytes_clamp, dropBytes_clamp]

/-- The part of the word that stands before the cursor is the word that the
cursor finds behind it. -/
theorem typedAt_eq (text : List Char) (cursor : Nat) :
    typedAt text cursor = wordBefore (takeBytes cursor text) := by
  obtain ⟨a, hbefore, -⟩ := exists_eq_append_wordBefore (takeBytes cursor text)
  have hstart : (wordRange text cursor).start = byteLength a := byteLength_sub_wordBefore hbefore
  rw [typedAt, hstart, slice_of_takeBytes hbefore]

/-! ### The walk along the tokens before the word -/

/-- **The offset `w` cuts the tokens**: they stand in the order of the text,
the end of the text does not begin before `w`, and a literal that is left open
does. -/
structure CutsAt (w : Nat) (ts : List Token) : Prop where
  sorted : ts.Pairwise fun t u => t.span.start ≤ u.span.start
  eof : ∀ t ∈ ts, t.kind = .eof → w ≤ t.span.start
  unclosed : ∀ t ∈ ts, t.isUnclosed = true → t.span.start < w

/-- The word at the end of a text cuts its tokens where it begins. -/
theorem cutsAt_word (before : List Char) :
    CutsAt (byteLength before - byteLength (wordBefore before)) (Token.tokenize before) where
  sorted := Token.pairwise_start 0 true before
  eof := fun t ht hkind => by
    have hend : t.span.start = 0 + byteLength before :=
      congrArg Span.start (Token.span_eq_of_eof ht hkind)
    omega
  unclosed := fun t ht hopen => by
    obtain ⟨a, hbefore, hword, -⟩ := exists_eq_append_wordBefore before
    have hmem : t ∈ Token.tokenizeFrom 0 true (a ++ wordBefore before) := by
      rw [← hbefore]
      exact ht
    have hlt := Token.start_lt_of_isUnclosed hword hmem hopen
    rwa [byteLength_sub_wordBefore hbefore, ← Nat.zero_add (byteLength a)]

namespace CutsAt

/-- A cut of the tokens also cuts all of them but the first. -/
theorem tail {t : Token} (h : CutsAt w (t :: ts)) : CutsAt w ts where
  sorted := (List.pairwise_cons.mp h.sorted).2
  eof := fun u hu => h.eof u (List.mem_cons_of_mem t hu)
  unclosed := fun u hu => h.unclosed u (List.mem_cons_of_mem t hu)

/-- The tokens before the cut do not go on to the end of the text. -/
theorem eof_not_mem_filter (h : CutsAt w ts) :
    .eof ∉ (ts.filter (·.span.start < w)).map Token.kind := by
  intro hmem
  obtain ⟨t, ht, hkind⟩ := List.mem_map.mp hmem
  obtain ⟨ht, hlt⟩ := List.mem_filter.mp ht
  exact Nat.not_lt.mpr (h.eof t ht hkind) (of_decide_eq_true hlt)

/-- Nor do the tokens before a literal that is left open. -/
theorem eof_not_mem_takeWhile (h : CutsAt w ts) {literal : Token}
    (hfind : ts.find? Token.isUnclosed = some literal) :
    .eof ∉ (ts.takeWhile (!·.isUnclosed)).map Token.kind := by
  intro hmem
  obtain ⟨t, ht, hkind⟩ := List.mem_map.mp hmem
  obtain ⟨hopen, pre, post, rfl, hpre⟩ := List.find?_eq_some_iff_append.mp hfind
  rw [List.takeWhile_append_of_pos hpre, List.takeWhile_cons_of_neg (by simp [hopen]),
    List.append_nil] at ht
  have hle := (List.pairwise_append.mp h.sorted).2.2 t ht literal List.mem_cons_self
  have hlt := h.unclosed literal (List.mem_append_right pre List.mem_cons_self) hopen
  have hend := h.eof t (List.mem_append_left _ ht) hkind
  omega

end CutsAt

/-- The walk stops where the word begins, or earlier at a literal that is not
closed. -/
theorem contextOfTokens_eq (h : CutsAt w ts) (m : Machine) :
    contextOfTokens w typed hasSchema m ts =
      match ts.find? Token.isUnclosed with
      | none => (m.walk ((ts.filter (·.span.start < w)).map Token.kind)).context? typed
      | some literal => (m.walk ((ts.takeWhile (!·.isUnclosed)).map Token.kind)).literalContext?
          literal w typed hasSchema := by
  induction ts generalizing m with
  | nil => rfl
  | cons t ts ih =>
    rw [contextOfTokens]
    by_cases ht : t.isUnclosed = true
    · rw [if_pos ht, List.find?_cons_of_pos ht, List.takeWhile_cons_of_neg (by simp [ht])]
      rfl
    · rw [if_neg ht, List.find?_cons_of_neg ht, List.takeWhile_cons_of_pos (by simp [ht])]
      by_cases hstart : w ≤ t.span.start
      · -- no token from here on begins before the word
        have hafter : ∀ u ∈ t :: ts, w ≤ u.span.start := by
          intro u hu
          rcases List.mem_cons.mp hu with rfl | hu
          · exact hstart
          · exact Nat.le_trans hstart ((List.pairwise_cons.mp h.sorted).1 u hu)
        have hclosed : ts.find? Token.isUnclosed = none := by
          rw [List.find?_eq_none]
          intro u hu hopen
          have hu' := List.mem_cons_of_mem t hu
          exact Nat.not_lt.mpr (hafter u hu') (h.unclosed u hu' hopen)
        have hfilter : (t :: ts).filter (·.span.start < w) = [] := by
          rw [List.filter_eq_nil_iff]
          intro u hu
          simpa using hafter u hu
        rw [hclosed, hfilter, if_pos (by simp [hstart])]
        rfl
      · have hne : t.kind ≠ .eof := fun hkind => hstart (h.eof t List.mem_cons_self hkind)
        rw [if_neg (by simp [hstart, hne]), ih h.tail, List.filter_cons_of_pos (by simpa using hstart)]
        rfl

/-- **A field at the cursor**: the literal that is left open is a string between
quotes, the word begins right behind the opening one, and the tokens before the
string end inside the arguments of a call. -/
structure IsField (literal : Token) (ks : List TokenKind) (w : Nat) (typed : List Char)
    (c : Context) : Prop where
  quoted : ∃ value quote, literal.kind = .string value quote false ∧ (quote = '"' ∨ quote = '\'') ∧
    w = literal.span.start + quote.utf8Size
  inside : ∃ bs, IsInside bs ks
  /-- A dollar sign makes a reference of the field, and is no part of its
  name. -/
  context : (∃ name, typed = '$' :: name ∧ c = ⟨.field true, name⟩) ∨
    typed.head? ≠ some '$' ∧ c = ⟨.field false, typed⟩

/-- In a literal that is left open there is something to complete iff the schema
is known and the cursor is in the name of a field. -/
theorem literalContext?_walk_eq_some_iff {ks : List TokenKind} (hks : .eof ∉ ks) {literal : Token}
    (hopen : literal.isUnclosed = true) (c : Context) :
    (Machine.walk {} ks).literalContext? literal w typed hasSchema = some c ↔
      hasSchema = true ∧ IsField literal ks w typed c := by
  have hinside : (Machine.walk {} ks).position = .inside ↔ ∃ bs, IsInside bs ks :=
    ⟨exists_isInside hks, fun ⟨_, h⟩ => ((isInside_iff hks).mp h).1⟩
  unfold Machine.literalContext?
  split
  · next value quote closed hkind =>
    have hclosed : closed = false := by
      rw [Token.isUnclosed, hkind] at hopen
      simpa [TokenKind.isUnclosed] using hopen
    cases hclosed
    have hguard : (hasSchema && (quote == '"' || quote == '\'') &&
        w == literal.span.start + quote.utf8Size &&
        decide ((Machine.walk {} ks).position = .inside)) = true ↔
        hasSchema = true ∧ (quote = '"' ∨ quote = '\'') ∧ w = literal.span.start + quote.utf8Size ∧
          ∃ bs, IsInside bs ks := by
      simp only [Bool.and_eq_true, Bool.or_eq_true, beq_iff_eq, decide_eq_true_iff, hinside, and_assoc]
    constructor
    · intro h
      split at h
      · next hif =>
        obtain ⟨hschema, hquote, hw, hinside⟩ := hguard.mp hif
        refine ⟨hschema, ⟨value, quote, hkind, hquote, hw⟩, hinside, ?_⟩
        split at h
        · next name =>
          cases h
          exact .inl ⟨name, rfl, rfl⟩
        · next hdollar =>
          cases h
          refine .inr ⟨fun hhead => ?_, rfl⟩
          obtain ⟨name, rfl⟩ := List.head?_eq_some_iff.mp hhead
          exact hdollar name rfl
      · cases h
    · rintro ⟨hschema, ⟨value', quote', h, hquote, hw⟩, hinside, hcontext⟩
      cases hkind.symm.trans h
      rw [if_pos (hguard.mpr ⟨hschema, hquote, hw, hinside⟩)]
      rcases hcontext with ⟨name, rfl, rfl⟩ | ⟨hdollar, rfl⟩
      · rfl
      · split
        · exact absurd rfl hdollar
        · rfl
  · next hkind =>
    constructor
    · intro h
      cases h
    · rintro ⟨-, ⟨value, quote, h, -⟩, -, -⟩
      exact absurd h (hkind value quote false)

/-- **The context of a cursor is its position in the grammar.** Outside all
literals it is the slot that fits the tokens before the word. In a literal that
is left open it is a field, if there is a schema. -/
theorem contextOf_eq_some_iff (text : List Char) (cursor : Nat) (hasSchema : Bool) (c : Context) :
    let ts := tokensBefore text cursor
    let w := (wordRange text cursor).start
    let typed := typedAt text cursor
    contextOf (takeBytes cursor text) hasSchema = some c ↔
      match ts.find? Token.isUnclosed with
      | none => typed = c.typed ∧ Fits ((ts.filter (·.span.start < w)).map Token.kind) typed c.slot
      | some literal => hasSchema = true ∧
        IsField literal ((ts.takeWhile (!·.isUnclosed)).map Token.kind) w typed c := by
  intro ts w typed
  have hcut : CutsAt w ts := cutsAt_word (takeBytes cursor text)
  have hwalk : contextOf (takeBytes cursor text) hasSchema =
      contextOfTokens w typed hasSchema {} ts := by
    rw [show typed = wordBefore (takeBytes cursor text) from typedAt_eq text cursor]
    rfl
  rw [hwalk, contextOfTokens_eq hcut]
  cases hfind : ts.find? Token.isUnclosed with
  | none => exact context?_walk_eq_some_iff hcut.eof_not_mem_filter typed c
  | some literal =>
    exact literalContext?_walk_eq_some_iff (hcut.eof_not_mem_takeWhile hfind) (List.find?_some hfind) c

end Completion

end QueryShell
