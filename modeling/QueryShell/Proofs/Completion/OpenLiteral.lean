import QueryShell.Proofs.Completion.Insertion
import QueryShell.Proofs.Token.Tiling
import QueryShell.Proofs.Token.Unclosed

/-!
# Cursors inside a literal

The tokens before a cursor are those of the text cut at the cursor, and a
literal that is left open among them ends the walk along them. It is taken for
the literal that the cursor stands in, and it is that literal in all cases but
one: what the cut leaves open goes on behind the cursor, or to the end of the
text. The exception is a regular expression that a line break cuts off. It is
left open too, but the cursor stands on a later line, outside of it, and nothing
is completed there.

## Main statements

* `exists_encloses`: the literal of the text that the cursor stands in.
* `unclosed_is_last`: which literals that are left open are the last thing in
  their text.
-/

namespace QueryShell.Completion

open Text

variable {text : List Char} {cursor : Nat} {literal : Token}

/-- Nothing is completed behind a regular expression that is left open. -/
theorem contextOf_of_isCutOff (hfind : (tokensBefore text cursor).find? Token.isUnclosed = some literal)
    (hcut : literal.IsCutOff (takeBytes cursor text)) (hasSchema : Bool) :
    contextOf (takeBytes cursor text) hasSchema = none := by
  obtain ⟨pattern, flags, hkind⟩ := hcut.1
  rw [contextOf_takeBytes, hfind]
  simp only [Machine.literalContext?, hkind]

/-- **The cut of a text leaves a literal open at the cursor**, unless the
literal is cut off before. A literal that is not cut off takes all of the text
before the cursor, and one that is has ended at its line break. -/
theorem encloses_iff (hfind : (tokensBefore text cursor).find? Token.isUnclosed = some literal) :
    literal.Encloses (clamp cursor text) ↔ ¬literal.IsCutOff (takeBytes cursor text) := by
  have hopen : literal.isUnclosed = true := List.find?_some hfind
  have hmem : literal ∈ Token.tokenizeFrom 0 true (takeBytes cursor text) :=
    List.mem_of_find?_eq_some hfind
  constructor
  · rintro ⟨-, hreach⟩ hcut
    -- the text goes on behind the literal, but not behind the cursor
    obtain ⟨a, b, hab, hstop⟩ := Token.exists_stop_of_mem hmem
    have hle := congrArg byteLength hab
    rw [byteLength_append] at hle
    have hne := hcut.stop_ne
    rw [clamp] at hreach
    omega
  · intro hcut
    obtain ⟨ts, us, htokens⟩ := List.append_of_mem hmem
    have hend := (Token.endsText_iff htokens hopen).mpr hcut
    refine ⟨?_, .inr ⟨hend.stop_eq.symm, hopen⟩⟩
    rw [clamp, ← hend.stop_eq]
    exact Token.start_lt_stop hmem (Token.kind_ne_eof_of_isUnclosed hopen)

/-- **The literal that the cursor stands in**: it begins where the literal
begins that the cut leaves open, and it reaches the cursor. It may well be
closed in the whole text, and then it is closed behind the cursor. -/
theorem exists_encloses (hfind : (tokensBefore text cursor).find? Token.isUnclosed = some literal)
    (hcut : ¬literal.IsCutOff (takeBytes cursor text)) :
    ∃ t ∈ Token.tokenize text, t.span.start = literal.span.start ∧ t.Encloses (clamp cursor text) := by
  have hopen : literal.isUnclosed = true := List.find?_some hfind
  obtain ⟨ts, us, htokens⟩ := List.append_of_mem (List.mem_of_find?_eq_some hfind)
  have hend := (Token.endsText_iff htokens hopen).mpr hcut
  obtain ⟨front, c, rest, r, hbefore, hblank, rfl, hfront⟩ := Token.exists_front_of_find? hfind
  -- the literal takes all of the text before the cursor
  have hrest : (Lexeme.read r c rest).rest = [] := by
    have hlen := Lexeme.add_byteLength_rest (byteLength front) r c rest
    have hstop := hend.stop_eq
    rw [hbefore, byteLength_append] at hstop
    dsimp only at hstop
    exact byteLength_eq_zero_iff.mp (by omega)
  have htext : text = front ++ c :: (rest ++ dropBytes cursor text) := by
    rw [← List.cons_append, ← List.append_assoc, ← hbefore, takeBytes_append_dropBytes]
  obtain ⟨ts', htokens'⟩ := hfront (rest ++ dropBytes cursor text)
  rw [Token.tokenizeFrom_cons hblank, ← htext] at htokens'
  have hreach := Lexeme.encloses_append hopen hrest (byteLength front) (dropBytes cursor text)
  have hclamp : clamp cursor text = byteLength front + byteLength (c :: rest) := by
    rw [clamp, hbefore, byteLength_append]
  rw [← hclamp] at hreach
  refine ⟨_, ?_, ?_, hreach⟩
  · rw [htokens']
    exact List.mem_append_right ts' List.mem_cons_self
  · rfl

/-- **A literal that is left open is the last thing in its text**, unless it is
a regular expression that a line break cuts off. All that is not the last one in
its text has been cut off so. Where the tokens before a cursor hold a literal
that is left open, the cursor stands in it, with the same exception, and it
stands in the literal of the whole text that begins there. Behind one that is
cut off nothing is completed. -/
theorem unclosed_is_last (s : List Char) :
    (∀ ts t us, Token.tokenize s = ts ++ t :: us → t.isUnclosed = true →
      (t.EndsText s us ↔ ¬t.IsCutOff s) ∧ ∀ u ∈ ts, u.isUnclosed = true → u.IsCutOff s) ∧
    ∀ cursor literal, (tokensBefore s cursor).find? Token.isUnclosed = some literal →
      (literal.Encloses (clamp cursor s) ↔ ¬literal.IsCutOff (takeBytes cursor s)) ∧
      (¬literal.IsCutOff (takeBytes cursor s) →
        ∃ t ∈ Token.tokenize s, t.span.start = literal.span.start ∧ t.Encloses (clamp cursor s)) ∧
      (literal.IsCutOff (takeBytes cursor s) →
        ∀ hasSchema, contextOf (takeBytes cursor s) hasSchema = none) := by
  refine ⟨fun ts t us h ht => ⟨Token.endsText_iff h ht, fun u hu hopen => ?_⟩,
    fun cursor literal hfind => ⟨encloses_iff hfind, exists_encloses hfind, contextOf_of_isCutOff hfind⟩⟩
  exact Token.isCutOff_of_mem h ht hu hopen

/-- A string is left open in the second line, behind a regular expression that
the first line cuts off. A cursor at the end of the first line stands in the
regular expression, one at the end of the text does not. -/
theorem unclosed_is_last_second_line :
    (Token.tokenize "/a\n'b".toList =
        [⟨.regex "a" "" false, ⟨0, 2⟩⟩] ++ ⟨.string "b" '\'' false, ⟨3, 5⟩⟩ :: [⟨.eof, ⟨5, 5⟩⟩] ∧
      Token.EndsText "/a\n'b".toList ⟨.string "b" '\'' false, ⟨3, 5⟩⟩ [⟨.eof, ⟨5, 5⟩⟩] ∧
      Token.IsCutOff "/a\n'b".toList ⟨.regex "a" "" false, ⟨0, 2⟩⟩) ∧
    ((tokensBefore "/a\n'b".toList 2).find? Token.isUnclosed = some ⟨.regex "a" "" false, ⟨0, 2⟩⟩ ∧
      ∃ t ∈ Token.tokenize "/a\n'b".toList, t.span.start = 0 ∧ t.Encloses (clamp 2 "/a\n'b".toList)) ∧
    ((tokensBefore "/a\n'b".toList 5).find? Token.isUnclosed = some ⟨.regex "a" "" false, ⟨0, 2⟩⟩ ∧
      ¬Token.Encloses ⟨.regex "a" "" false, ⟨0, 2⟩⟩ (clamp 5 "/a\n'b".toList) ∧
      contextOf (takeBytes 5 "/a\n'b".toList) true = none) := by
  obtain ⟨hlast, hcursor⟩ := unclosed_is_last "/a\n'b".toList
  have htokens : Token.tokenize "/a\n'b".toList =
      [⟨.regex "a" "" false, ⟨0, 2⟩⟩] ++ ⟨.string "b" '\'' false, ⟨3, 5⟩⟩ :: [⟨.eof, ⟨5, 5⟩⟩] := by cbv
  obtain ⟨hend, hbefore⟩ := hlast _ _ _ htokens rfl
  have hcut := hbefore _ List.mem_cons_self rfl
  have hfirst : (tokensBefore "/a\n'b".toList 2).find? Token.isUnclosed =
      some ⟨.regex "a" "" false, ⟨0, 2⟩⟩ := by cbv
  have hsecond : (tokensBefore "/a\n'b".toList 5).find? Token.isUnclosed =
      some ⟨.regex "a" "" false, ⟨0, 2⟩⟩ := by cbv
  refine ⟨⟨htokens, hend.mpr ?_, hcut⟩, ⟨hfirst, (hcursor 2 _ hfirst).2.1 ?_⟩, hsecond, ?_,
    (hcursor 5 _ hsecond).2.2 hcut true⟩
  · rintro ⟨⟨_, _, hregex⟩, -⟩
    cases hregex
  · rintro ⟨-, hbreak⟩
    revert hbreak
    decide
  · exact fun hreach => (hcursor 5 _ hsecond).1.mp hreach hcut

/-- A literal that is left open in front of another token. -/
theorem not_unclosed_is_last :
    ¬∀ (s : List Char) (ts us : List Token) (t : Token),
      Token.tokenize s = ts ++ t :: us → t.isUnclosed = true → t.EndsText s us := by
  intro h
  have htokens : Token.tokenize "/a\nb".toList =
      [] ++ ⟨.regex "a" "" false, ⟨0, 2⟩⟩ :: [⟨.ident "b", ⟨3, 4⟩⟩, ⟨.eof, ⟨4, 4⟩⟩] := by cbv
  have hend := (h _ _ _ _ htokens rfl).stop_eq
  revert hend
  decide

end QueryShell.Completion
