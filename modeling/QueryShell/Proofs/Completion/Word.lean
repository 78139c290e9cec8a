import Mathlib.Order.Bounds.Defs
import QueryShell.Completion.Suggestion
import QueryShell.Proofs.Completion.Cursor

/-!
# The word that a suggestion replaces

A suggestion replaces the word that the cursor touches: the characters of a word
right before the cursor and those right behind it. The word does not depend
on where in it the cursor stands. A text is cut at the cursor, and the two runs
that are found on both sides of the cut are put together again, so every cut of
one word finds the same range (`IsWord.wordRange_eq`).

What is suggested depends on less than what is replaced: nothing behind the
cursor is looked at for it.

## Main statements

* `Completion.isWord_wordRange`: what is replaced is a whole word.
* `Completion.IsWord.wordRange_eq`: it is the same word for each cursor that
  touches it.
* `Completion.complete_replaces_word`: both, for the suggestions at any cursor.
-/

namespace QueryShell.Completion

open Text

/-- **A word of a text**: a range without characters that do not belong to a
word, which cannot be extended on either side. It may be empty. -/
def IsWord (text : List Char) (s : Span) : Prop :=
  ∃ a w b, text = a ++ (w ++ b) ∧ s = ⟨byteLength a, byteLength a + byteLength w⟩ ∧
    (∀ c ∈ w, isAlphanumeric c = true ∨ c = '_' ∨ c = '$') ∧
    HeadNot Lexeme.isWordChar a.reverse ∧ HeadNot Lexeme.isWordChar b

/-- The characters of a word are letters and digits of any script, the
underscore and the dollar sign. -/
theorem isWordChar_iff {c : Char} :
    Lexeme.isWordChar c = true ↔ isAlphanumeric c = true ∨ c = '_' ∨ c = '$' := by
  simp [Lexeme.isWordChar, or_assoc]

/-! ### The runs on both sides of the cursor -/

section

variable {a u : List Char} (hu : ∀ c ∈ u, Lexeme.isWordChar c = true)
include hu

/-- Behind a character that is in no word, the word before the cursor is what
was typed since. -/
theorem wordBefore_append (ha : HeadNot Lexeme.isWordChar a.reverse) : wordBefore (a ++ u) = u := by
  have hback : ∀ c ∈ u.reverse, Lexeme.isWordChar c = true := fun c hc => hu c (List.mem_reverse.mp hc)
  rw [wordBefore, List.reverse_append, List.takeWhile_append_of_pos hback, takeWhile_of_headNot ha,
    List.append_nil, List.reverse_reverse]

/-- The word after the cursor ends at the first character that is in no word. -/
theorem wordAfter_append (ha : HeadNot Lexeme.isWordChar a) : wordAfter (u ++ a) = u := by
  rw [wordAfter, List.takeWhile_append_of_pos hu, takeWhile_of_headNot ha, List.append_nil]

end

/-- The range of a word, seen from a cut inside it. -/
theorem wordRange_append {a u v b : List Char} (hu : ∀ c ∈ u, Lexeme.isWordChar c = true)
    (hv : ∀ c ∈ v, Lexeme.isWordChar c = true) (ha : HeadNot Lexeme.isWordChar a.reverse)
    (hb : HeadNot Lexeme.isWordChar b) :
    wordRange ((a ++ u) ++ (v ++ b)) (byteLength (a ++ u)) =
      ⟨byteLength a, byteLength a + byteLength (u ++ v)⟩ := by
  rw [wordRange, takeBytes_byteLength, dropBytes_byteLength, wordBefore_append hu ha,
    wordAfter_append hv hb, byteLength_append, byteLength_append, Nat.add_sub_cancel, Nat.add_assoc]

/-! ### The word under the cursor -/

/-- **What is replaced is a whole word**, with the cursor inside it or at one of
its ends. The word may be empty, between two characters that are in no word. -/
theorem isWord_wordRange (text : List Char) (cursor : Nat) :
    IsWord text (wordRange text cursor) ∧ (wordRange text cursor).start ≤ clamp cursor text ∧
      clamp cursor text ≤ (wordRange text cursor).stop := by
  obtain ⟨a, ha, hword, hfront⟩ := exists_eq_append_wordBefore (takeBytes cursor text)
  have hlen := congrArg byteLength ha
  rw [byteLength_append] at hlen
  refine ⟨⟨a, wordBefore (takeBytes cursor text) ++ wordAfter (dropBytes cursor text),
    (dropBytes cursor text).dropWhile Lexeme.isWordChar, ?_, ?_, ?_, hfront, headNot_dropWhile _ _⟩,
    Nat.sub_le _ _, Nat.le_add_right _ _⟩
  · rw [wordAfter, List.append_assoc, List.takeWhile_append_dropWhile, ← List.append_assoc, ← ha,
      takeBytes_append_dropBytes]
  · rw [wordRange, byteLength_sub_wordBefore ha, byteLength_append, ← Nat.add_assoc, ← hlen]
  · have hafter : ∀ c ∈ wordAfter (dropBytes cursor text), Lexeme.isWordChar c = true :=
      List.all_eq_true.mp List.all_takeWhile
    exact fun c hc => isWordChar_iff.mp ((List.mem_append.mp hc).elim (hword c) (hafter c))

/-- **A word is found from wherever in it the cursor stands.** So a word has one
range, and moving the cursor inside it moves nothing else. -/
theorem IsWord.wordRange_eq {text : List Char} {s : Span} (h : IsWord text s) {n : Nat}
    (hn : IsBoundary n text) (hstart : s.start ≤ n) (hstop : n ≤ s.stop) : wordRange text n = s := by
  obtain ⟨a, w, b, htext, rfl, hw, ha, hb⟩ := h
  obtain ⟨x, y, rfl, rfl⟩ := hn
  -- the cut is behind what is in front of the word, and then in front of what is behind it
  obtain ⟨u, rfl, hy⟩ := exists_eq_append_of_byteLength_le htext hstart
  rw [byteLength_append] at hstop
  obtain ⟨v, rfl, rfl⟩ := exists_eq_append_of_byteLength_le hy (Nat.le_of_add_le_add_left hstop)
  have hchars := fun c hc => isWordChar_iff.mpr (hw c hc)
  exact wordRange_append (fun c hc => hchars c (List.mem_append_left v hc))
    (fun c hc => hchars c (List.mem_append_right u hc)) ha hb

/-! ### Cursors and texts that come to the same -/

/-- The greatest boundary that is not behind an offset. -/
theorem isGreatest_clamp (n : Nat) (cs : List Char) :
    IsGreatest {m | IsBoundary m cs ∧ m ≤ n} (clamp n cs) :=
  ⟨⟨isBoundary_clamp n cs, byteLength_takeBytes_le n cs⟩, fun _ hm => hm.1.le_clamp hm.2⟩

/-- A cursor inside a character, or behind the text, counts as if it stood at
the boundary before. -/
theorem complete_clamp (e : Completer) (text : List Char) (cursor : Nat) (schema : Option Schema) :
    e.complete text (clamp cursor text) schema = e.complete text cursor schema := by
  rw [Completer.complete, Completer.complete, takeBytes_clamp, wordRange_clamp]

/-- **Nothing behind the cursor is looked at** to find what is suggested. Only
the range of the word, which is what a suggestion replaces, reaches behind
it. -/
theorem map_candidate_complete_congr (e : Completer) {text other : List Char} {cursor n : Nat}
    (schema : Option Schema) (h : takeBytes n other = takeBytes cursor text) :
    (e.complete other n schema).map Suggestion.candidate =
      (e.complete text cursor schema).map Suggestion.candidate := by
  rw [Completer.map_candidate_complete, Completer.map_candidate_complete, h]

/-- **A suggestion replaces the word that the cursor touches**, all of it and
nothing else, from wherever in the word the cursor stands; and what is suggested
does not depend on the text behind the cursor. -/
theorem complete_replaces_word (e : Completer) (text : List Char) (cursor : Nat)
    (schema : Option Schema) :
    let r := wordRange text cursor
    (∀ s ∈ e.complete text cursor schema, s.range = r) ∧
    IsWord text r ∧ r.start ≤ clamp cursor text ∧ clamp cursor text ≤ r.stop ∧
    (∀ n, IsBoundary n text → r.start ≤ n → n ≤ r.stop → wordRange text n = r) ∧
    (IsGreatest {n | IsBoundary n text ∧ n ≤ cursor} (clamp cursor text) ∧
      wordRange text (clamp cursor text) = r ∧
      e.complete text (clamp cursor text) schema = e.complete text cursor schema) ∧
    ∀ behind, (e.complete (takeBytes cursor text ++ behind) (clamp cursor text) schema).map
        Suggestion.candidate = (e.complete text cursor schema).map Suggestion.candidate := by
  intro r
  obtain ⟨hword, hstart, hstop⟩ := isWord_wordRange text cursor
  exact ⟨fun s hs => e.range_eq_of_mem_complete text cursor schema hs, hword, hstart, hstop,
    fun n hn => hword.wordRange_eq hn,
    ⟨isGreatest_clamp cursor text, wordRange_clamp text cursor, complete_clamp e text cursor schema⟩,
    fun behind => map_candidate_complete_congr e schema (takeBytes_byteLength _ behind)⟩

/-- The cursor stands between the two bytes of the last letter. The range covers
the whole word all the same, as it does from the place behind the first
letter. -/
theorem complete_replaces_word_accented :
    ⟨.ofCollection "cafés", ⟨3, 8⟩⟩ ∈ (Completer.ofCollections ["cafés"]).complete "db.café".toList 7 none ∧
      IsBoundary 4 "db.café".toList ∧ wordRange "db.café".toList 7 = ⟨3, 8⟩ ∧
      wordRange "db.café".toList 4 = ⟨3, 8⟩ := by
  have hmem : ⟨.ofCollection "cafés", ⟨3, 8⟩⟩ ∈
      (Completer.ofCollections ["cafés"]).complete "db.café".toList 7 none := by
    decide +kernel
  have hboundary : IsBoundary 4 "db.café".toList := by decide
  obtain ⟨hrange, -, -, -, hsame, -⟩ :=
    complete_replaces_word (Completer.ofCollections ["cafés"]) "db.café".toList 7 none
  have hword : wordRange "db.café".toList 7 = ⟨3, 8⟩ := (hrange _ hmem).symm
  rw [hword] at hsame
  exact ⟨hmem, hboundary, hword, hsame 4 hboundary (by decide) (by decide)⟩

end QueryShell.Completion
