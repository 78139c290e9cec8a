import QueryShell.Completion.Suggestion
import QueryShell.Proofs.Checked.Query
import QueryShell.Proofs.Completion.Cursor
import QueryShell.Proofs.Literal.Faults

/-!
# Completion by position

A cursor is given in bytes, and may lie past the end of the text or inside a
character. It is moved onto a boundary first, one byte back at a time. The text
is then cut at the cursor and at the word that the cursor touches, whose first
byte comes from the last of its characters seen from the cursor.

Neither these cuts nor those of the readers ever fail, for any text and any
cursor (`readers_eq_some`).
-/

namespace QueryShell.Checked

open Text
open Completion (Completer Context Suggestion wordBefore wordAfter)

/-! ## The reader -/

/-- Goes back from an offset to a boundary. -/
def clampFrom (text : List Char) : Nat → Option Nat
  | 0 => if IsBoundary 0 text then some 0 else none
  | n + 1 => if IsBoundary (n + 1) text then some (n + 1) else clampFrom text n

/-- Moves a cursor into a text and onto a boundary. -/
def clamp (text : List Char) (cursor : Nat) : Option Nat :=
  clampFrom text (min cursor (byteLength text))

/-- The bytes of the word that the cursor touches. -/
def wordRange (text : List Char) (cursor : Nat) : Option Span := do
  let cursor ← clamp text cursor
  let before ← slice 0 cursor text
  let after ← slice cursor (byteLength text) text
  let word := (charIndices 0 before).reverse.takeWhile (Lexeme.isWordChar ·.2)
  return ⟨(word.getLast?.map Prod.fst).getD cursor, cursor + byteLength (wordAfter after)⟩

/-- The context of a cursor whose word begins at `wordStart`. -/
def contextAt (text : List Char) (cursor wordStart : Nat) (hasSchema : Bool) :
    Option (Option Context) := do
  let before ← slice 0 cursor text
  let typed ← slice wordStart (byteLength before) before
  return Completion.contextOfTokens wordStart typed hasSchema {} (Token.tokenize before)

/-- The suggestions at a cursor. -/
def complete (e : Completer) (text : List Char) (cursor : Nat) (schema : Option Schema) :
    Option (List Suggestion) := do
  let cursor ← clamp text cursor
  let range ← wordRange text cursor
  match ← contextAt text cursor range.start schema.isSome with
  | none => return []
  | some c =>
    let candidates := Completion.Candidate.ranked c.typed
      (Completion.Candidate.forSlot e.collections schema c.slot)
    return (candidates.take e.maxSuggestions).map fun candidate => ⟨candidate, range⟩

/-! ## The cursor -/

/-- **A boundary is found in any text**: going back one byte at a time from an
offset within the text ends at the latest at the beginning. -/
theorem clampFrom_eq (text : List Char) (n : Nat) :
    clampFrom text n = some (Text.clamp n text) := by
  induction n with
  | zero =>
    have h : IsBoundary 0 text := ⟨[], text, rfl, rfl⟩
    rw [clampFrom, if_pos h, isBoundary_iff.mp h]
  | succ n ih =>
    rw [clampFrom]
    split
    · next h => rw [isBoundary_iff.mp h]
    · next h =>
      have hle : Text.clamp (n + 1) text ≤ n + 1 := byteLength_takeBytes_le _ _
      have hne : Text.clamp (n + 1) text ≠ n + 1 := fun heq => h (isBoundary_iff.mpr heq)
      have hback : Text.clamp (n + 1) text ≤ Text.clamp n text :=
        (isBoundary_clamp (n + 1) text).le_clamp (by omega)
      have hforth : Text.clamp n text ≤ Text.clamp (n + 1) text :=
        (isBoundary_clamp n text).le_clamp (Nat.le_succ_of_le (byteLength_takeBytes_le n text))
      rw [ih, Nat.le_antisymm hback hforth]

/-- Going back to a boundary keeps the whole characters before the cursor. -/
theorem clamp_eq (text : List Char) (cursor : Nat) :
    clamp text cursor = some (byteLength (takeBytes cursor text)) := by
  have hmin : Text.clamp (min cursor (byteLength text)) text ≤ min cursor (byteLength text) :=
    byteLength_takeBytes_le _ _
  have hback : Text.clamp (min cursor (byteLength text)) text ≤ Text.clamp cursor text :=
    (isBoundary_clamp _ text).le_clamp (by omega)
  have hforth : Text.clamp cursor text ≤ Text.clamp (min cursor (byteLength text)) text :=
    (isBoundary_clamp cursor text).le_clamp
      (Nat.le_min.mpr ⟨byteLength_takeBytes_le cursor text, (isBoundary_clamp cursor text).le⟩)
  rw [clamp, clampFrom_eq, Nat.le_antisymm hback hforth]
  rfl

/-! ## The word under the cursor -/

/-- Without the offsets the characters of a text are left. -/
theorem map_snd_charIndices (offset : Nat) (cs : List Char) :
    (charIndices offset cs).map Prod.snd = cs := by
  induction cs generalizing offset with
  | nil => rfl
  | cons c cs ih => rw [charIndices, List.map_cons, ih]

/-- Where the run of characters with `p` begins at the end of a text. -/
theorem getLast?_takeWhile_charIndices {p : Char → Bool} {a w : List Char}
    (hw : ∀ c ∈ w, p c = true) (ha : HeadNot p a.reverse) :
    (((charIndices 0 (a ++ w)).reverse.takeWhile (p ·.2)).getLast?.map Prod.fst).getD
      (byteLength (a ++ w)) = byteLength a := by
  have hword : ∀ x ∈ (charIndices (byteLength a) w).reverse, p x.2 = true := by
    intro x hx
    refine hw x.2 ?_
    rw [← map_snd_charIndices (byteLength a) w]
    exact List.mem_map_of_mem (List.mem_reverse.mp hx)
  have hfront : (charIndices 0 a).reverse.takeWhile (p ·.2) = [] := by
    have hmap := takeWhile_of_headNot ha
    rw [← map_snd_charIndices 0 a, ← List.map_reverse, List.takeWhile_map] at hmap
    exact List.map_eq_nil_iff.mp hmap
  rw [charIndices_append, Nat.zero_add, List.reverse_append, List.takeWhile_append_of_pos hword,
    hfront, List.append_nil, List.getLast?_reverse]
  cases w with
  | nil => rw [List.append_nil]; rfl
  | cons c w => rfl

/-- Where the word at the end of a text begins. -/
theorem getLast?_word (before : List Char) :
    (((charIndices 0 before).reverse.takeWhile (Lexeme.isWordChar ·.2)).getLast?.map Prod.fst).getD
      (byteLength before) = byteLength before - byteLength (wordBefore before) := by
  have hsplit : (before.reverse.dropWhile Lexeme.isWordChar).reverse ++ wordBefore before = before := by
    rw [wordBefore, ← List.reverse_append, List.takeWhile_append_dropWhile, List.reverse_reverse]
  have hword : ∀ c ∈ wordBefore before, Lexeme.isWordChar c = true := fun c hc =>
    List.all_eq_true.mp List.all_takeWhile c (List.mem_reverse.mp hc)
  have hfront : HeadNot Lexeme.isWordChar
      (before.reverse.dropWhile Lexeme.isWordChar).reverse.reverse := by
    rw [List.reverse_reverse]
    exact headNot_dropWhile _ _
  have hlast := getLast?_takeWhile_charIndices hword hfront
  rw [hsplit] at hlast
  rw [hlast, Completion.byteLength_sub_wordBefore hsplit.symm]

/-- The word is found by its first byte. -/
theorem wordRange_eq (text : List Char) (cursor : Nat) :
    wordRange text cursor = some (Completion.wordRange text cursor) := by
  have hbefore := slice_prefix (takeBytes cursor text) (dropBytes cursor text)
  have hafter := slice_suffix (takeBytes cursor text) (dropBytes cursor text)
  rw [takeBytes_append_dropBytes] at hbefore hafter
  rw [wordRange, clamp_eq]
  simp only [Option.bind_eq_bind, Option.bind_some, hbefore, hafter, getLast?_word]
  rfl

/-! ## Suggestions -/

/-- What is typed before the cursor is cut out, and so the context is that of
the cursor. -/
theorem contextAt_eq (text : List Char) (cursor : Nat) (hasSchema : Bool) :
    contextAt text (byteLength (takeBytes cursor text)) (Completion.wordRange text cursor).start
      hasSchema = some (Completion.contextOf (takeBytes cursor text) hasSchema) := by
  have hbefore := slice_prefix (takeBytes cursor text) (dropBytes cursor text)
  rw [takeBytes_append_dropBytes] at hbefore
  obtain ⟨a, ha, -⟩ := Completion.exists_eq_append_wordBefore (takeBytes cursor text)
  have htyped := slice_suffix a (wordBefore (takeBytes cursor text))
  rw [← ha, ← Completion.byteLength_sub_wordBefore ha] at htyped
  rw [contextAt, Completion.wordRange]
  simp only [Option.bind_eq_bind, Option.bind_some, hbefore, htyped]
  rfl

/-- **Suggestions are found without failing**, wherever the cursor is: inside a
character, behind the text, or anywhere else. -/
theorem complete_eq (e : Completer) (text : List Char) (cursor : Nat) (schema : Option Schema) :
    complete e text cursor schema = some (e.complete text cursor schema) := by
  have hword := Completion.wordRange_clamp text cursor
  rw [Text.clamp] at hword
  rw [complete, clamp_eq]
  simp only [Option.bind_eq_bind, Option.bind_some, wordRange_eq, hword, contextAt_eq]
  rw [Completer.complete]
  cases Completion.contextOf (takeBytes cursor text) schema.isSome <;> rfl

/-! ## No condition fails -/

/-- **No condition ever fails**, neither in the readers of query texts and of
argument texts nor in completion. Nor is the fault of a numeral ever reported,
since a numeral that was scanned has a value. -/
theorem readers_eq_some :
    (∀ input, (parse input).run = some (Query.parse input)) ∧
    (∀ text, collection? text = some (Query.collection? text)) ∧
    (∀ text, (parseList text).run = some (Literal.parseList text)) ∧
    (∀ (e : Completer) (text : List Char) (cursor : Nat) (schema : Option Schema),
      complete e text cursor schema = some (e.complete text cursor schema)) ∧
    (∀ base text, ∀ t ∈ Token.tokenizeAt base text, ∀ numeral, t.kind = .number numeral →
      (Double.ofNumeral? numeral.toList).isSome) ∧
    ∀ base text numeral offset,
      Literal.listOfTokens (Token.tokenizeAt base text) ≠ .error (.numeral numeral, offset) := by
  refine ⟨parse_eq, collection?_eq, parseList_eq, complete_eq, fun base text t ht numeral hk => ?_,
    fun base text numeral offset h => ?_⟩
  · exact Literal.isSome_ofNumeral?_of_mem ht hk
  · obtain ⟨-, hnumeral⟩ := Literal.exists_of_listOfTokens_error h
    exact hnumeral numeral rfl

/-- A minus before a numeral with an exponent, behind a collection whose name is
not in ASCII: the numeral has a value, and the whole is read without failing. -/
theorem readers_eq_some_exponent :
    (⟨.number "1e+3", ⟨2, 6⟩⟩ : Token) ∈ Token.tokenizeAt 0 "[-1e+3".toList ∧
      (Double.ofNumeral? "1e+3".toList).isSome ∧
      (parse "db.é.find(-1e+3)").run = some (Query.parse "db.é.find(-1e+3)") := by
  have hmem : (⟨.number "1e+3", ⟨2, 6⟩⟩ : Token) ∈ Token.tokenizeAt 0 "[-1e+3".toList := by
    decide +kernel
  obtain ⟨hparse, -, -, -, hnumber, -⟩ := readers_eq_some
  exact ⟨hmem, hnumber 0 _ _ hmem _ rfl, hparse _⟩

end QueryShell.Checked
