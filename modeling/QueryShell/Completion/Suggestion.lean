import QueryShell.Completion.Candidate

/-!
# Suggestions

`Completer.complete` answers a cursor in a text with candidates for the word
that it touches. It answers every text: where nothing can be completed the list
is empty.

## Main statements

* `Completer.range_eq_of_mem_complete`: all suggestions are for the word that
  the cursor touches.
* `Completer.map_candidate_complete`: what is suggested depends on the text
  before the cursor only.
-/

namespace QueryShell.Completion

/-- A candidate and the bytes of the text that it replaces. -/
structure Suggestion where
  candidate : Candidate
  range : Span
deriving DecidableEq, Repr

/-- What suggestions are made from. -/
structure Completer where
  /-- The names of the collections, without repetition. -/
  collections : List String
  /-- How many suggestions are made at most. -/
  maxSuggestions : Nat := 50
deriving Repr

namespace Completer

/-- A completer that knows the given collections; repeated ones are dropped. -/
def ofCollections (names : List String) : Completer :=
  { collections := firstSeen names }

/-- The candidates for a context, the better ones first. -/
def candidates (e : Completer) (schema : Option Schema) (c : Context) : List Candidate :=
  Candidate.ranked c.typed (Candidate.forSlot e.collections schema c.slot)

/-- The suggestions at a cursor. -/
def complete (e : Completer) (text : List Char) (cursor : Nat) (schema : Option Schema) :
    List Suggestion :=
  let range := wordRange text cursor
  match contextOf (Text.takeBytes cursor text) schema.isSome with
  | none => []
  | some c =>
    ((e.candidates schema c).take e.maxSuggestions).map fun candidate => ⟨candidate, range⟩

variable (e : Completer) (text : List Char) (cursor : Nat) (schema : Option Schema)

theorem range_eq_of_mem_complete {s : Suggestion} (h : s ∈ e.complete text cursor schema) :
    s.range = wordRange text cursor := by
  unfold complete at h
  dsimp only at h
  split at h
  · cases h
  · obtain ⟨_, -, rfl⟩ := List.mem_map.mp h
    rfl

/-- The candidates that are suggested at a cursor. -/
theorem map_candidate_complete : (e.complete text cursor schema).map Suggestion.candidate =
    match contextOf (Text.takeBytes cursor text) schema.isSome with
    | none => []
    | some c => (e.candidates schema c).take e.maxSuggestions := by
  unfold complete
  dsimp only
  split
  · rfl
  · rw [List.map_map]
    exact List.map_id _

end Completer

end QueryShell.Completion
