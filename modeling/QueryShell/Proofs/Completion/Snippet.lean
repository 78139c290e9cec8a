import QueryShell.Proofs.Completion.Insertion

/-!
# Snippets without tab stops

The text of a suggestion is given to the editor as a snippet. In the tables of
suggestions a dollar sign opens a tab stop, as in `$1` and `${1:text}`, and a
dollar sign that stands for itself has a backslash before it. A name that comes
from the store is no snippet, and may have dollar signs, braces and backslashes
anywhere: at its end, in runs, or one before another. Read as it stands it could
stop the cursor in the middle of a name, or lose its backslashes.

`Snippet.pieces` reads a snippet as the editor does, and tells tab stops from
characters. What is suggested for a collection or a field has no tab stop, and
its characters are those of the name, with a dollar sign in front if the field
is a reference. The dollar sign of a reference is escaped by hand, and stands
before a text that is escaped on its own: taken together they are the dollar
sign and the path escaped at once.

## Main statements

* `Snippet.inserts_iff`: a snippet inserts just a text if that is the text that
  `Snippet.inserted?` finds.
* `Completion.candidates_insert`: what the suggestion of a collection or of a
  field inserts.
-/

namespace QueryShell

namespace Snippet

/-- What an editor can read in a snippet. -/
inductive Piece where
  /-- A character to insert. -/
  | char (c : Char)
  /-- A dollar sign that opens a tab stop. -/
  | stop
deriving DecidableEq, Repr

/-- The pieces of a snippet. A backslash before a special character stands for
that character, and for itself before any other one. What stands in a tab stop
is not told from what stands behind it. -/
def pieces : List Char → List Piece
  | [] => []
  | '\\' :: c :: cs => if isSpecial c then .char c :: pieces cs else .char '\\' :: pieces (c :: cs)
  | c :: cs => (if c = '$' then .stop else .char c) :: pieces cs

/-- **The snippet inserts the text and nothing else**: it has no tab stop, and
its characters are those of the text. The editor reads it, and escapes are
gone by then. -/
def Inserts (template text : List Char) : Prop :=
  pieces template = text.map .char

/-- A character more in the snippet is a character more in the text. -/
theorem char_cons_eq_iff {c : Char} {ps : List Piece} {o : Option (List Char)}
    (h : ∀ text, ps = text.map .char ↔ o = some text) (text : List Char) :
    .char c :: ps = text.map .char ↔ o.map (c :: ·) = some text := by
  cases text with
  | nil => simp
  | cons d text => simp [h, and_comm]

/-- The text that is found for a snippet is what it inserts, and none is found
if it has a tab stop. -/
theorem inserts_iff (template text : List Char) :
    Inserts template text ↔ inserted? template = some text := by
  unfold Inserts
  induction template using pieces.induct generalizing text with
  | case1 => simp [pieces, inserted?]
  | case2 c cs hc ih =>
    rw [pieces, if_pos hc, inserted?, if_pos hc]
    exact char_cons_eq_iff ih text
  | case3 c cs hc ih =>
    rw [pieces, if_neg hc, inserted?, if_neg hc]
    exact char_cons_eq_iff ih text
  | case4 c cs hne ih =>
    rw [pieces, inserted?]
    · by_cases hdollar : c = '$'
      · rw [if_pos hdollar, if_pos hdollar]
        cases text <;> simp
      · rw [if_neg hdollar, if_neg hdollar]
        exact char_cons_eq_iff ih text
    · exact hne
    · exact hne

/-- Read as it stands, this name would stop the cursor and lose a backslash. -/
example : pieces r"a$b\}".toList = [.char 'a', .stop, .char 'b', .char '}'] := by decide

end Snippet

namespace Completion

/-- **What is suggested for a collection or a field inserts its label and
nothing else**, behind a dollar sign if the field is a reference. -/
theorem candidates_insert (e : Completer) (schema : Option Schema) (c : Context) {x : Candidate}
    (h : x ∈ e.candidates schema c) :
    (x.category = .collection → Snippet.Inserts x.template.toList x.label.toList) ∧
    (x.category = .field → ∃ reference, c.slot = .field reference ∧
      Snippet.Inserts x.template.toList
        (if reference = true then '$' :: x.label.toList else x.label.toList)) := by
  simp only [Snippet.inserts_iff]
  rcases Candidate.forSlot_cases (Candidate.mem_ranked_iff.mp h).1 with
    ⟨-, name, rfl⟩ | ⟨reference, collection, path, hslot, rfl⟩ | ⟨hcollection, hfield⟩
  · refine ⟨fun _ => ?_, fun hfield => ?_⟩
    · rw [Candidate.ofCollection, String.toList_ofList]
      exact Snippet.inserted?_escape name.toList
    · cases hfield
  · refine ⟨fun hcollection => ?_, fun _ => ⟨reference, hslot, ?_⟩⟩
    · cases hcollection
    · exact Candidate.inserted?_ofField collection reference path
  · exact ⟨fun h => absurd h hcollection, fun h => absurd h hfield⟩

/-- The collection has backslashes before a dollar sign and at its end, and the
field is a reference. -/
theorem candidates_insert_backslashes :
    let e := Completer.ofCollections ["cost\\$\\"]
    let schema := Schema.ofFields "orders" [r"meta.$ref\}"]
    let name := Candidate.ofCollection "cost\\$\\"
    let path := Candidate.ofField "orders" true r"meta.$ref\}"
    (name ∈ e.candidates none ⟨.collection, "co".toList⟩ ∧ name.category = .collection ∧
      name.template = "cost\\\\\\$\\\\" ∧ Snippet.Inserts name.template.toList name.label.toList) ∧
    path ∈ e.candidates (some schema) ⟨.field true, "me".toList⟩ ∧ path.category = .field ∧
      path.template = r"\$meta.\$ref\\\}" ∧
      Snippet.Inserts path.template.toList ('$' :: path.label.toList) := by
  intro e schema name path
  have hname : name ∈ e.candidates none ⟨.collection, "co".toList⟩ :=
    Candidate.mem_ranked_iff.mpr ⟨by decide, .inl (by decide)⟩
  have hpath : path ∈ e.candidates (some schema) ⟨.field true, "me".toList⟩ :=
    Candidate.mem_ranked_iff.mpr ⟨by decide, .inl (by decide)⟩
  obtain ⟨reference, hslot, hinserts⟩ := (candidates_insert e (some schema) _ hpath).2 rfl
  cases hslot
  exact ⟨⟨hname, rfl, by decide, (candidates_insert e none _ hname).1 rfl⟩, hpath, rfl, by decide,
    hinserts⟩

end Completion

end QueryShell
