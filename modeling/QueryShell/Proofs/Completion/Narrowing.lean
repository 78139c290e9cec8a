import QueryShell.Proofs.Completion.Ranking
import QueryShell.Proofs.Text.LowerCase

/-!
# Typing further

What is typed narrows what is offered. A label that begins with a text begins
with each beginning of that text, and where case counts no more is needed. Where
it is ignored the lower-case forms are compared, and these are not made
character by character: a capital sigma that ends what has been typed so far has
another form once the word goes on (`Text.WordGoesOn`). A candidate that fits
the longer text without regard to case is then not offered for the shorter one,
though its label begins with that too if case is ignored.

## Main statements

* `Completion.mem_candidates_of_longer`: which candidates for the longer text
  were offered before.
* `Completion.not_offered_before`: a candidate that was not.
-/

namespace QueryShell.Completion

open Text

variable {e : Completer} {schema : Option Schema} {slot : Slot} {p r : List Char} {x : Candidate}

/-- A label begins with what was typed up to case iff the one lowered text
begins with the other. -/
theorem beginsFolded_iff {typed : List Char} {label : String} :
    BeginsFolded typed label ↔ lowerFrom [] typed <+: (lower label).toList := by
  rw [BeginsFolded, lower, String.toList_ofList, String.toList_ofList]

/-- A label that begins with a text, case ignored, begins with a beginning of it
if no word goes on. -/
theorem BeginsFolded.of_append {label : String} (h : BeginsFolded (p ++ r) label)
    (hp : ¬WordGoesOn [] p r) : BeginsFolded p label :=
  beginsFolded_iff.mpr ((lowerFrom_isPrefix [] hp).trans (beginsFolded_iff.mp h))

/-- If a word goes on, no label begins with both, case ignored. -/
theorem BeginsFolded.not_of_append {label : String} (h : BeginsFolded (p ++ r) label)
    (hp : WordGoesOn [] p r) : ¬BeginsFolded p label := by
  intro hshort
  obtain ⟨w, u, v, hw, hw'⟩ := exists_lowerFrom_of_wordGoesOn hp
  obtain ⟨s, hs⟩ := beginsFolded_iff.mp hshort
  obtain ⟨t, ht⟩ := beginsFolded_iff.mp h
  rw [hw, List.append_assoc] at hs
  rw [hw', List.append_assoc, ← hs, List.append_cancel_left_eq] at ht
  exact absurd (List.cons.inj ht).1 (by decide)

/-- **Typing further only narrows**, but for one case. A candidate for a longer
text is also one for a beginning of that text, unless the beginning ends in a
capital sigma of a word that goes on and the label begins with it only if case
is ignored. -/
theorem mem_candidates_of_longer (h : x ∈ e.candidates schema ⟨slot, p ++ r⟩) :
    x ∈ e.candidates schema ⟨slot, p⟩ ↔ p <+: x.label.toList ∨ ¬WordGoesOn [] p r := by
  obtain ⟨hx, hfit⟩ := Candidate.mem_ranked_iff.mp h
  rw [Completer.candidates, Candidate.mem_ranked_iff, and_iff_right hx]
  rcases hfit with hlabel | hfolded
  · have hp : p <+: x.label.toList := (List.prefix_append p r).trans hlabel
    exact iff_of_true (.inl hp) (.inl hp)
  · exact or_congr_right ⟨fun hp hgoes => hfolded.not_of_append hgoes hp, hfolded.of_append⟩

/-- A label with a capital is offered for `order`, so that it is offered for
`or` as well. Case is ignored both times. -/
theorem mem_candidates_of_longer_orders :
    let e := Completer.ofCollections ["Orders", "orderItems", "logs"]
    .ofCollection "Orders" ∈ e.candidates none ⟨.collection, "or".toList ++ "der".toList⟩ ∧
      .ofCollection "Orders" ∈ e.candidates none ⟨.collection, "or".toList⟩ := by
  intro e
  have hlong : .ofCollection "Orders" ∈
      e.candidates none ⟨.collection, "or".toList ++ "der".toList⟩ :=
    Candidate.mem_ranked_iff.mpr ⟨by decide, by decide +kernel⟩
  have hsigma : ¬WordGoesOn [] "or".toList "der".toList := by
    rintro ⟨a, b, hab, -⟩
    have hmem : 'Σ' ∈ "or".toList := hab ▸ List.mem_append_right a List.mem_cons_self
    exact absurd hmem (by decide)
  exact ⟨hlong, (mem_candidates_of_longer hlong).mpr (.inr hsigma)⟩

/-- **A candidate that was not offered before**: it is offered for what has been
typed in the end, and the label begins with what had been typed before if case
is ignored. -/
theorem not_offered_before :
    let e := Completer.ofCollections ["ασα"]
    e.candidates none ⟨.collection, "αΣΑ".toList⟩ = [.ofCollection "ασα"] ∧
      "αΣ".toList <+: "αΣΑ".toList ∧ e.candidates none ⟨.collection, "αΣ".toList⟩ = [] := by
  decide +kernel

end QueryShell.Completion
