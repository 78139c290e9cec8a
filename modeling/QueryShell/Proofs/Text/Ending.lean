import QueryShell.Proofs.Token.Scan
import QueryShell.Text.Blank

/-!
# Ends of a text

`Text.dropEndWhile` takes the characters of one kind off the end of a text. What
is left ends with another character, and what was taken away can be put back.
-/

namespace QueryShell.Text

variable {p : Char → Bool} {cs t : List Char}

/-- **A text is what is left of it and what was taken off its end.** All that
was taken off has the property. -/
theorem dropEndWhile_append_rest (p : Char → Bool) (cs : List Char) :
    ∃ t, cs = dropEndWhile p cs ++ t ∧ ∀ c ∈ t, p c = true := by
  refine ⟨(cs.reverse.takeWhile p).reverse, ?_, fun c hc => ?_⟩
  · rw [dropEndWhile, ← List.reverse_append, List.takeWhile_append_dropWhile, List.reverse_reverse]
  · exact List.all_eq_true.mp List.all_takeWhile c (List.mem_reverse.mp hc)

/-- What is left does not end with a character of the kind that is taken off. -/
theorem getLast?_dropEndWhile {c : Char} (h : (dropEndWhile p cs).getLast? = some c) : p c = false := by
  rw [dropEndWhile, List.getLast?_reverse] at h
  exact headNot_dropWhile p cs.reverse c h

/-- Characters that are taken off anyway may be there or not. -/
theorem dropEndWhile_append_of_all (ht : ∀ c ∈ t, p c = true) (cs : List Char) :
    dropEndWhile p (cs ++ t) = dropEndWhile p cs := by
  have ht' : ∀ c ∈ t.reverse, p c = true := fun c hc => ht c (List.mem_reverse.mp hc)
  rw [dropEndWhile, List.reverse_append, List.dropWhile_append_of_pos ht']
  rfl

/-- From a text that does not end with such a character nothing is taken off. -/
theorem dropEndWhile_of_headNot (h : HeadNot p cs.reverse) : dropEndWhile p cs = cs := by
  rw [dropEndWhile, dropWhile_of_headNot h, List.reverse_reverse]

/-- Taking off stops within the last part of a text unless all of that part
goes. -/
theorem dropEndWhile_append (p : Char → Bool) (cs t : List Char) : dropEndWhile p (cs ++ t) =
    if dropEndWhile p t = [] then dropEndWhile p cs else cs ++ dropEndWhile p t := by
  simp only [dropEndWhile, List.reverse_append, List.dropWhile_append, List.reverse_eq_nil_iff,
    List.isEmpty_iff]
  split
  · rfl
  · rw [List.reverse_append, List.reverse_reverse]

end QueryShell.Text
