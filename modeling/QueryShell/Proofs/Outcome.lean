/-!
# Outcomes of one step after another

Readers and planners are written as steps, each of which may fail, and the first
that fails decides the outcome. So a whole that succeeds has steps that succeed,
and a whole whose last step only builds on a value fails as its first step does.
-/

namespace QueryShell

variable {ε α β : Type} {x : Except ε α}

/-- A step behind another succeeds exactly if both do, the second with what the
first has given. -/
theorem bind_eq_ok {next : α → Except ε β} {b : β} :
    x >>= next = .ok b ↔ ∃ a, x = .ok a ∧ next a = .ok b := by
  cases x <;> simp [bind, Except.bind]

/-- A step that cannot fail is a function of the result. -/
theorem bind_ok_eq_map {f : α → β} : (x >>= fun a => .ok (f a)) = x.map f := by
  cases x <;> rfl

/-- The image of an outcome is a success exactly if the outcome is one. -/
theorem map_eq_ok {f : α → β} {b : β} : x.map f = .ok b ↔ ∃ a, x = .ok a ∧ f a = b := by
  cases x <;> simp [Except.map]

/-- The image of an outcome is a failure exactly if the outcome is the same
one. -/
theorem map_eq_error {f : α → β} {e : ε} : x.map f = .error e ↔ x = .error e := by
  cases x <;> simp [Except.map]

end QueryShell
