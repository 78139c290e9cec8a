import QueryShell.Execution

/-!
# What is asked of a store

`Store.recorded` puts a recorder in front of a store: every call is passed on
and written down together with its answer. A recorder is a store itself, so that
whatever runs on a store runs on a recorded one, and no run can tell the two
apart.

How a run goes depends on nothing but the answers. `Finishes` says it for a
cursor, `Course` for a whole plan: each has one rule for every call that may
fail and one for every way to come to an end. That a run follows these rules is
proved together with the fact that the recorder has not disturbed it.

## Main statements

* `Store.finish_recorded`, `Store.runPlan_recorded`: what a run asks, and that
  recording does not change its answer.
-/

namespace QueryShell

variable {σ κ γ α β : Type}

/-! ## Recording -/

/-- **A call on a store with its answer.** What a query never asks for is not
told apart. -/
inductive Exchange (κ γ : Type) where
  | resolve (collection : String) (answer : Except ShellError κ)
  | invoke (collection : κ) (operation : Operation) (args : List Literal)
    (answer : Except ShellError (Output γ))
  | applyModifier (cursor : γ) (m : Modifier) (answer : Except ShellError γ)
  | drain (cursor : γ) (answer : Except ShellError (List Document))
  /-- A look at samples, collections or databases. -/
  | browse (failure : Option ShellError)

/-- A call without its answer and without the collection or cursor that it was
made on. -/
inductive StoreCall where
  | resolve (collection : String)
  | invoke (operation : Operation) (args : List Literal)
  | applyModifier (m : Modifier)
  | drain
  | browse

/-- The error of an answer. -/
def failure? : Except ShellError α → Option ShellError
  | .ok _ => none
  | .error e => some e

namespace Exchange

/-- What has been asked for, whatever it was asked of and whatever came of
it. -/
def call : Exchange κ γ → StoreCall
  | resolve collection _ => .resolve collection
  | invoke _ operation args _ => .invoke operation args
  | applyModifier _ m _ => .applyModifier m
  | drain _ _ => .drain
  | browse _ => .browse

/-- The error that the call has failed with. -/
def error? : Exchange κ γ → Option ShellError
  | resolve _ answer => failure? answer
  | invoke _ _ _ answer => failure? answer
  | applyModifier _ _ answer => failure? answer
  | drain _ answer => failure? answer
  | browse failure => failure

end Exchange

/-- Asks a store and writes the answer down. -/
def StoreM.record (entry : Except ShellError α → Exchange κ γ) (x : StoreM σ α) :
    StoreM (σ × List (Exchange κ γ)) α :=
  fun (s, log) =>
    let (a, s) := x s
    (a, s, log ++ [entry a])

/-- **A store whose calls are written down**, one behind the other, with their
answers. The state of the recorded store is that of the store with the log
beside it, and nothing is read from the log. -/
def Store.recorded (store : Store σ κ γ) : Store (σ × List (Exchange κ γ)) κ γ where
  resolve collection := (store.resolve collection).record (.resolve collection)
  invoke collection operation args :=
    (store.invoke collection operation args).record (.invoke collection operation args)
  applyModifier cursor m := (store.applyModifier cursor m).record (.applyModifier cursor m)
  drain cursor := (store.drain cursor).record (.drain cursor)
  sampleDocument collection := (store.sampleDocument collection).record (.browse ∘ failure?)
  sampleDocuments collection count :=
    (store.sampleDocuments collection count).record (.browse ∘ failure?)
  listCollections := store.listCollections.record (.browse ∘ failure?)
  collectionStats := store.collectionStats.record (.browse ∘ failure?)
  listDatabases := store.listDatabases.record (.browse ∘ failure?)

/-! ## How a run goes -/

/-- The output is a cursor. -/
def Output.IsCursor : Output γ → Prop
  | .cursor _ => True
  | _ => False

/-- An output that is a cursor is one with a cursor in it. -/
theorem Output.IsCursor.exists_eq {out : Output γ} (h : out.IsCursor) : ∃ c, out = .cursor c := by
  cases out with
  | cursor c => exact ⟨c, rfl⟩
  | document | nothing | count | values => cases h

/-- The arguments of the operation. -/
def Query.baseArgs (q : Query) : List Literal :=
  (q.base?.map Call.args).getD []

/-- **How a cursor is finished**: the modifiers are applied in their order, each
to the cursor that the one before has left, and the last cursor is drained. -/
inductive Finishes : γ → List Modifier → List (Exchange κ γ) → Except ShellError (List Document) → Prop
  | drained {c : γ} {answer : Except ShellError (List Document)} :
    Finishes c [] [.drain c answer] answer
  | applied {c c' : γ} {m : Modifier} {ms : List Modifier} {log : List (Exchange κ γ)}
    {answer : Except ShellError (List Document)} (h : Finishes c' ms log answer) :
    Finishes c (m :: ms) (.applyModifier c m (.ok c') :: log) answer
  | refused {c : γ} {m : Modifier} {ms : List Modifier} {e : ShellError} :
    Finishes c (m :: ms) [.applyModifier c m (.error e)] (.error e)

/-- The error of a modifier behind an operation whose output is no cursor. -/
def Plan.outputError (p : Plan) (out : Output γ) (c : Call) : QueryError :=
  ((notApplicable c.name s!"{p.operation.name}() returned {out.describe}").atOffset
    c.span.start).inCall 1

/-- **How the output of the operation is used**: a cursor is finished, anything
else is the result unless a modifier follows. The relation knows the log and the
answer, and not the store. -/
inductive Concludes (q : Query) (p : Plan) :
    Output γ → List (Exchange κ γ) → Except ShellError (ResultKind × List Bson) → Prop
  | cursor {c : γ} {log : List (Exchange κ γ)} {answer : Except ShellError (List Document)}
    (h : Finishes c p.modifiers log answer) :
    Concludes q p (.cursor c) log (answer.map fun docs => (.documents, docs.map .document))
  | flat {out : Output γ} (hout : ¬out.IsCursor) (hq : q.modifiers = []) :
    Concludes q p out [] (.ok out.flat)
  | unmodifiable {out : Output γ} {c : Call} {cs : List Call} (hout : ¬out.IsCursor)
    (hq : q.modifiers = c :: cs) : Concludes q p out [] (.error (.query (p.outputError out c)))

/-- **How a plan is run**, up to the first call that fails: the collection is
resolved, the operation is invoked on it, and its output is used. -/
inductive Course (q : Query) (p : Plan) :
    List (Exchange κ γ) → Except ShellError (ResultKind × List Bson) → Prop
  | unresolved {e : ShellError} : Course q p [.resolve q.collection (.error e)] (.error e)
  | failed {k : κ} {e : ShellError} : Course q p
    [.resolve q.collection (.ok k), .invoke k p.operation q.baseArgs (.error e)] (.error e)
  | invoked {k : κ} {out : Output γ} {log : List (Exchange κ γ)}
    {answer : Except ShellError (ResultKind × List Bson)} (h : Concludes q p out log answer) :
    Course q p
      (.resolve q.collection (.ok k) :: .invoke k p.operation q.baseArgs (.ok out) :: log) answer

/-! ## Runs on a recorded store -/

namespace StoreM

/-- One computation behind another: the second begins where the first has ended
well. -/
theorem bind_apply (x : StoreM σ α) (f : α → StoreM σ β) (s : σ) :
    (x >>= f) s = match x s with
      | (.ok a, s) => f a s
      | (.error e, s) => (.error e, s) := by
  show (ExceptT.bindCont f (x s).1 : StateM σ _) (x s).2 = _
  cases h : x s with
  | mk answer s =>
    cases answer <;> rfl

end StoreM

namespace Store

variable (store : Store σ κ γ) (s : σ) (log : List (Exchange κ γ))

/-- To resolve a collection on a recorded store is to resolve it, and to write
this down. -/
theorem recorded_resolve (collection : String) : store.recorded.resolve collection (s, log) =
    ((store.resolve collection s).1, (store.resolve collection s).2,
      log ++ [.resolve collection (store.resolve collection s).1]) := rfl

/-- To invoke an operation on a recorded store is to invoke it, and to write
this down. -/
theorem recorded_invoke (k : κ) (operation : Operation) (args : List Literal) :
    store.recorded.invoke k operation args (s, log) =
      ((store.invoke k operation args s).1, (store.invoke k operation args s).2,
        log ++ [.invoke k operation args (store.invoke k operation args s).1]) := rfl

/-- To apply a modifier on a recorded store is to apply it, and to write this
down. -/
theorem recorded_applyModifier (c : γ) (m : Modifier) :
    store.recorded.applyModifier c m (s, log) =
      ((store.applyModifier c m s).1, (store.applyModifier c m s).2,
        log ++ [.applyModifier c m (store.applyModifier c m s).1]) := rfl

/-- To drain a cursor of a recorded store is to drain it, and to write this
down. -/
theorem recorded_drain (c : γ) : store.recorded.drain c (s, log) =
    ((store.drain c s).1, (store.drain c s).2, log ++ [.drain c (store.drain c s).1]) := rfl

theorem finish_nil (c : γ) : store.finish c [] = store.drain c := by
  unfold finish
  exact pure_bind c store.drain

/-- With modifiers the first of them is applied, and the cursor that it leaves
is finished with the others. -/
theorem finish_cons (c : γ) (m : Modifier) (ms : List Modifier) :
    store.finish c (m :: ms) = store.applyModifier c m >>= fun c => store.finish c ms := by
  unfold finish
  rw [List.foldlM_cons, bind_assoc]

/-- **The calls that finish a cursor**, and that recording them changes nothing
else. The induction is on the modifiers, for any cursor, since each modifier
leaves one of its own. -/
theorem finish_recorded (c : γ) (ms : List Modifier) :
    ∃ new, store.recorded.finish c ms (s, log) =
        ((store.finish c ms s).1, (store.finish c ms s).2, log ++ new) ∧
      Finishes c ms new (store.finish c ms s).1 := by
  induction ms generalizing c s log with
  | nil =>
    rw [finish_nil, finish_nil, recorded_drain]
    exact ⟨_, rfl, .drained⟩
  | cons m ms ih =>
    rw [finish_cons, finish_cons, StoreM.bind_apply, StoreM.bind_apply, recorded_applyModifier]
    cases store.applyModifier c m s with
    | mk answer s =>
      cases answer with
      | error e => exact ⟨_, rfl, .refused⟩
      | ok c' =>
        obtain ⟨new, hnew, hfinish⟩ := ih s (log ++ [.applyModifier c m (.ok c')]) c'
        rw [List.append_assoc] at hnew
        exact ⟨.applyModifier c m (.ok c') :: new, hnew, .applied hfinish⟩

/-- What is done with the output of the operation. -/
def conclude (q : Query) (p : Plan) (out : Output γ) : StoreM σ (ResultKind × List Bson) :=
  match out, q.modifiers with
  | .cursor c, _ => do
    let docs ← store.finish c p.modifiers
    return (.documents, docs.map .document)
  | out, [] => return out.flat
  | out, c :: _ => .failQuery (p.outputError out c)

/-- A run of a plan is three steps: to resolve the collection, to invoke the
operation on it, and to make something of the output. -/
theorem runPlan_eq (q : Query) (p : Plan) : store.runPlan q p =
    store.resolve q.collection >>= fun k =>
      store.invoke k p.operation q.baseArgs >>= store.conclude q p := rfl

section

variable {q : Query} {out : Output γ}

/-- A cursor is finished, and its documents are the result. -/
theorem conclude_cursor (p : Plan) (c : γ) : store.conclude q p (.cursor c) =
    store.finish c p.modifiers >>= fun docs => pure (.documents, docs.map .document) := rfl

/-- An output that is no cursor is the result, if nothing follows. -/
theorem conclude_flat (p : Plan) (hout : ¬out.IsCursor) (hq : q.modifiers = []) :
    store.conclude q p out = pure out.flat := by
  unfold conclude
  rw [hq]
  cases out with
  | cursor c => exact absurd trivial hout
  | document | nothing | count | values => rfl

/-- If a modifier follows an output that is no cursor, the query fails with an
error about this modifier. -/
theorem conclude_unmodifiable (p : Plan) (hout : ¬out.IsCursor) {c : Call} {cs : List Call}
    (hq : q.modifiers = c :: cs) : store.conclude q p out = .failQuery (p.outputError out c) := by
  unfold conclude
  rw [hq]
  cases out with
  | cursor c => exact absurd trivial hout
  | document | nothing | count | values => rfl

end

/-- **The calls that are made with an output**, and that recording them changes
nothing else. Only a cursor is asked for anything. -/
theorem conclude_recorded (q : Query) (p : Plan) (out : Output γ) :
    ∃ new, store.recorded.conclude q p out (s, log) =
        ((store.conclude q p out s).1, (store.conclude q p out s).2, log ++ new) ∧
      Concludes q p out new (store.conclude q p out s).1 := by
  by_cases hout : out.IsCursor
  · obtain ⟨c, rfl⟩ := hout.exists_eq
    obtain ⟨new, hnew, hfinish⟩ := store.finish_recorded s log c p.modifiers
    rw [conclude_cursor, conclude_cursor, StoreM.bind_apply, StoreM.bind_apply, hnew]
    generalize store.finish c p.modifiers s = done at hfinish
    obtain ⟨_ | _, s⟩ := done <;> exact ⟨new, rfl, .cursor hfinish⟩
  · cases hq : q.modifiers with
    | nil =>
      rw [store.conclude_flat p hout hq, store.recorded.conclude_flat p hout hq]
      refine ⟨[], ?_, .flat hout hq⟩
      rw [List.append_nil]
      rfl
    | cons c cs =>
      rw [store.conclude_unmodifiable p hout hq, store.recorded.conclude_unmodifiable p hout hq]
      refine ⟨[], ?_, .unmodifiable hout hq⟩
      rw [List.append_nil]
      rfl

/-- **The calls that run a plan**, and that recording them changes nothing else.
From here on runs are spoken of by `Course`, without a store. -/
theorem runPlan_recorded (q : Query) (p : Plan) :
    ∃ new, store.recorded.runPlan q p (s, log) =
        ((store.runPlan q p s).1, (store.runPlan q p s).2, log ++ new) ∧
      Course q p new (store.runPlan q p s).1 := by
  rw [runPlan_eq, runPlan_eq, StoreM.bind_apply, StoreM.bind_apply, recorded_resolve]
  cases store.resolve q.collection s with
  | mk answer s =>
    cases answer with
    | error e => exact ⟨_, rfl, .unresolved⟩
    | ok k =>
      dsimp only
      rw [StoreM.bind_apply, StoreM.bind_apply, recorded_invoke]
      cases store.invoke k p.operation q.baseArgs s with
      | mk answer s =>
        cases answer with
        | error e => 
          rw [List.append_assoc]
          exact ⟨_, rfl, .failed⟩
        | ok out =>
          obtain ⟨new, hnew, hconclude⟩ := store.conclude_recorded s
            (log ++ [.resolve q.collection (.ok k)] ++
              [.invoke k p.operation q.baseArgs (.ok out)]) q p out
          refine ⟨.resolve q.collection (.ok k) :: .invoke k p.operation q.baseArgs (.ok out) :: new,
            hnew.trans ?_, .invoked hconclude⟩
          rw [List.append_assoc, List.append_assoc]
          rfl

end Store

end QueryShell
