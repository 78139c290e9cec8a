import QueryShell.Proofs.Client.Arguments
import QueryShell.Proofs.Client.Cursor
import QueryShell.Proofs.Execution.Calls

/-!
# Searches and aggregations on a client

A search or an aggregation whose arguments have its shape is run in two steps.
Its modifiers make a cursor, and the cursor is drained. Neither of them asks the
client anything before the whole chain has been gone through, so what is asked
depends on the query alone: one call, or none if the chain is refused
(`Cursor.chainCall`).

## Main statements

* `Client.execute_recorded`: a chain that has a call makes this one.
* `Client.execute_of_chainCall_eq_error`: any other chain fails by itself,
  whatever the client is.
-/

namespace QueryShell

namespace CursorSource

/-- The operation that makes a cursor of this kind. -/
def operation : CursorSource → Operation
  | find _ _ => .find
  | aggregate _ => .aggregate

/-- Both sources of a cursor are operations that answer with a cursor. -/
theorem returnsCursor_operation (source : CursorSource) : source.operation.returnsCursor = true := by
  cases source <;> rfl

/-- The request that makes the cursor. -/
def request : CursorSource → Request
  | find filter projection => .find filter projection
  | aggregate pipeline => .aggregate pipeline

end CursorSource

namespace Cursor

/-- The call that a chain of modifiers makes. -/
def chainCall (collection : String) (source : CursorSource) (ms : List Modifier) :
    Except QueryError ClientCall :=
  ms.foldlM apply { collection, source } >>= call

theorem lift_bind {σ α β : Type} (x : Except QueryError α) (f : α → Except QueryError β) :
    (lift (x >>= f) : StoreM σ β) = lift x >>= fun a => lift (f a) := by
  cases x <;> rfl

end Cursor

namespace Client

variable {σ : Type} (client : Client σ) {collection : String} {source : CursorSource}
  {ms : List Modifier}

/-- Modifiers never ask the server: in the store of a client they set the fields
of the cursor, or fail, and nothing else. -/
theorem foldlM_applyModifier (ms : List Modifier) (c : Cursor) :
    ms.foldlM client.store.applyModifier c = Cursor.lift (ms.foldlM Cursor.apply c) := by
  induction ms generalizing c with
  | nil => rfl
  | cons m ms ih =>
    rw [List.foldlM_cons, List.foldlM_cons, Cursor.lift_bind]
    exact bind_congr fun c => ih c

/-- On a client, the modifiers set the fields of the cursor first, one after the
other, and the cursor is drained when all of them have. -/
theorem finish_eq (c : Cursor) (ms : List Modifier) :
    client.store.finish c ms = Cursor.lift (ms.foldlM Cursor.apply c) >>= Cursor.drain client := by
  unfold Store.finish
  rw [foldlM_applyModifier]
  rfl

/-- A chain that makes no call fails, whatever the client is. -/
theorem finish_of_chainCall_eq_error {e : QueryError}
    (h : Cursor.chainCall collection source ms = .error e) :
    client.store.finish { collection, source } ms = .failQuery e := by
  rw [finish_eq]
  unfold Cursor.chainCall at h
  cases hfold : ms.foldlM Cursor.apply { collection, source } with
  | error e' =>
    rw [hfold] at h
    cases h
    rfl
  | ok c =>
    rw [hfold] at h
    exact c.drain_of_call_eq_error client h

/-- Any other chain makes its one call, and noting it changes nothing else. -/
theorem finish_recorded {call : ClientCall} (h : Cursor.chainCall collection source ms = .ok call)
    (s : σ) (log : List ClientExchange) :
    client.recorded.store.finish { collection, source } ms (s, log) =
      ((client.store.finish { collection, source } ms s).1,
        (client.store.finish { collection, source } ms s).2,
        log ++ [⟨call, failure? (client.store.finish { collection, source } ms s).1⟩]) := by
  obtain ⟨c, hc, hcall⟩ := bind_eq_ok.mp h
  rw [finish_eq, finish_eq, hc]
  exact Cursor.drain_recorded client hcall s log

/-- The plan of a search or an aggregation is run by finishing its cursor. -/
theorem runPlan_of_request {q : Query} {p : Plan}
    (h : Request.ofArgs p.operation q.baseArgs = .ok source.request) :
    client.store.runPlan q p =
      client.store.finish { collection := q.collection, source } p.modifiers >>= fun docs =>
        pure (.documents, docs.map .document) := by
  have hinvoke : client.store.invoke q.collection p.operation q.baseArgs =
      pure (.cursor { collection := q.collection, source }) := by
    show client.invoke q.collection p.operation q.baseArgs = _
    rw [client.invoke_of_ofArgs_eq_ok h]
    cases source <;> rfl
  rw [Store.runPlan_eq]
  show client.store.invoke q.collection p.operation q.baseArgs >>= client.store.conclude q p = _
  rw [hinvoke]
  rfl

section

variable {text : String} {q : Query} {p : Plan}

/-- A query whose chain makes no call is refused, and nothing is asked. -/
theorem execute_of_chainCall_eq_error (hparse : Query.parse text = .ok q)
    (hplan : Plan.ofQuery q = .ok p)
    (hargs : Request.ofArgs p.operation q.baseArgs = .ok source.request) {e : QueryError}
    (h : Cursor.chainCall q.collection source p.modifiers = .error e) (s : σ) :
    client.store.execute text s = (.error (.query (e.withQuery text)), s) := by
  rw [Store.execute_of_plan _ hparse hplan, runPlan_of_request client hargs,
    finish_of_chainCall_eq_error client h]
  rfl

/-- Any other query makes the call of its chain. -/
theorem execute_recorded (hparse : Query.parse text = .ok q) (hplan : Plan.ofQuery q = .ok p)
    (hargs : Request.ofArgs p.operation q.baseArgs = .ok source.request) {call : ClientCall}
    (h : Cursor.chainCall q.collection source p.modifiers = .ok call) (s : σ) :
    ∃ failure, client.recorded.store.execute text (s, []) =
      ((client.store.execute text s).1, (client.store.execute text s).2, [⟨call, failure⟩]) := by
  rw [Store.execute_of_plan _ hparse hplan, Store.execute_of_plan _ hparse hplan,
    runPlan_of_request client hargs, runPlan_of_request client.recorded hargs,
    StoreM.bind_apply, StoreM.bind_apply, finish_recorded client h]
  generalize client.store.finish { collection := q.collection, source } p.modifiers s = done
  obtain ⟨_ | _, s⟩ := done <;> exact ⟨_, rfl⟩

end

end Client

end QueryShell
