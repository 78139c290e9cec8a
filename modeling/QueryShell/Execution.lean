import QueryShell.Plan
import QueryShell.Query.Parser
import QueryShell.Result
import QueryShell.Schema
import QueryShell.Store

/-!
# Execution

`Store.execute` runs the text of a query against a store. The text is read and
the whole chain is planned before the store is asked anything; then the
collection is resolved, the operation invoked once, and on a cursor the
modifiers are applied in order before it is drained. The first call that fails
ends the run, and its error carries the text of the query.
-/

namespace QueryShell

/-- The value for a count: an integer, or a double if it is too large for
one. -/
def countValue (n : UInt64) : Bson :=
  if n.toNat < 2 ^ 63 then .int64 (Int64.ofNat n.toNat) else .double (Double.ofInt n.toNat)

namespace Output

/-- The result of an answer that is no cursor. -/
def flat {γ : Type} : Output γ → ResultKind × List Bson
  | document d => (.document, [.document d])
  | nothing => (.empty, [])
  | count n => (.count, [countValue n])
  | values vs => (.values, vs)
  | cursor _ => (.documents, [])

end Output

namespace Store

variable {σ κ γ : Type}

/-- The error of a run, with the query that failed. What is not a query error is
a failure of the store with the text that it has. -/
def tagError (query : String) : ShellError → ShellError
  | .query e => .query (e.withQuery query)
  | e => .query ((QueryError.store e.display).withQuery query)

/-- Applies the modifiers to a cursor and drains it. -/
def finish (store : Store σ κ γ) (c : γ) (modifiers : List Modifier) : StoreM σ (List Document) := do
  let c ← modifiers.foldlM store.applyModifier c
  store.drain c

/-- Runs a plan that was made for a query. -/
def runPlan (store : Store σ κ γ) (q : Query) (p : Plan) : StoreM σ (ResultKind × List Bson) := do
  let collection ← store.resolve q.collection
  let args := (q.base?.map Call.args).getD []
  let output ← store.invoke collection p.operation args
  match output, q.modifiers with
  | .cursor c, _ => do
    let docs ← store.finish c p.modifiers
    return (.documents, docs.map .document)
  | output, [] => return output.flat
  | output, c :: _ =>
    let produced := s!"{p.operation.name}() returned {output.describe}"
    .failQuery (((Plan.notApplicable c.name produced).atOffset c.span.start).inCall 1)

/-- Runs a query that was read from `text`. -/
def executeQuery (store : Store σ κ γ) (q : Query) (text : String) : StoreM σ Result :=
  match Plan.ofQuery q with
  | .error e => .failQuery (e.withQuery text)
  | .ok p => do
    let (kind, items) ← (store.runPlan q p).mapError (tagError text)
    return { operation := p.operation, kind, items }

/-- Runs the text of a query. -/
def execute (store : Store σ κ γ) (text : String) : StoreM σ Result :=
  match Query.parse text with
  | .error e => .failQuery e
  | .ok q => store.executeQuery q text

/-- The schema that a number of sample documents show. -/
def inferSchema (store : Store σ κ γ) (collection : String) (samples : Nat) : StoreM σ Schema := do
  if samples ≤ 1 then
    return Schema.infer collection (← store.sampleDocument collection).toList
  else
    return Schema.infer collection (← store.sampleDocuments collection samples)

/-- The names of the store's collections, without repetition. -/
def catalog (store : Store σ κ γ) : StoreM σ (List String) := do
  return firstSeen (← store.listCollections)

end Store

end QueryShell
