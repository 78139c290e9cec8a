import QueryShell.Modifier
import QueryShell.Operation

/-!
# Plans

A plan is a query whose calls have been checked: the first is an operation, and
every other is a modifier that may stand where it does. A query without a plan
is refused before the store is asked anything.
-/

namespace QueryShell

structure Plan where
  operation : Operation
  modifiers : List Modifier
deriving Repr

namespace Plan

/-- The error of a modifier after something that is no cursor. -/
def notApplicable (name produced : String) : QueryError :=
  .unsupportedModifier s!"'{name}' cannot be applied: {produced}"

/-- Checks the calls after the first. `index` is the position of the next call
in the chain, and `explained` says that the call before it was an explanation,
which is no cursor any more. -/
def checkModifiers (operation : Operation) (index : Nat) (explained : Bool) :
    List Call → Except QueryError (List Modifier)
  | [] => .ok []
  | c :: cs =>
    if explained then
      .error (((notApplicable c.name "explain() returns a document").atOffset c.span.start).inCall
        index)
    else if !operation.returnsCursor then
      .error (((notApplicable c.name "the base operation does not return a cursor").atOffset
        c.span.start).inCall index)
    else
      match Modifier.ofCall c with
      | .error e => .error ((e.atOffset c.span.start).inCall index)
      | .ok m => do
        let ms ← checkModifiers operation (index + 1) m.isExplain cs
        .ok (m :: ms)

/-- The plan of a query. -/
def ofQuery (q : Query) : Except QueryError Plan :=
  match q.calls with
  | [] => .error { kind := .malformedQuery, message := "query has no operation" }
  | base :: rest =>
    match Operation.ofName? base.name with
    | none => .error ((QueryError.unknownOperation base.name).atOffset base.span.start)
    | some operation => do
      let modifiers ← checkModifiers operation 1 false rest
      .ok ⟨operation, modifiers⟩

end Plan

end QueryShell
