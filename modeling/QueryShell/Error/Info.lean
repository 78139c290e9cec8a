import QueryShell.Error.Query
import QueryShell.Json.Printer

/-!
# Error reports

An `ErrorReport` is a query error as other programs read it, written as JSON.
What is not known is left out.
-/

namespace QueryShell

structure ErrorReport where
  kind : String
  message : String
  query : String := ""
  offset : Option Nat := none
  callIndex : Option Nat := none
  diagnostic : Option StoreDiagnostic := none
deriving DecidableEq, Repr

namespace StoreDiagnostic

def toJson (d : StoreDiagnostic) : Json :=
  .object (
    (d.type.map fun s => ("type", Json.string s)).toList ++
    (d.code.map fun n => ("code", Json.integer n.toInt)).toList ++
    (d.codeName.map fun s => ("codeName", Json.string s)).toList)

end StoreDiagnostic

namespace ErrorReport

def ofError (e : QueryError) : ErrorReport :=
  ⟨e.kind.name, e.message, e.query, e.offset, e.callIndex, e.diagnostic⟩

def toJson (r : ErrorReport) : Json :=
  .object ([("kind", .string r.kind), ("message", .string r.message)] ++
    (if r.query.isEmpty then [] else [("query", Json.string r.query)]) ++
    (r.offset.map fun n => ("offset", Json.integer n)).toList ++
    (r.callIndex.map fun n => ("callIndex", Json.integer n)).toList ++
    (r.diagnostic.map fun d => ("diagnostic", d.toJson)).toList)

/-- The text of a report. -/
def text (r : ErrorReport) : String :=
  String.ofList ((Json.object [("error", r.toJson)]).pretty 2)

end ErrorReport

end QueryShell
