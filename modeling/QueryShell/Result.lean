import QueryShell.Bson.Basic
import QueryShell.Operation

/-!
# Results

Whatever an operation answers, its result is a flat list of values: the
documents of a cursor, one document, one count, the distinct values, or nothing.
-/

namespace QueryShell

/-- What an operation has answered. -/
inductive ResultKind where
  | documents
  | document
  | count
  | values
  | empty
deriving DecidableEq, Repr

namespace ResultKind

def name : ResultKind → String
  | documents => "Documents"
  | document => "Document"
  | count => "Count"
  | values => "Values"
  | empty => "Empty"

def all : List ResultKind :=
  [documents, document, count, values, empty]

end ResultKind

structure Result where
  operation : Operation
  kind : ResultKind
  items : List Bson
  /-- The time that the query took, in milliseconds, where someone has measured
  it. -/
  millis : UInt64 := 0
deriving Repr

namespace Result

def isEmpty (r : Result) : Bool :=
  r.items.isEmpty

/-- The count that a result consists of, unless it is too large for an
integer. -/
def count? (r : Result) : Option Nat :=
  match r.kind, r.items with
  | .count, .int64 n :: _ => if 0 ≤ n.toInt then some n.toInt.toNat else none
  | _, _ => none

end Result

end QueryShell
