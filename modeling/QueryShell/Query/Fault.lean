import QueryShell.Error.Query
import QueryShell.Literal.Fault

/-!
# Faults of query texts

What can be wrong with a query outside the arguments of its calls.
-/

namespace QueryShell.Query

/-- What is wrong with the frame of a query. -/
inductive Fault where
  /-- There is nothing but blanks and semicolons. -/
  | empty
  /-- The text does not begin with `db` and a point. -/
  | noDatabase
  /-- No name of a collection follows. -/
  | noCollection
  /-- No call follows the collection. -/
  | noCall (collection : String)
  /-- Something else than a point stands before a call. -/
  | noDot (found : TokenKind)
  /-- No name of an operation follows a point. -/
  | noName
  /-- No opening parenthesis follows the name. -/
  | noParen (name : String)
  /-- The parenthesis of a call is never closed. -/
  | unbalanced
  /-- A literal inside the parentheses is never closed. -/
  | unclosed (literal : TokenKind)

/-- The words for a token that stands between two calls. -/
def describe : TokenKind → String
  | .ident name => s!"'{name}'"
  | .semicolon => "';'"
  | .opener .paren => "'('"
  | .closer .paren => "')'"
  | .unknown c => Literal.quotedChar c
  | .operator c => Literal.quotedChar c
  | _ => "unexpected input"

namespace Fault

def kind : Fault → QueryErrorKind
  | unclosed literal => (Literal.Fault.unclosed literal).kind
  | _ => .malformedQuery

def message : Fault → String
  | empty => "empty query"
  | noDatabase => "query must start with 'db.<collection>.'"
  | noCollection => "missing collection name after 'db.'"
  | noCall collection =>
    s!"expected a call after 'db.{collection}', e.g. 'db.{collection}.find()'"
  | noDot found => s!"expected '.' before the next call, found {describe found}"
  | noName => "expected an operation name after '.'"
  | noParen name => s!"'{name}' must be called with '(...)'"
  | unbalanced => "unbalanced parentheses in call"
  | unclosed literal => (Literal.Fault.unclosed literal).message

/-- The error for a fault at an offset. -/
def toError (fault : Fault) (offset : Nat) : QueryError :=
  { kind := fault.kind, message := fault.message, offset := some offset }

end Fault

end QueryShell.Query
