import QueryShell.Entries
import QueryShell.Number.Double

/-!
# Literals

The values that may stand as arguments of a call. A `Literal` is a closed tree:
there is no expression in it that could be evaluated. The keys of an object are
in the order of their first appearance, so that the entries of an object literal
are an `Entries Literal`.
-/

namespace QueryShell

inductive Literal where
  | null
  | bool (b : Bool)
  | number (x : Double)
  | string (s : String)
  /-- A regular expression with its flags as they were written. -/
  | regex (pattern flags : String)
  | array (items : List Literal)
  | object (entries : List (String × Literal))
deriving Repr, Inhabited

namespace Literal

/-- The word for the type of a literal in messages. -/
def typeName : Literal → String
  | null => "null"
  | bool _ => "boolean"
  | number _ => "number"
  | string _ => "string"
  | regex .. => "regex"
  | array _ => "array"
  | object _ => "object"

end Literal

end QueryShell
