import QueryShell.Entries
import QueryShell.Number.Double

/-!
# JSON values

A JSON value keeps the members of an object in order, and tells integers from
numbers with a fraction or an exponent.
-/

namespace QueryShell

inductive Json where
  | null
  | bool (b : Bool)
  | integer (n : Int)
  /-- A finite number that is not written as an integer. -/
  | float (x : Double)
  | string (s : String)
  | array (items : List Json)
  | object (members : List (String × Json))
deriving Repr, Inhabited

end QueryShell
