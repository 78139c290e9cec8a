import QueryShell.Json.Basic
import QueryShell.Literal.Basic

/-!
# Literals as JSON

A number that stands for an integer becomes one, a number without a JSON form
becomes null, and a regular expression becomes an object with its pattern and
its flags. The entries of an object are inserted into its JSON object one after
the other.
-/

namespace QueryShell.Literal

/-- The JSON value of a number. -/
def numberToJson (x : Double) : Json :=
  match x.integral? with
  | some n => .integer n.toInt
  | none => if x.isFinite then .float x else .null

mutual

/-- The JSON value of a literal. -/
def toJson : Literal → Json
  | null => .null
  | bool b => .bool b
  | number x => numberToJson x
  | string s => .string s
  | regex pattern flags => .object [("$regex", .string pattern), ("$options", .string flags)]
  | array items => .array (itemsToJson items)
  | object entries => .object (Entries.ofList (entriesToJson entries))

def itemsToJson : List Literal → List Json
  | [] => []
  | x :: xs => toJson x :: itemsToJson xs

def entriesToJson : List (String × Literal) → List (String × Json)
  | [] => []
  | (key, x) :: es => (key, toJson x) :: entriesToJson es

end

theorem itemsToJson_eq_map (xs : List Literal) : itemsToJson xs = xs.map toJson := by
  induction xs with
  | nil => simp [itemsToJson]
  | cons x xs ih => simp [itemsToJson, ih]

theorem entriesToJson_eq_map (es : List (String × Literal)) :
    entriesToJson es = es.map fun e => (e.1, toJson e.2) := by
  induction es with
  | nil => simp [entriesToJson]
  | cons e es ih => simp [entriesToJson, ih]

end QueryShell.Literal
