import QueryShell.Bson.Basic
import QueryShell.Literal.Basic

/-!
# Literals as document values

What the store is given for a literal. A number that stands for an integer
becomes a 64-bit integer, every other a double; the flags of a regular
expression are put in alphabetical order. The entries of an object are inserted
into its document one after the other.
-/

namespace QueryShell.Literal

/-- Puts a character into a sorted list. -/
def insertChar (c : Char) : List Char → List Char
  | [] => [c]
  | d :: ds => if c ≤ d then c :: d :: ds else d :: insertChar c ds

/-- The characters in ascending order. -/
def sortChars (cs : List Char) : List Char :=
  cs.foldr insertChar []

/-- The document value of a number. -/
def numberToBson (x : Double) : Bson :=
  match x.integral? with
  | some n => .int64 n
  | none => .double x

mutual

/-- The document value of a literal. -/
def toBson : Literal → Bson
  | null => .null
  | bool b => .boolean b
  | number x => numberToBson x
  | string s => .string s
  | regex pattern flags => .regex pattern (String.ofList (sortChars flags.toList))
  | array items => .array (itemsToBson items)
  | object entries => .document (Entries.ofList (entriesToBson entries))

/-- The document values of some literals. -/
def itemsToBson : List Literal → List Bson
  | [] => []
  | x :: xs => toBson x :: itemsToBson xs

/-- The document values of some entries, with their keys. -/
def entriesToBson : List (String × Literal) → List (String × Bson)
  | [] => []
  | (key, x) :: es => (key, toBson x) :: entriesToBson es

end

theorem itemsToBson_eq_map (xs : List Literal) : itemsToBson xs = xs.map toBson := by
  induction xs with
  | nil => simp [itemsToBson]
  | cons x xs ih => simp [itemsToBson, ih]

theorem entriesToBson_eq_map (es : List (String × Literal)) :
    entriesToBson es = es.map fun e => (e.1, toBson e.2) := by
  induction es with
  | nil => simp [entriesToBson]
  | cons e es ih => simp [entriesToBson, ih]

/-- The document of an object's entries. -/
def toDocument (entries : List (String × Literal)) : Document :=
  Entries.ofList (entriesToBson entries)

end QueryShell.Literal
