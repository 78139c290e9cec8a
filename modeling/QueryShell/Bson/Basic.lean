import QueryShell.Entries
import QueryShell.Number.Double

/-!
# Document values

The values that the document store keeps and answers with. They are typed more
finely than JSON: there are three kinds of numbers, and kinds of their own for
identifiers, dates and regular expressions. A document is an `Entries Bson`.
-/

namespace QueryShell

inductive Bson where
  | double (x : Double)
  | string (s : String)
  | document (entries : List (String × Bson))
  | array (items : List Bson)
  /-- Bytes and the number of their kind. -/
  | binary (subtype : UInt8) (bytes : List UInt8)
  | undefined
  /-- An identifier of twelve bytes, by its hexadecimal digits. -/
  | objectId (hex : String)
  | boolean (b : Bool)
  /-- Milliseconds since the beginning of 1970. -/
  | dateTime (millis : Int64)
  | null
  /-- A regular expression with its options in alphabetical order. -/
  | regex (pattern options : String)
  /-- The source text of a stored procedure. -/
  | code (source : String)
  | codeWithScope (source : String) (scope : List (String × Bson))
  | symbol (s : String)
  | int32 (n : Int32)
  /-- Seconds since the beginning of 1970 and a counter within the second. -/
  | timestamp (time increment : UInt32)
  | int64 (n : Int64)
  /-- A decimal floating-point number, by its canonical text. -/
  | decimal128 (text : String)
  | minKey
  | maxKey
deriving Repr, Inhabited

/-- A document: values under keys in a fixed order. -/
abbrev Document := Entries Bson

/-! ## Reading values

What a value is taken for where one kind of value is needed.
-/

namespace Bson

/-- The integer that a value is. -/
def integer? : Bson → Option Int
  | int32 n => some n.toInt
  | int64 n => some n.toInt
  | _ => none

/-- An integer that is not negative. -/
def natural? (x : Bson) : Option UInt64 := do
  let n ← x.integer?
  if 0 ≤ n then some (UInt64.ofNat n.toNat) else none

def string? : Bson → Option String
  | string s => some s
  | _ => none

def items? : Bson → Option (List Bson)
  | array items => some items
  | _ => none

def document? : Bson → Option Document
  | document d => some d
  | _ => none

end Bson

end QueryShell
