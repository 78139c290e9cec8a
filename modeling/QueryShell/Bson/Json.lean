import QueryShell.Bson.Basic
import QueryShell.Calendar
import QueryShell.Json.Basic
import QueryShell.Number.Decimal
import QueryShell.Text.Base64
import QueryShell.Text.Quoted

/-!
# Document values as JSON

`Bson.toJson` is the simple form that results are shown in: identifiers and
dates become strings and all integers plain numbers. The few kinds that have no
simple form are written as objects whose keys begin with a dollar sign.

Inside the scope of a stored procedure the form is a detailed one
(`Bson.toDetailed`): there identifiers, dates, decimals and regular expressions
are objects with such keys too, bytes of no particular kind are a list of
numbers, and a number that is not finite is `null`.
-/

namespace QueryShell.Bson

/-- The text of an instant: its date, or its milliseconds if the date has no
four-digit year. -/
def dateText (millis : Int64) : String :=
  match (CivilTime.ofMillis millis.toInt).isoChars? with
  | some cs => String.ofList cs
  | none => String.ofList (decimalInt millis.toInt)

/-- The object for bytes. -/
def binaryJson (subtype : UInt8) (bytes : List UInt8) : Json :=
  let n := subtype.toNat
  .object [("$binary", .object [
    ("base64", .string (String.ofList (Base64.encode bytes))),
    ("subType", .string (String.ofList [Text.hexDigit (n / 16), Text.hexDigit (n % 16)]))])]

/-- The object for a timestamp. -/
def timestampJson (time increment : UInt32) : Json :=
  .object [("$timestamp", .object [("t", .integer time.toNat), ("i", .integer increment.toNat)])]

mutual

/-- The detailed form of a value. -/
def toDetailed : Bson → Json
  | double x => if x.isFinite then .float x else .null
  | string s => .string s
  | document entries => .object (entriesToDetailed entries)
  | array items => .array (itemsToDetailed items)
  | binary subtype bytes =>
    if subtype = 0 then .array (bytes.map fun b => .integer b.toNat) else binaryJson subtype bytes
  | undefined => .object [("$undefined", .bool true)]
  | objectId hex => .object [("$oid", .string hex)]
  | boolean b => .bool b
  | dateTime millis =>
    .object [("$date", .object [("$numberLong", .string (toString millis.toInt))])]
  | null => .null
  | regex pattern options =>
    .object [("$regularExpression",
      .object [("pattern", .string pattern), ("options", .string options)])]
  | code source => .object [("$code", .string source)]
  | codeWithScope source scope =>
    .object [("$code", .string source), ("$scope", .object (entriesToDetailed scope))]
  | symbol s => .object [("$symbol", .string s)]
  | int32 n => .integer n.toInt
  | timestamp time increment => timestampJson time increment
  | int64 n => .integer n.toInt
  | decimal128 text => .object [("$numberDecimal", .string text)]
  | minKey => .object [("$minKey", .integer 1)]
  | maxKey => .object [("$maxKey", .integer 1)]

def itemsToDetailed : List Bson → List Json
  | [] => []
  | x :: xs => toDetailed x :: itemsToDetailed xs

def entriesToDetailed : List (String × Bson) → List (String × Json)
  | [] => []
  | (key, x) :: es => (key, toDetailed x) :: entriesToDetailed es

end

/-- The simple form of a number; the ones that are not finite become their
names. -/
def simpleDouble (x : Double) : Json :=
  if x.isFinite then .float x else .string (String.ofList x.plain)

mutual

/-- The simple form of a value. -/
def toJson : Bson → Json
  | null => .null
  | undefined => .null
  | boolean b => .bool b
  | int32 n => .integer n.toInt
  | int64 n => .integer n.toInt
  | double x => simpleDouble x
  | string s => .string s
  | objectId hex => .string hex
  | dateTime millis => .string (dateText millis)
  | decimal128 text => .string text
  | binary subtype bytes => binaryJson subtype bytes
  | regex pattern options => .object [("$regex", .string pattern), ("$options", .string options)]
  | array items => .array (itemsToJson items)
  | document entries => .object (entriesToJson entries)
  | x => toDetailed x

def itemsToJson : List Bson → List Json
  | [] => []
  | x :: xs => toJson x :: itemsToJson xs

def entriesToJson : List (String × Bson) → List (String × Json)
  | [] => []
  | (key, x) :: es => (key, toJson x) :: entriesToJson es

end

theorem itemsToJson_eq_map (xs : List Bson) : itemsToJson xs = xs.map toJson := by
  induction xs with
  | nil => simp [itemsToJson]
  | cons x xs ih => simp [itemsToJson, ih]

theorem entriesToJson_eq_map (es : List (String × Bson)) :
    entriesToJson es = es.map fun e => (e.1, toJson e.2) := by
  induction es with
  | nil => simp [entriesToJson]
  | cons e es ih => simp [entriesToJson, ih]

end QueryShell.Bson
