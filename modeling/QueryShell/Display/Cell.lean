import QueryShell.Bson.Inspect
import QueryShell.Bson.Json

/-!
# Cells

The text of a value in the cell of a table. Kinds that would look alike are told
apart by the name of their constructor; long arrays and documents are only
counted.
-/

namespace QueryShell.Bson

/-- Arrays and documents with more entries are only counted. -/
def inlineLimit : Nat := 3

/-- A name with a quoted text in parentheses. -/
def wrapped (name text : String) : List Char :=
  name.toList ++ '(' :: '\'' :: text.toList ++ ['\'', ')']

mutual

/-- The text of a value in a cell. -/
def cellChars : Bson → List Char
  | objectId hex => wrapped "ObjectId" hex
  | dateTime millis => wrapped "ISODate" (dateText millis)
  | int64 n => wrapped "Long" (toString n.toInt)
  | decimal128 text => wrapped "NumberDecimal" text
  | string s => s.toList
  | int32 n => decimalInt n.toInt
  | double x => x.plain
  | boolean b => (toString b).toList
  | null => "null".toList
  | array items =>
    if items.length ≤ inlineLimit then '[' :: commaSeparated (cellItems items) ++ [']']
    else "[Array(".toList ++ decimalNat items.length ++ [')', ']']
  | document entries =>
    if entries.length ≤ inlineLimit then '{' :: commaSeparated (cellEntries entries) ++ ['}']
    else r"{Object(".toList ++ decimalNat entries.length ++ [')', '}']
  | binary _ bytes => "Binary(".toList ++ decimalNat bytes.length ++ " bytes)".toList
  | regex pattern options => '/' :: pattern.toList ++ '/' :: options.toList
  | timestamp time increment =>
    "Timestamp(".toList ++ decimalNat time.toNat ++ ", ".toList ++ decimalNat increment.toNat ++ [')']
  | undefined => "undefined".toList
  | minKey => "MinKey".toList
  | maxKey => "MaxKey".toList
  | symbol s => inspect (symbol s)
  | code source => inspect (code source)
  | codeWithScope source scope => inspect (codeWithScope source scope)

def cellItems : List Bson → List (List Char)
  | [] => []
  | x :: xs => cellChars x :: cellItems xs

def cellEntries : List (String × Bson) → List (List Char)
  | [] => []
  | (key, x) :: es => (key.toList ++ ':' :: ' ' :: cellChars x) :: cellEntries es

end

end QueryShell.Bson
