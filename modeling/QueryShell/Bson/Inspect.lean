import QueryShell.Bson.Basic
import QueryShell.Bson.Decimal
import QueryShell.Calendar
import QueryShell.Text.Inspect
import QueryShell.Text.Quoted

/-!
# Inspected document values

The text of a value that names the kind of every part of it.
-/

namespace QueryShell

/-- The text of a double with a point or an exponent: positional from `10 ^ -4`
up to below `10 ^ 16`. -/
def Double.inspect (x : Double) : List Char :=
  if !x.isFinite || x.isZero then x.plain ++ (if x.isZero then ['.', '0'] else [])
  else
    let d := x.shortest .up
    let magnitude :=
      if -4 ≤ d.leading && d.leading < 16 then d.positional true
      else
        let head := d.chars.take 1 ++ (if d.chars.length = 1 then [] else '.' :: d.chars.drop 1)
        head ++ 'e' :: decimalInt d.leading
    if x.isNegative then '-' :: magnitude else magnitude

namespace Bson

/-- Texts with commas between them. -/
def commaSeparated : List (List Char) → List Char
  | [] => []
  | [cs] => cs
  | cs :: rest => cs ++ ',' :: ' ' :: commaSeparated rest

/-- The text of an instant: its date, time and zone, or its milliseconds if the
year has more than four digits. -/
def inspectDate (millis : Int64) : List Char :=
  let t := CivilTime.ofMillis millis.toInt
  if t.year.natAbs ≤ 9999 then
    let fraction := CivilTime.fractionDigits t.milli
    (if t.year < 0 then ['-'] else []) ++ CivilTime.padded 4 t.year.natAbs ++
      '-' :: CivilTime.padded 2 t.month ++ '-' :: CivilTime.padded 2 t.day ++
      ' ' :: decimalNat t.hour ++ ':' :: CivilTime.padded 2 t.minute ++
      ':' :: CivilTime.padded 2 t.second ++ '.' :: (if fraction.isEmpty then ['0'] else fraction) ++
      " +00:00:00".toList
  else decimalInt millis.toInt

/-- The text of a decimal: its bytes in hexadecimal digits. -/
def inspectDecimal (text : String) : List Char :=
  match Decimal128.ofText? text.toList with
  | some d => d.bytes.flatMap fun b => [Text.hexDigit (b.toNat / 16), Text.hexDigit (b.toNat % 16)]
  | none => text.toList

/-- The name of a kind of bytes. -/
def subtypeName (n : UInt8) : String :=
  match n.toNat with
  | 0 => "Generic"
  | 1 => "Function"
  | 2 => "BinaryOld"
  | 3 => "UuidOld"
  | 4 => "Uuid"
  | 5 => "Md5"
  | 6 => "Encrypted"
  | 7 => "Column"
  | 8 => "Sensitive"
  | 9 => "Vector"
  | k => if k < 128 then s!"Reserved({k})" else s!"UserDefined({k})"

/-- A name with one field in parentheses. -/
def tagged (name : String) (field : List Char) : List Char :=
  name.toList ++ '(' :: field ++ [')']

/-- A name with named fields in braces. -/
def withFields (name : String) (fields : List (String × List Char)) : List Char :=
  name.toList ++ r" { ".toList ++
    commaSeparated (fields.map fun f => f.1.toList ++ ':' :: ' ' :: f.2) ++ r" }".toList

/-- The text of a document from the texts of its entries. -/
def taggedDocument (entries : List (List Char)) : List Char :=
  tagged "Document" ('{' :: commaSeparated entries ++ ['}'])

mutual

/-- The text of a value. -/
def inspect : Bson → List Char
  | double x => tagged "Double" x.inspect
  | string s => tagged "String" (Text.inspect s.toList)
  | document entries => taggedDocument (inspectEntries entries)
  | array items => tagged "Array" ('[' :: commaSeparated (inspectItems items) ++ [']'])
  | binary subtype bytes =>
    withFields "Binary" [("subtype", (subtypeName subtype).toList),
      ("bytes", '[' :: commaSeparated (bytes.map fun b => decimalNat b.toNat) ++ [']'])]
  | undefined => "Undefined".toList
  | objectId hex => tagged "ObjectId" (Text.inspect hex.toList)
  | boolean b => tagged "Boolean" (toString b).toList
  | dateTime millis => tagged "DateTime" (inspectDate millis)
  | null => "Null".toList
  | regex pattern options =>
    withFields "Regex" [("pattern", Text.inspect pattern.toList),
      ("options", Text.inspect options.toList)]
  | code source => tagged "JavaScriptCode" (Text.inspect source.toList)
  | codeWithScope source scope =>
    withFields "JavaScriptCodeWithScope" [("code", Text.inspect source.toList),
      ("scope", taggedDocument (inspectEntries scope))]
  | symbol s => tagged "Symbol" (Text.inspect s.toList)
  | int32 n => tagged "Int32" (decimalInt n.toInt)
  | timestamp time increment =>
    withFields "Timestamp" [("time", decimalNat time.toNat),
      ("increment", decimalNat increment.toNat)]
  | int64 n => tagged "Int64" (decimalInt n.toInt)
  | decimal128 text => tagged "Decimal128" (inspectDecimal text)
  | minKey => "MinKey".toList
  | maxKey => "MaxKey".toList

def inspectItems : List Bson → List (List Char)
  | [] => []
  | x :: xs => inspect x :: inspectItems xs

def inspectEntries : List (String × Bson) → List (List Char)
  | [] => []
  | (key, x) :: es => (Text.inspect key.toList ++ ':' :: ' ' :: inspect x) :: inspectEntries es

end

end Bson

end QueryShell
