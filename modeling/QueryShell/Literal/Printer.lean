import QueryShell.Literal.Basic
import QueryShell.Number.Decimal
import QueryShell.Number.Integer
import QueryShell.Text.Quoted

/-!
# Writing literals

`Literal.chars` writes a literal in the notation that it is read from. Numbers
are written with the fewest digits that read back, strings between double
quotes, and a key without quotes where it is a plain word of ASCII characters.
-/

namespace QueryShell.Literal

/-- The text of a number: an integer in full where the double stands for one,
its plain text otherwise. -/
def numberChars (x : Double) : List Char :=
  match x.integral? with
  | some n => decimalInt n.toInt
  | none => x.plain

/-- Whether a key can stand without quotes. -/
def isBareKey : List Char → Bool
  | [] => false
  | c :: cs =>
    (c.isAlpha || c == '_' || c == '$') && cs.all fun c => c.isAlphanum || c == '_' || c == '$'

/-- The text of an object's key. -/
def keyChars (key : String) : List Char :=
  if isBareKey key.toList then key.toList else Text.quoted key.toList

mutual

/-- The text of a literal. -/
def chars : Literal → List Char
  | null => "null".toList
  | bool true => "true".toList
  | bool false => "false".toList
  | number x => numberChars x
  | string s => Text.quoted s.toList
  | regex pattern flags => '/' :: pattern.toList ++ '/' :: flags.toList
  | array items => '[' :: itemsChars items ++ [']']
  | object [] => ['{', '}']
  | object (e :: entries) => '{' :: ' ' :: entriesChars (e :: entries) ++ [' ', '}']

/-- The texts of literals, separated by a comma and a space. -/
def itemsChars : List Literal → List Char
  | [] => []
  | [x] => chars x
  | x :: xs => chars x ++ ',' :: ' ' :: itemsChars xs

/-- The texts of the entries of an object, separated by a comma and a space. -/
def entriesChars : List (String × Literal) → List Char
  | [] => []
  | [(key, x)] => keyChars key ++ ':' :: ' ' :: chars x
  | (key, x) :: es => keyChars key ++ ':' :: ' ' :: chars x ++ ',' :: ' ' :: entriesChars es

end

/-- The text of a literal. -/
def text (x : Literal) : String :=
  String.ofList x.chars

end QueryShell.Literal
