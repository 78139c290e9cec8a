import QueryShell.Json.Basic
import QueryShell.Number.Decimal
import QueryShell.Number.Integer
import QueryShell.Text.Quoted

/-!
# Writing JSON

Two layouts of a JSON value: `Json.compact` has no blanks, and `Json.pretty`
gives every element and every member a line of its own, indented by a fixed
number of spaces a level.
-/

namespace QueryShell.Json

/-- The text of a value that holds no others. -/
def scalar : Json → List Char
  | null => "null".toList
  | bool true => "true".toList
  | bool false => "false".toList
  | integer n => decimalInt n
  | float x => x.jsonNumeral
  | string s => Text.quoted s.toList
  | array _ => []
  | object _ => []

/-! ### On one line -/

mutual

/-- The text of a value without blanks. -/
def compact : Json → List Char
  | array items => '[' :: compactItems items ++ [']']
  | object members => '{' :: compactMembers members ++ ['}']
  | x => scalar x

/-- Values separated by commas. -/
def compactItems : List Json → List Char
  | [] => []
  | [x] => compact x
  | x :: xs => compact x ++ ',' :: compactItems xs

/-- Members separated by commas. -/
def compactMembers : List (String × Json) → List Char
  | [] => []
  | [(key, x)] => Text.quoted key.toList ++ ':' :: compact x
  | (key, x) :: ms => Text.quoted key.toList ++ ':' :: compact x ++ ',' :: compactMembers ms

end

/-! ### On several lines -/

/-- A line break and the blanks before the next line. -/
def lineBreak (indent level : Nat) : List Char :=
  '\n' :: List.replicate (indent * level) ' '

mutual

/-- The text of a value that stands `level` levels deep, with `indent` spaces a
level. -/
def prettyAt (indent level : Nat) : Json → List Char
  | array [] => ['[', ']']
  | array (x :: xs) => '[' :: prettyItems indent (level + 1) (x :: xs) ++ lineBreak indent level ++ [']']
  | object [] => ['{', '}']
  | object (m :: ms) =>
    '{' :: prettyMembers indent (level + 1) (m :: ms) ++ lineBreak indent level ++ ['}']
  | x => scalar x

/-- Values on lines of their own. -/
def prettyItems (indent level : Nat) : List Json → List Char
  | [] => []
  | [x] => lineBreak indent level ++ prettyAt indent level x
  | x :: xs =>
    lineBreak indent level ++ prettyAt indent level x ++ ',' :: prettyItems indent level xs

/-- Members on lines of their own. -/
def prettyMembers (indent level : Nat) : List (String × Json) → List Char
  | [] => []
  | [(key, x)] =>
    lineBreak indent level ++ Text.quoted key.toList ++ ':' :: ' ' :: prettyAt indent level x
  | (key, x) :: ms =>
    lineBreak indent level ++ Text.quoted key.toList ++ ':' :: ' ' :: prettyAt indent level x ++
      ',' :: prettyMembers indent level ms

end

/-- The text of a value with `indent` spaces a level. -/
def pretty (indent : Nat) (x : Json) : List Char :=
  prettyAt indent 0 x

end QueryShell.Json
