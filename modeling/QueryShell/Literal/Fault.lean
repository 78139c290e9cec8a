import QueryShell.Error.Query
import QueryShell.Token.Tree

/-!
# Faults of argument texts

What can be wrong with the text of a call's arguments. The class of an error and
the words that describe it are functions of the fault.
-/

namespace QueryShell.Literal

/-- What a parser waits for when it meets another token. -/
inductive Expected where
  | value
  | key
  /-- The colon after a key. -/
  | colon
  /-- A comma or the closing brace after a property. -/
  | afterProperty
  /-- A comma or the closing bracket after an element. -/
  | afterElement
  /-- A comma between two arguments. -/
  | afterArgument
deriving DecidableEq, Repr

/-- What is wrong with an argument text. -/
inductive Fault where
  /-- A string runs into the end of the text. -/
  | unclosedString
  /-- A regular expression runs into the end of its line. -/
  | unclosedRegex
  | brackets (fault : TokenTree.Fault)
  /-- Arrays and objects are nested too deep. -/
  | tooDeep
  /-- A string between grave accents. -/
  | template
  /-- A minus before something that is no numeral. -/
  | minus
  | unknownFlag (flag : Char)
  | repeatedFlag (flag : Char)
  /-- The word `new`. -/
  | constructor
  /-- A name before an opening parenthesis. -/
  | callOf (name : String)
  /-- A name before a point. -/
  | memberOf (name : String)
  /-- A name where a value should stand. -/
  | identifier (name : String)
  | parenthesized
  | operator (c : Char)
  /-- A character with no place in query text. -/
  | character (c : Char)
  /-- A numeral of no finite double. -/
  | range (numeral : String)
  | numeral (text : String)
  /-- A key between square brackets. -/
  | computedKey
  /-- A comma where an element of an array should stand. -/
  | hole
  /-- An opening parenthesis after a value. -/
  | call
  /-- A point after a value. -/
  | member
  /-- An opening bracket after a value. -/
  | index
  | unexpected (expected : Expected) (found : TokenKind)

namespace Expected

def message : Expected → String
  | value => "expected a value"
  | key => "expected an object key"
  | colon => "expected ':' after object key"
  | afterProperty => r"expected ',' or '}' after object property"
  | afterElement => "expected ',' or ']' after array element"
  | afterArgument => "expected ',' between arguments"

end Expected

/-- A character between single quotes. -/
def quotedChar (c : Char) : String :=
  String.ofList ['\'', c, '\'']

/-- The words for a token in messages. -/
def describe : TokenKind → String
  | .db => "'db'"
  | .ident name => s!"identifier '{name}'"
  | .number text => s!"number {text}"
  | .string .. => "string"
  | .regex .. => "regex"
  | .opener b => quotedChar b.opener
  | .closer b => quotedChar b.closer
  | .dot => "'.'"
  | .comma => "','"
  | .colon => "':'"
  | .semicolon => "';'"
  | .operator c => quotedChar c
  | .unknown c => quotedChar c
  | .eof => "end of input"

/-- How deep arrays and objects may be nested. -/
def maxDepth : Nat := 128

namespace Fault

def kind : Fault → QueryErrorKind
  | unclosedString | unclosedRegex | brackets (.unclosed _) => .unterminatedLiteral
  | brackets _ | tooDeep | unknownFlag _ | repeatedFlag _ | character _ | range _ | numeral _ | hole
  | unexpected .. => .invalidLiteral
  | template | minus | constructor | callOf _ | memberOf _ | identifier _ | parenthesized
  | operator _ | computedKey | call | member | index => .unsupportedConstruct

def message : Fault → String
  | unclosedString => "string literal is never closed"
  | unclosedRegex => "regex literal is never closed"
  | brackets (.unclosed b) => s!"{quotedChar b.opener} is never closed"
  | brackets (.unmatched b) => s!"unmatched {quotedChar b.closer}"
  | brackets (.mismatched a b) => s!"{quotedChar b.closer} does not close {quotedChar a.opener}"
  | brackets .emptyPlace => "empty argument"
  | tooDeep => s!"literal nesting exceeds {maxDepth} levels"
  | template => "template literals are not supported"
  | minus => "unary '-' only applies to a number literal"
  | unknownFlag c => s!"invalid regex flag {quotedChar c}"
  | repeatedFlag c => s!"duplicate regex flag {quotedChar c}"
  | constructor => "constructor calls are not supported"
  | callOf name => s!"call expression '{name}(...)' is not a literal"
  | memberOf name => s!"property access on '{name}' is not a literal"
  | identifier name => s!"identifier '{name}' is only allowed as an object key"
  | parenthesized => "parenthesized expressions are not supported"
  | operator c => s!"operator {quotedChar c} is not supported"
  | character c => s!"unexpected character {quotedChar c}"
  | range text => s!"number '{text}' is out of range"
  | numeral text => s!"invalid number '{text}'"
  | computedKey => "computed object keys are not supported"
  | hole => "array holes are not supported"
  | call => "call expressions are not supported"
  | member => "property access is not supported"
  | index => "index expressions are not supported"
  | unexpected expected found => s!"{expected.message}, found {describe found}"

/-- The error for a fault at an offset. -/
def toError (fault : Fault) (offset : Nat) : QueryError :=
  { kind := fault.kind, message := fault.message, offset := some offset }

/-- The fault of a literal that its text ends before it is closed. -/
def unclosed : TokenKind → Fault
  | .regex .. => unclosedRegex
  | _ => unclosedString

end Fault

end QueryShell.Literal
