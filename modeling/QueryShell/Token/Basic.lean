/-!
# Tokens

The tokens of query text. Every token carries the span of bytes that it was read
from. A string or a regular expression that runs into the end of its text is
still a token; its `closed` flag is false then, so that reading tokens never
fails.
-/

namespace QueryShell

/-- A half-open range of byte offsets. -/
structure Span where
  start : Nat
  stop : Nat
deriving DecidableEq, Repr

/-- The three pairs of brackets. -/
inductive Bracket where
  | paren
  | square
  | brace
deriving DecidableEq, Repr

namespace Bracket

def opener : Bracket → Char
  | paren => '('
  | square => '['
  | brace => '{'

def closer : Bracket → Char
  | paren => ')'
  | square => ']'
  | brace => '}'

end Bracket

/-- What a token is, with the text it stands for. -/
inductive TokenKind where
  /-- The word `db`. -/
  | db
  /-- Any other word. -/
  | ident (name : String)
  /-- An unsigned numeral. -/
  | number (text : String)
  /-- A quoted text with its escapes resolved. -/
  | string (value : String) (quote : Char) (closed : Bool)
  /-- A regular expression between slashes, and the letters after it. -/
  | regex (pattern flags : String) (closed : Bool)
  | opener (b : Bracket)
  | closer (b : Bracket)
  | dot
  | comma
  | colon
  | semicolon
  /-- A character of an operator. -/
  | operator (c : Char)
  /-- A character with no place in query text. -/
  | unknown (c : Char)
  /-- The end of the text. -/
  | eof
deriving DecidableEq, Repr

structure Token where
  kind : TokenKind
  span : Span
deriving DecidableEq, Repr

namespace TokenKind

/-- Whether the token is a literal that its text ends before it is closed. -/
def isUnclosed : TokenKind → Bool
  | string _ _ closed => !closed
  | regex _ _ closed => !closed
  | _ => false

def isOpener : TokenKind → Bool
  | opener _ => true
  | _ => false

def isCloser : TokenKind → Bool
  | closer _ => true
  | _ => false

/-- Whether a slash right after the token begins a regular expression: it does
wherever a value may begin, and divides anywhere else. -/
def allowsRegex : TokenKind → Bool
  | opener _ | comma | colon | semicolon | operator _ => true
  | db | ident _ | number _ | string .. | regex .. | closer _ | dot | unknown _ | eof => false

end TokenKind

namespace Token

/-- Whether the token is a literal that its text ends before it is closed. -/
def isUnclosed (t : Token) : Bool := t.kind.isUnclosed

end Token

end QueryShell
