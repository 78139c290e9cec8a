import QueryShell.Literal.Printer
import QueryShell.Token.Basic

/-!
# Queries

A query names a collection and makes a chain of calls on it, as in
`db.users.find({}).limit(5)`. The first call is the operation; the calls after
it modify the operation's result.
-/

namespace QueryShell

/-- One call of a chain. -/
structure Call where
  name : String
  args : List Literal
  /-- The bytes of the query text from the name to the closing parenthesis. -/
  span : Span
deriving Repr

namespace Call

/-- The text of a call. -/
def chars (c : Call) : List Char :=
  c.name.toList ++ '(' :: Literal.itemsChars c.args ++ [')']

def text (c : Call) : String :=
  String.ofList c.chars

end Call

/-- A collection and the calls made on it. -/
structure Query where
  collection : String
  calls : List Call
deriving Repr

namespace Query

/-- The first call. -/
def base? (q : Query) : Option Call :=
  q.calls.head?

/-- The calls after the first. -/
def modifiers (q : Query) : List Call :=
  q.calls.drop 1

def names (q : Query) : List String :=
  q.calls.map Call.name

/-- The text of a query, without blanks around its tokens. -/
def chars (q : Query) : List Char :=
  "db.".toList ++ q.collection.toList ++ q.calls.flatMap fun c => '.' :: c.chars

def text (q : Query) : String :=
  String.ofList q.chars

end Query

end QueryShell
