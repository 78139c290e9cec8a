/-!
# Query errors

A `QueryError` says what is wrong with a query, or what the document store
reported when it ran. Parts of the library describe their faults by types of
their own and turn them into a `QueryError` by its kind and message; the place
is added where it is known.
-/

namespace QueryShell

/-- The classes of query errors. -/
inductive QueryErrorKind where
  /-- The query has no `db.<collection>.` in front, or a call is not
  balanced. -/
  | malformedQuery
  /-- A string, regular expression or bracket is never closed. -/
  | unterminatedLiteral
  /-- An argument is no well-formed literal. -/
  | invalidLiteral
  /-- An argument is an expression of a form that is not a literal. -/
  | unsupportedConstruct
  /-- The first call names no supported operation. -/
  | unknownOperation
  /-- A later call is no cursor modifier, or modifies a result that is no
  cursor. -/
  | unsupportedModifier
  /-- A call has an argument that it cannot use. -/
  | invalidArgument
  /-- The document store reported a failure. -/
  | storeError
deriving DecidableEq, Repr

namespace QueryErrorKind

def name : QueryErrorKind → String
  | malformedQuery => "MalformedQuery"
  | unterminatedLiteral => "UnterminatedLiteral"
  | invalidLiteral => "InvalidLiteral"
  | unsupportedConstruct => "UnsupportedConstruct"
  | unknownOperation => "UnknownOperation"
  | unsupportedModifier => "UnsupportedModifier"
  | invalidArgument => "InvalidArgument"
  | storeError => "StoreError"

/-- All kinds, in the order of their declaration. -/
def all : List QueryErrorKind :=
  [malformedQuery, unterminatedLiteral, invalidLiteral, unsupportedConstruct, unknownOperation,
    unsupportedModifier, invalidArgument, storeError]

end QueryErrorKind

/-- What a store tells about its own error besides the message. -/
structure StoreDiagnostic where
  /-- The class of the error. -/
  type : Option String
  code : Option Int32
  codeName : Option String
deriving DecidableEq, Repr, Inhabited

/-- What is wrong with a query, and where. -/
structure QueryError where
  kind : QueryErrorKind
  message : String
  /-- The text of the query, empty while it is not known. -/
  query : String := ""
  /-- The byte offset of the fault in the query text. -/
  offset : Option Nat := none
  /-- The index of the call that is at fault. -/
  callIndex : Option Nat := none
  diagnostic : Option StoreDiagnostic := none
deriving DecidableEq, Repr

namespace QueryError

def atOffset (e : QueryError) (offset : Nat) : QueryError :=
  { e with offset := some offset }

/-- Moves the offset by `base`; a missing offset becomes `base`. -/
def shifted (e : QueryError) (base : Nat) : QueryError :=
  { e with offset := some (base + e.offset.getD 0) }

def inCall (e : QueryError) (index : Nat) : QueryError :=
  { e with callIndex := some index }

def withQuery (e : QueryError) (query : String) : QueryError :=
  { e with query }

def withDiagnostic (e : QueryError) (d : StoreDiagnostic) : QueryError :=
  { e with diagnostic := some d }

/-- A failure of the store, with the message that the store gave. -/
def store (message : String) : QueryError :=
  { kind := .storeError, message }

def unknownOperation (name : String) : QueryError :=
  { kind := .unknownOperation, message := s!"'{name}' is not a supported collection operation" }

def unsupportedModifier (message : String) : QueryError :=
  { kind := .unsupportedModifier, message }

def invalidArgument (message : String) : QueryError :=
  { kind := .invalidArgument, message }

/-- The text of the error. The message of a store stands alone; any other is
followed by the call and the offset, where known. -/
def display (e : QueryError) : String :=
  let head := s!"{e.kind.name}: {e.message}"
  if e.kind = .storeError then head
  else
    let call := match e.callIndex with
      | some i => s!" (call #{i})"
      | none => ""
    let place := match e.offset with
      | some n => s!" at offset {n}"
      | none => ""
    head ++ call ++ place

end QueryError

end QueryShell
