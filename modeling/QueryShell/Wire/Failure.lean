import QueryShell.Error.Query

/-!
# Failures of a server

What may go wrong between a request and its answer, and what the user is told
about it. Codes that are well known have a name. The words for a failure are
those of the outermost layer (`Link.client`): to everything above it they are
the text of some error of a store.
-/

namespace QueryShell

/-- Why a request has no answer. -/
inductive ServerFailure where
  /-- No server could be found. -/
  | unreachable
  /-- The request cannot be made; no server has seen it. -/
  | invalidRequest (reason : String)
  /-- The request cannot be written as a command. -/
  | unwritable (reason : String)
  /-- The reply lacks what the request needs. -/
  | unreadable (reason : String)
  /-- The server refused a command. -/
  | command (code : Int32) (reason : String)
  /-- The server refused a write. -/
  | write (code : Int32) (reason : String)
  /-- The server refused a part of an insertion of several documents. -/
  | insertMany (code : Option Int32) (reason : String)
deriving DecidableEq, Repr

namespace ServerFailure

/-- The names of some codes. -/
def codeName? (code : Int32) : Option String :=
  if code = 11000 ∨ code = 11001 then some "DuplicateKey"
  else if code = 13 then some "Unauthorized"
  else if code = 18 then some "AuthenticationFailed"
  else if code = 26 then some "NamespaceNotFound"
  else if code = 50 then some "MaxTimeMSExpired"
  else if code = 121 then some "DocumentValidationFailure"
  else none

/-- The class of a failure, where it has one. -/
def type? : ServerFailure → Option String
  | unreachable => some "mongo.server_selection_error"
  | invalidRequest _ => some "mongo.invalid_argument"
  | unwritable _ => none
  | unreadable _ => none
  | command .. => some "mongo.command_error"
  | write .. => some "mongo.write_error"
  | insertMany .. => some "mongo.insert_many_error"

def code? : ServerFailure → Option Int32
  | command code _ => some code
  | write code _ => some code
  | insertMany code _ => code
  | _ => none

def message : ServerFailure → String
  | unreachable => "no server is available"
  | invalidRequest reason => s!"invalid request: {reason}"
  | unwritable reason => s!"the command cannot be written: {reason}"
  | unreadable reason => s!"the reply cannot be read: {reason}"
  | command code reason => s!"the command failed with code {code.toInt}: {reason}"
  | write code reason => s!"the write failed with code {code.toInt}: {reason}"
  | insertMany _ reason => s!"the insertion failed: {reason}"

def diagnostic (f : ServerFailure) : StoreDiagnostic :=
  ⟨f.type?, f.code?, f.code?.bind codeName?⟩

/-- The failure as an error of the store. -/
def toError (f : ServerFailure) : QueryError :=
  (QueryError.store f.message).withDiagnostic f.diagnostic

end ServerFailure

end QueryShell
