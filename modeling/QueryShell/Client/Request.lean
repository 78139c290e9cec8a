import QueryShell.Client.Basic
import QueryShell.Error.Query
import QueryShell.Literal.Document

/-!
# Requests

A `Request` is an operation with arguments of the right shape. `Request.ofArgs`
checks the arguments that were written in a query before a client sees any of
them.
-/

namespace QueryShell

/-- What is asked of a collection. -/
inductive Request where
  | find (filter : Document) (projection : Option Document)
  | findOne (filter : Document) (projection : Option Document)
  | insertOne (d : Document)
  | insertMany (ds : List Document)
  | update (scope : Scope) (filter : Document) (update : Update) (upsert : Option Bool)
  | delete (scope : Scope) (filter : Document)
  | aggregate (pipeline : List Document)
  | countDocuments (filter : Document)
  | distinct (field : String) (filter : Document)
deriving Repr

namespace Request

/-- What is wrong with the arguments of an operation. `what` names the
argument. -/
inductive Fault where
  | tooMany (max count : Nat)
  /-- An argument that should be an object is something else. -/
  | notObject (what : String) (arg : Literal)
  /-- An object is missing. -/
  | noObject (what : String)
  /-- An argument that should be an array is something else. -/
  | notArray (what : String) (arg : Literal)
  /-- An array that should hold objects holds something else. -/
  | notObjects (what : String) (item : Literal)
  /-- An argument is missing. -/
  | missing (what : String)
  | noDocuments
  | notUpdate (arg : Literal)
  | notFieldName (arg : Literal)

namespace Fault

def message (o : Operation) : Fault → String
  | tooMany max n => s!"{o.name}() takes at most {max} argument(s), got {n}"
  | notObject what arg => s!"{o.name}() expects {what} to be an object, got {arg.typeName}"
  | noObject what => s!"{o.name}() requires a {what} object"
  | notArray what arg => s!"{o.name}() expects {what} to be an array, got {arg.typeName}"
  | notObjects what item =>
    s!"{o.name}() expects {what} to contain only objects, got {item.typeName}"
  | missing what => s!"{o.name}() requires {what}"
  | noDocuments => s!"{o.name}() requires at least one document"
  | notUpdate arg => s!"{o.name}() expects an update object or pipeline, got {arg.typeName}"
  | notFieldName arg => s!"{o.name}() expects a field name string, got {arg.typeName}"

end Fault

/-! ### Arguments by their position -/

/-- There may be no more than `max` arguments. -/
def checkArity (max : Nat) (args : List Literal) : Except Fault Unit :=
  if max < args.length then .error (.tooMany max args.length) else .ok ()

/-- An object that may be missing. -/
def object? (what : String) : Option Literal → Except Fault (Option Document)
  | none => .ok none
  | some (.object entries) => .ok (some (Literal.toDocument entries))
  | some arg => .error (.notObject what arg)

/-- An object that may not be missing. -/
def object (what : String) (arg : Option Literal) : Except Fault Document := do
  match ← object? what arg with
  | some d => .ok d
  | none => .error (.noObject what)

/-- A filter; without one every document is meant. -/
def filterOf (arg : Option Literal) : Except Fault Document := do
  .ok ((← object? "filter" arg).getD [])

/-- The documents of an array of objects. -/
def documentsOf (what : String) : List Literal → Except Fault (List Document)
  | [] => .ok []
  | .object entries :: items => do
    .ok (Literal.toDocument entries :: (← documentsOf what items))
  | item :: _ => .error (.notObjects what item)

/-- An array of objects. -/
def documents (what : String) : Option Literal → Except Fault (List Document)
  | some (.array items) => documentsOf what items
  | some arg => .error (.notArray what arg)
  | none => .error (.missing what)

/-- An update: an object of operators, or an array of stages. -/
def updateOf : Option Literal → Except Fault Update
  | some (.object entries) => .ok (.operators (Literal.toDocument entries))
  | some (.array items) => do .ok (.pipeline (← documentsOf "the update pipeline" items))
  | some arg => .error (.notUpdate arg)
  | none => .error (.missing "an update")

/-- Whether an update inserts a document if none matches; only a boolean
tells. -/
def upsertOf (options : Option Document) : Option Bool :=
  match options.bind (Entries.get? "upsert") with
  | some (.boolean b) => some b
  | _ => none

/-- The name of a field. -/
def fieldName : Option Literal → Except Fault String
  | some (.string s) => .ok s
  | some arg => .error (.notFieldName arg)
  | none => .error (.missing "a field name")

/-- Stages as arguments of their own. -/
def stagesOf : List Literal → Except Fault (List Document)
  | [] => .ok []
  | arg :: args => do
    let d ← object "each pipeline stage" (some arg)
    .ok (d :: (← stagesOf args))

/-- A pipeline: one array of stages, which options may follow, or the stages
themselves. The options have no effect. -/
def pipelineOf : List Literal → Except Fault (List Document)
  | [.array items] => documentsOf "the pipeline" items
  | [.array items, .object _] => documentsOf "the pipeline" items
  | args => stagesOf args

/-! ### Requests by their operation -/

def updateRequest (scope : Scope) (args : List Literal) : Except Fault Request := do
  checkArity 3 args
  let filter ← object "filter" args[0]?
  let change ← updateOf args[1]?
  let options ← object? "options" args[2]?
  .ok (.update scope filter change (upsertOf options))

def deleteRequest (scope : Scope) (args : List Literal) : Except Fault Request := do
  checkArity 1 args
  .ok (.delete scope (← object "filter" args[0]?))

/-- The request of an operation with the given arguments. -/
def read (o : Operation) (args : List Literal) : Except Fault Request :=
  match o with
  | .find => do
    checkArity 2 args
    let filter ← filterOf args[0]?
    .ok (.find filter (← object? "projection" args[1]?))
  | .findOne => do
    checkArity 2 args
    let filter ← filterOf args[0]?
    .ok (.findOne filter (← object? "projection" args[1]?))
  | .insertOne => do
    checkArity 1 args
    .ok (.insertOne (← object "document" args[0]?))
  | .insertMany => do
    checkArity 1 args
    let ds ← documents "documents" args[0]?
    if ds.isEmpty then .error .noDocuments else .ok (.insertMany ds)
  | .updateOne => updateRequest .one args
  | .updateMany => updateRequest .many args
  | .deleteOne => deleteRequest .one args
  | .deleteMany => deleteRequest .many args
  | .aggregate => do .ok (.aggregate (← pipelineOf args))
  | .countDocuments => do
    checkArity 1 args
    .ok (.countDocuments (← filterOf args[0]?))
  | .distinct => do
    checkArity 2 args
    let field ← fieldName args[0]?
    .ok (.distinct field (← filterOf args[1]?))

/-- The request of an operation with the arguments of a query. -/
def ofArgs (o : Operation) (args : List Literal) : Except QueryError Request :=
  match read o args with
  | .ok r => .ok r
  | .error f => .error (.invalidArgument (f.message o))

end Request

end QueryShell
