import QueryShell.Error.Basic
import QueryShell.Modifier
import QueryShell.Operation

/-!
# Document stores

A `Store` is what the shell needs from a database. Each of its calls may fail,
and may change the state `σ` of the world behind it; nothing else is assumed of
them. Collections and cursors are values of types that the store chooses.
-/

namespace QueryShell

/-- A computation that asks a store with states of type `σ` and may fail. -/
abbrev StoreM (σ : Type) := ExceptT ShellError (StateM σ)

namespace StoreM

variable {σ α : Type}

/-- Changes the error of a computation that fails. -/
def mapError (f : ShellError → ShellError) (x : StoreM σ α) : StoreM σ α :=
  fun s =>
    match x s with
    | (.ok a, s) => (.ok a, s)
    | (.error e, s) => (.error (f e), s)

/-- Fails with a query error. -/
def failQuery (e : QueryError) : StoreM σ α :=
  throw (.query e)

end StoreM

/-- What an operation answers, with cursors of type `γ`. -/
inductive Output (γ : Type) where
  | document (d : Document)
  /-- No document. -/
  | nothing
  | count (n : UInt64)
  | values (vs : List Bson)
  | cursor (c : γ)

namespace Output

/-- The words for an answer in messages. -/
def describe {γ : Type} : Output γ → String
  | document _ => "a document"
  | nothing => "no document"
  | count _ => "a count"
  | values _ => "a list of values"
  | cursor _ => "a cursor"

end Output

/-- The size of a collection. -/
structure CollectionInfo where
  name : String
  documents : UInt64
  /-- The size of the data in bytes. -/
  bytes : UInt64
deriving DecidableEq, Repr

/-- The size of a database, and its collections. -/
structure DatabaseInfo where
  name : String
  /-- The size on the disk in bytes. -/
  bytes : UInt64
  collections : List String
deriving DecidableEq, Repr

/-- A document store with collections of type `κ` and cursors of type `γ`. -/
structure Store (σ κ γ : Type) where
  resolve : String → StoreM σ κ
  invoke : κ → Operation → List Literal → StoreM σ (Output γ)
  applyModifier : γ → Modifier → StoreM σ γ
  /-- Fetches all documents of a cursor. -/
  drain : γ → StoreM σ (List Document)
  /-- Fetches one document of a collection, if it has any. -/
  sampleDocument : String → StoreM σ (Option Document)
  /-- Fetches up to a number of documents; a store that can fetch only one does
  so. -/
  sampleDocuments : String → Nat → StoreM σ (List Document) := fun collection _ => do
    return (← sampleDocument collection).toList
  listCollections : StoreM σ (List String)
  /-- The collections of the current database, sorted by name. -/
  collectionStats : StoreM σ (List CollectionInfo)
  listDatabases : StoreM σ (List DatabaseInfo)

end QueryShell
