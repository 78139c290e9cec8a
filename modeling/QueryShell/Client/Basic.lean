import QueryShell.Store

/-!
# Clients of a database server

A `Client` hands requests on a collection to a server and brings back the
answers. Each of its calls may fail and may change the state of the world `σ`;
how it talks to the server is its own business.
-/

namespace QueryShell

/-- What a search does besides filtering. -/
structure FindOptions where
  /-- Which parts of a document to fetch. -/
  projection : Option Document := none
  sort : Option Document := none
  skip : Option UInt64 := none
  limit : Option Int64 := none
deriving Repr

/-- How a document is changed: by one document of operators, or in stages. -/
inductive Update where
  | operators (d : Document)
  | pipeline (stages : List Document)
deriving Repr

/-- Whether a write stops at the first document that matches. -/
inductive Scope where
  | one
  | many
deriving DecidableEq, Repr

/-- What an update has done. -/
structure UpdateCounts where
  matched : UInt64
  modified : UInt64
  /-- The identifier of a document that was inserted since none matched. -/
  upserted : Option Bson
deriving Repr

/-- A client that works with one database. -/
structure Client (σ : Type) where
  /-- The name of the database. -/
  database : String
  find : (collection : String) → (filter : Document) → FindOptions → StoreM σ (List Document)
  findOne : (collection : String) → (filter : Document) → (projection : Option Document) →
    StoreM σ (Option Document)
  /-- Inserts a document and answers with its identifier. -/
  insertOne : (collection : String) → Document → StoreM σ Bson
  /-- Inserts documents in order and answers with their identifiers. -/
  insertMany : (collection : String) → List Document → StoreM σ (List Bson)
  update : Scope → (collection : String) → (filter : Document) → Update →
    (upsert : Option Bool) → StoreM σ UpdateCounts
  /-- Deletes documents and answers with their number. -/
  delete : Scope → (collection : String) → (filter : Document) → StoreM σ UInt64
  aggregate : (collection : String) → (pipeline : List Document) → StoreM σ (List Document)
  countDocuments : (collection : String) → (filter : Document) → StoreM σ UInt64
  distinct : (collection : String) → (field : String) → (filter : Document) →
    StoreM σ (List Bson)
  /-- Runs a command on the database and answers with the server's reply. -/
  runCommand : Document → StoreM σ Document
  /-- The names of the collections of a database that meet a filter, in no
  particular order. -/
  collectionNames : (database : String) → (filter : Option Document) → StoreM σ (List String)
  /-- The names of the databases with their sizes on the disk. -/
  databases : StoreM σ (List (String × UInt64))

end QueryShell
