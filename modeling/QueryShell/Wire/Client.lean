import QueryShell.Bson.Storable
import QueryShell.Wire.Command
import QueryShell.Wire.Reply

/-!
# Clients over a wire

A `Link` carries one command at a time to a server and brings back one reply.
`Link.client` makes a client of it: every request is one command, and a cursor
that has more documents than fit into a reply is followed until it is exhausted.
What cannot be stored cannot be sent either; documents to insert and commands of
one's own are looked at before a server is, everything else after it.

The modules on the wire are the outermost layer, which only the program and its
`IO` stand on. Everything else works with a `Client` or a `Store` and asks
nothing of it but its answers, and what is proved holds whatever they are.
Nothing is proved about the wire itself: how a server words its replies is
settled by the server.
-/

namespace QueryShell

/-- A computation that talks to a server. -/
abbrev LinkM (σ : Type) := ExceptT ServerFailure (StateM σ)

structure Link (σ : Type) where
  /-- Finds a server to talk to. -/
  select : LinkM σ Unit
  /-- Sends a command to a database. -/
  send : (database : String) → Document → LinkM σ Document
  /-- A new identifier for a document. -/
  newId : LinkM σ Bson
  /-- How many batches of a cursor are fetched at most. -/
  maxBatches : Nat

namespace LinkM

variable {σ α : Type}

/-- The computation as a call of a store. -/
def toStore (x : LinkM σ α) : StoreM σ α :=
  fun s =>
    match x s with
    | (.ok a, s) => (.ok a, s)
    | (.error e, s) => (.error (.query e.toError), s)

end LinkM

namespace Link

variable {σ : Type} (link : Link σ)

/-- A document that is sent can be stored. -/
def checkStorable (d : Document) : Except ServerFailure Unit :=
  if Bson.entriesStorable d then .ok () else .error (.unwritable "a key or a pattern holds a NUL")

/-- Sends a command and checks the reply. -/
def request (database : String) (command : Except ServerFailure Document) : LinkM σ Document := do
  link.select
  let command ← ofExcept command
  ofExcept (checkStorable command)
  ofExcept (Reply.check (← link.send database command))

/-- The documents of a cursor after those that were read. -/
def follow : (fuel : Nat) → Reply.Batch → LinkM σ (List Document)
  | fuel, batch => do
    if batch.cursor = 0 then return batch.documents
    match fuel with
    | 0 => throw (.unreadable "the cursor has no end")
    | fuel + 1 =>
      let reply ← link.request batch.database
        (.ok (WireCommand.getMore batch.cursor batch.collection))
      return batch.documents ++ (← follow fuel (← ofExcept (Reply.nextBatch batch reply)))

/-- All documents of the cursor that a command opens. -/
def documents (database : String) (command : Except ServerFailure Document) :
    LinkM σ (List Document) := do
  link.follow link.maxBatches
    (← ofExcept (Reply.firstBatch (← link.request database command)))

/-- A document with an identifier: its own, or a new one in front. -/
def identify (d : Document) : LinkM σ (Bson × Document) := do
  match Entries.get? "_id" d with
  | some id => return (id, d)
  | none =>
    let id ← link.newId
    return (id, ("_id", id) :: d)

/-- Inserts documents. The answer holds the identifiers of those that the server
has inserted. -/
def insert (database collection : String) (ds : List Document)
    (read : Document → Except ServerFailure UInt64) : LinkM σ (List Bson) := do
  ofExcept (ds.forM checkStorable)
  link.select
  let ds ← ds.mapM link.identify
  let reply ← link.request database (.ok (WireCommand.insert collection (ds.map Prod.snd)))
  let n ← ofExcept (read reply)
  return (ds.map Prod.fst).take n.toNat

/-- A document that updates others holds operators only, as far as its first key
shows. -/
def checkUpdate : Update → Except ServerFailure Unit
  | .pipeline _ => .ok ()
  | .operators [] => .error (.invalidRequest "update document must not be empty")
  | .operators ((key, _) :: _) =>
    if key.toList.head? = some '$' then .ok ()
    else .error (.invalidRequest "update document must only contain update modifiers")

/-- The client that works with a database over a link. -/
def client (database : String) : Client σ where
  database
  find collection filter options :=
    (link.documents database (WireCommand.find collection filter options)).toStore
  findOne collection filter projection := LinkM.toStore do
    let ds ← link.documents database (.ok (WireCommand.findOne collection filter projection))
    return ds.head?
  insertOne collection d := LinkM.toStore do
    let ids ← link.insert database collection [d] Reply.written
    return ids.head?.getD .null
  insertMany collection ds :=
    (link.insert database collection ds Reply.inserted).toStore
  update scope collection filter change upsert := LinkM.toStore do
    ofExcept (checkUpdate change)
    let command := WireCommand.update scope collection filter change upsert
    ofExcept (Reply.updated (← link.request database (.ok command)))
  delete scope collection filter := LinkM.toStore do
    ofExcept (Reply.written
      (← link.request database (.ok (WireCommand.delete scope collection filter))))
  aggregate collection pipeline :=
    (link.documents database (.ok (WireCommand.aggregate collection pipeline))).toStore
  countDocuments collection filter := LinkM.toStore do
    let command := WireCommand.aggregate collection (WireCommand.countPipeline filter)
    match ← link.documents database (.ok command) with
    | [] => return 0
    | d :: _ => ofExcept (Reply.field "n" Bson.natural? d)
  distinct collection field filter := LinkM.toStore do
    let reply ← link.request database (.ok (WireCommand.distinct collection field filter))
    ofExcept (Reply.field "values" Bson.items? reply)
  runCommand command := LinkM.toStore do
    ofExcept (checkStorable command)
    link.request database (.ok command)
  collectionNames database filter := LinkM.toStore do
    let ds ← link.documents database (.ok (WireCommand.listCollections filter))
    ofExcept (ds.mapM (Reply.field "name" Bson.string?))
  databases := LinkM.toStore do
    ofExcept (Reply.databases (← link.request "admin" (.ok WireCommand.listDatabases)))

end Link

end QueryShell
