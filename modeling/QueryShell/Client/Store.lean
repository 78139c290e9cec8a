import QueryShell.Client.Cursor
import QueryShell.Client.Request
import QueryShell.Execution

/-!
# The store of a client

A client is a document store: a collection is known by its name, and an
operation becomes a request only if its arguments have the right shape. Searches
and aggregations wait in a cursor until they are drained; everything else runs
at once.
-/

namespace QueryShell

namespace Request

/-- Hands a request to a client. -/
def perform {σ : Type} (client : Client σ) (collection : String) :
    Request → StoreM σ (Output Cursor)
  | find filter projection => return .cursor { collection, source := .find filter projection }
  | aggregate pipeline => return .cursor { collection, source := .aggregate pipeline }
  | findOne filter projection => do
    match ← client.findOne collection filter projection with
    | some d => return .document d
    | none => return .nothing
  | insertOne d => do
    let id ← client.insertOne collection d
    return .document [("acknowledged", .boolean true), ("insertedId", id)]
  | insertMany ds => do
    let ids ← client.insertMany collection ds
    return .document [("acknowledged", .boolean true), ("insertedIds", .array ids)]
  | update scope filter change upsert => do
    let r ← client.update scope collection filter change upsert
    return .document ([("acknowledged", .boolean true), ("matchedCount", countValue r.matched),
      ("modifiedCount", countValue r.modified)] ++ Cursor.optionalEntry "upsertedId" r.upserted)
  | delete scope filter => do
    let n ← client.delete scope collection filter
    return .document [("acknowledged", .boolean true), ("deletedCount", countValue n)]
  | countDocuments filter => return .count (← client.countDocuments collection filter)
  | distinct field filter => return .values (← client.distinct collection field filter)

end Request

/-- A number in a reply of the server, whatever its type; what is no number or
negative counts as zero. -/
def Bson.statistic : Option Bson → UInt64
  | some (.int32 n) => UInt64.ofNat n.toInt.toNat
  | some (.int64 n) => UInt64.ofNat n.toInt.toNat
  | some (.double x) => if x.isNonNegative then x.toCount else 0
  | _ => 0

namespace Client

variable {σ : Type} (client : Client σ)

/-- Runs an operation on a collection. -/
def invoke (collection : String) (o : Operation) (args : List Literal) :
    StoreM σ (Output Cursor) :=
  match Request.ofArgs o args with
  | .ok r => r.perform client collection
  | .error e => .failQuery e

/-- Names in alphabetical order. -/
def sortNames (names : List String) : List String :=
  names.mergeSort fun a b => decide (a ≤ b)

/-- The size of a collection. -/
def statistics (name : String) : StoreM σ CollectionInfo := do
  let reply ← client.runCommand [("collStats", .string name)]
  return ⟨name, Bson.statistic (Entries.get? "count" reply),
    Bson.statistic (Entries.get? "size" reply)⟩

/-- Collections with a size of their own; a view has none. -/
def collectionStats : StoreM σ (List CollectionInfo) := do
  let names ← client.collectionNames client.database (some [("type", .string "collection")])
  (sortNames names).mapM client.statistics

/-- All databases of the server in alphabetical order, with their
collections. -/
def listDatabases : StoreM σ (List DatabaseInfo) := do
  let infos ← (← client.databases).mapM fun (name, bytes) => do
    return ⟨name, bytes, sortNames (← client.collectionNames name none)⟩
  return infos.mergeSort fun a b => decide (a.name ≤ b.name)

/-- The document store that a client is. -/
def store : Store σ String Cursor where
  resolve name := pure name
  invoke := client.invoke
  applyModifier c m := Cursor.lift (c.apply m)
  drain := Cursor.drain client
  sampleDocument name := client.findOne name [] none
  sampleDocuments name n :=
    client.aggregate name
      [[("$sample", .document [("size", .int64 (Int64.ofNat (min n (2 ^ 63 - 1))))])]]
  listCollections := return sortNames (← client.collectionNames client.database none)
  collectionStats := client.collectionStats
  listDatabases := client.listDatabases

end Client

end QueryShell
