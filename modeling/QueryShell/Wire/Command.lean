import QueryShell.Client.Basic
import QueryShell.Client.Cursor
import QueryShell.Wire.Failure

/-!
# Commands

The documents that ask a server for something. A command is known by its first
entry. They belong to the outermost layer (`Link.client`), below which no
statement reaches.
-/

namespace QueryShell.WireCommand

open Cursor (optionalEntry)

/-- A count that a command can carry. -/
def count (n : UInt64) : Except ServerFailure Bson :=
  if n.toNat < 2 ^ 63 then .ok (.int64 (Int64.ofNat n.toNat))
  else .error (.unwritable s!"{n.toNat} is too large")

def find (collection : String) (filter : Document) (o : FindOptions) :
    Except ServerFailure Document := do
  let skip ← match o.skip with
    | none => .ok none
    | some n => do .ok (some (← count n))
  .ok ([("find", .string collection), ("filter", .document filter)] ++
    optionalEntry "projection" (o.projection.map .document) ++ optionalEntry "sort" (o.sort.map .document) ++
    optionalEntry "skip" skip ++ optionalEntry "limit" (o.limit.map .int64))

def findOne (collection : String) (filter : Document) (projection : Option Document) : Document :=
  [("find", .string collection), ("filter", .document filter)] ++
    optionalEntry "projection" (projection.map .document) ++
    [("limit", .int64 1), ("singleBatch", .boolean true)]

def aggregate (collection : String) (pipeline : List Document) : Document :=
  [("aggregate", .string collection), ("pipeline", .array (pipeline.map .document)),
    ("cursor", .document [])]

/-- Asks for the next documents of a cursor that the server keeps. -/
def getMore (cursor : Int64) (collection : String) : Document :=
  [("getMore", .int64 cursor), ("collection", .string collection)]

def insert (collection : String) (ds : List Document) : Document :=
  [("insert", .string collection), ("ordered", .boolean true),
    ("documents", .array (ds.map .document))]

def update (scope : Scope) (collection : String) (filter : Document) (change : Update)
    (upsert : Option Bool) : Document :=
  let changes : Bson :=
    match change with
    | .operators d => .document d
    | .pipeline stages => .array (stages.map .document)
  [("update", .string collection), ("ordered", .boolean true),
    ("updates", .array [.document ([("q", .document filter), ("u", changes)] ++
      optionalEntry "upsert" (upsert.map .boolean) ++
      (if scope = .many then [("multi", Bson.boolean true)] else []))])]

def delete (scope : Scope) (collection : String) (filter : Document) : Document :=
  [("delete", .string collection), ("ordered", .boolean true),
    ("deletes", .array [.document [("q", .document filter),
      ("limit", .int32 (if scope = .one then 1 else 0))]])]

/-- The pipeline that counts the documents that meet a filter. -/
def countPipeline (filter : Document) : List Document :=
  [[("$match", .document filter)],
    [("$group", .document [("_id", .int32 1), ("n", .document [("$sum", .int32 1)])])]]

def distinct (collection field : String) (filter : Document) : Document :=
  [("distinct", .string collection), ("key", .string field), ("query", .document filter)]

/-- Asks for the collections of a database; with a filter, for more than their
names. -/
def listCollections (filter : Option Document) : Document :=
  [("listCollections", .int32 1), ("nameOnly", .boolean filter.isNone)] ++
    optionalEntry "filter" (filter.map .document)

def listDatabases : Document :=
  [("listDatabases", .int32 1), ("nameOnly", .boolean false)]

end QueryShell.WireCommand
