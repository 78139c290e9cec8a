import QueryShell.Client.Basic
import QueryShell.Modifier

/-!
# Cursors

A cursor is a search or an aggregation that has not run yet. Modifiers change in
place what it will ask: of two that sort, limit or skip a search the later
counts, while those of an aggregation become stages at the end of its pipeline,
in order. A limit of zero is none.
-/

namespace QueryShell

/-- What a cursor asks a collection when it is drained. -/
inductive CursorSource where
  | find (filter : Document) (projection : Option Document)
  | aggregate (pipeline : List Document)
deriving Repr

structure Cursor where
  collection : String
  source : CursorSource
  sort : Option Document := none
  limit : Option UInt64 := none
  skip : Option UInt64 := none
  /-- How much to explain, if the query is not to run but to be explained. -/
  explain : Option Verbosity := none
deriving Repr

/-- A change of a cursor in place, which may fail. What it has changed before it
fails stays changed. -/
abbrev CursorM := ExceptT QueryError (StateM Cursor)

namespace Cursor

/-- A count as the integer that the server takes. -/
def toInt64 (name : String) (n : UInt64) : Except QueryError Int64 :=
  if n.toNat < 2 ^ 63 then .ok (Int64.ofNat n.toNat)
  else .error (.invalidArgument s!"{name} value {n.toNat} is too large (max: 9223372036854775807)")

/-- A count that may be missing as the integer that the server takes. -/
def toInt64? (name : String) (n : Option UInt64) : Except QueryError (Option Int64) :=
  match n with
  | none => .ok none
  | some n => (toInt64 name n).map some

/-- A limit that limits something. -/
def positive? (n : Option UInt64) : Option UInt64 :=
  n.filter fun n => 0 < n

/-- Adds a stage to a pipeline. -/
def withStage (c : Cursor) (pipeline : List Document) (name : String) (value : Bson) : Cursor :=
  { c with source := .aggregate (pipeline ++ [[(name, value)]]) }

/-- Adds a stage that counts documents to the pipeline of a cursor. -/
def pushCount (c : Cursor) (pipeline : List Document) (name stage : String) (n : UInt64) :
    CursorM Unit := do
  let n ← ofExcept (toInt64 name n)
  set (c.withStage pipeline stage (.int64 n))

/-- Changes the cursor as a modifier says. -/
def modify (m : Modifier) : CursorM Unit := do
  let c ← get
  match c.source, m with
  | _, .explain verbosity => set { c with explain := some verbosity }
  | .aggregate pipeline, .sort spec => set (c.withStage pipeline "$sort" (.document spec))
  | .aggregate pipeline, .skip n => c.pushCount pipeline "skip" "$skip" n
  | .aggregate pipeline, .limit n =>
    if 0 < n then c.pushCount pipeline "limit" "$limit" n
  | .find .., .sort spec => set { c with sort := some spec }
  | .find .., .skip n => set { c with skip := some n }
  | .find .., .limit n => set { c with limit := some n }

/-- The cursor with a modifier. -/
def apply (c : Cursor) (m : Modifier) : Except QueryError Cursor :=
  match modify m c with
  | (.ok (), c) => .ok c
  | (.error e, _) => .error e

/-- The limit of a search. -/
def limitOf (c : Cursor) : Except QueryError (Option Int64) :=
  toInt64? "limit" (positive? c.limit)

/-- What a search is asked to do besides filtering. -/
def findOptions (c : Cursor) (projection : Option Document) : Except QueryError FindOptions := do
  .ok { projection, sort := c.sort, skip := c.skip, limit := ← c.limitOf }

/-- An entry that is there only if its value is. -/
def optionalEntry (key : String) (value : Option Bson) : Document :=
  (value.map fun v => (key, v)).toList

/-- The command that an explanation is about. -/
def explainedCommand (c : Cursor) : Except QueryError Document :=
  match c.source with
  | .find filter projection => do
    let skip ← toInt64? "skip" c.skip
    let limit ← c.limitOf
    .ok ([("find", .string c.collection), ("filter", .document filter)] ++
      optionalEntry "projection" (projection.map .document) ++ optionalEntry "sort" (c.sort.map .document) ++
      optionalEntry "skip" (skip.map .int64) ++ optionalEntry "limit" (limit.map .int64))
  | .aggregate pipeline =>
    .ok [("aggregate", .string c.collection), ("pipeline", .array (pipeline.map .document)),
      ("cursor", .document [])]

/-- The command that explains a query. -/
def explanation (c : Cursor) (verbosity : Verbosity) : Except QueryError Document := do
  .ok [("explain", .document (← c.explainedCommand)), ("verbosity", .string verbosity.name)]

/-- A cursor's own failure is a failure of the store that it belongs to. -/
def lift {σ α : Type} : Except QueryError α → StoreM σ α
  | .ok a => pure a
  | .error e => .failQuery e

/-- Asks what the cursor stands for. An explanation is the only document of its
answer. -/
def drain {σ : Type} (client : Client σ) (c : Cursor) : StoreM σ (List Document) :=
  match c.explain with
  | some verbosity => do
    let command ← lift (c.explanation verbosity)
    return [← client.runCommand command]
  | none =>
    match c.source with
    | .find filter projection => do
      let options ← lift (c.findOptions projection)
      client.find c.collection filter options
    | .aggregate pipeline => client.aggregate c.collection pipeline

end Cursor

end QueryShell
