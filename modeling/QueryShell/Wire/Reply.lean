import QueryShell.Bson.Basic
import QueryShell.Client.Basic
import QueryShell.Modifier
import QueryShell.Wire.Failure

/-!
# Replies

What the documents say that a server answers with. A reply reports its own
success; a reply without the fields that are needed cannot be read. Replies are
a matter of the outermost layer (`Link.client`): what a reply is read as is all
that the layers above see of it.
-/

namespace QueryShell

namespace Bson

/-- A size, which may be written as any number. -/
def size? : Bson → Option UInt64
  | double x => if x.isNonNegative then some x.toCount else none
  | x => x.natural?

/-- An error code. -/
def code? (x : Bson) : Option Int32 := do
  let n ← x.integer?
  if -2 ^ 31 ≤ n ∧ n < 2 ^ 31 then some (Int32.ofInt n) else none

end Bson

namespace Reply

/-- A field that is needed. -/
def field (key : String) (read : Bson → Option α) (reply : Document) : Except ServerFailure α :=
  match (Entries.get? key reply).bind read with
  | some a => .ok a
  | none => .error (.unreadable s!"no valid field '{key}'")

/-- A field that may be missing. -/
def field? (key : String) (read : Bson → Option α) (reply : Document) :
    Except ServerFailure (Option α) :=
  match Entries.get? key reply with
  | none => .ok none
  | some .null => .ok none
  | some _ => do .ok (some (← field key read reply))

/-- The text of an error. -/
def reason (d : Document) : String :=
  ((Entries.get? "errmsg" d).bind Bson.string?).getD ""

/-- Whether the server did what the command says. -/
def isOk (reply : Document) : Bool :=
  match Entries.get? "ok" reply with
  | some (.int32 n) => n == 1
  | some (.int64 n) => n == 1
  | some (.double x) => x == Double.ofInt 1
  | _ => false

/-- A reply of success, or the error that it reports. -/
def check (reply : Document) : Except ServerFailure Document :=
  if isOk reply then .ok reply
  else do .error (.command (← field "code" Bson.code? reply) (reason reply))

/-! ### Cursors -/

/-- A part of the documents of a cursor. A cursor that is exhausted has the
number zero. -/
structure Batch where
  cursor : Int64
  database : String
  collection : String
  documents : List Document

/-- Splits the full name of a collection. -/
def splitName? (name : String) : Option (String × String) :=
  let cs := name.toList
  let database := cs.takeWhile (· != '.')
  match cs.drop database.length with
  | '.' :: collection => some (String.ofList database, String.ofList collection)
  | _ => none

def cursorNumber? : Bson → Option Int64 := fun x => x.integer?.map Int64.ofInt

/-- The first documents of a cursor. -/
def firstBatch (reply : Document) : Except ServerFailure Batch := do
  let cursor ← field "cursor" Bson.document? reply
  let (database, collection) ← field "ns" (fun x => x.string?.bind splitName?) cursor
  .ok {
    cursor := ← field "id" cursorNumber? cursor
    database, collection
    documents := ← field "firstBatch" (fun x => x.items?.bind (·.mapM Bson.document?)) cursor }

/-- The next documents of a cursor. -/
def nextBatch (previous : Batch) (reply : Document) : Except ServerFailure Batch := do
  let cursor ← field "cursor" Bson.document? reply
  .ok { previous with
    cursor := ← field "id" cursorNumber? cursor
    documents := ← field "nextBatch" (fun x => x.items?.bind (·.mapM Bson.document?)) cursor }

/-! ### Writes -/

/-- An error that a write reports about itself: its code and its text. -/
def errorOf (d : Document) : Except ServerFailure (Int32 × String) := do
  .ok (← field "code" Bson.code? d, reason d)

/-- The errors that a write reports: those of its documents, then that of its
storage. `none` stands for success. -/
def writeErrors (reply : Document) : Except ServerFailure (Option (Option (Int32 × String))) := do
  let errors ← field? "writeErrors" (fun x => x.items?.bind (·.mapM Bson.document?)) reply
  let concern ← field? "writeConcernError" Bson.document? reply
  match errors, concern with
  | some (d :: _), _ => do .ok (some (some (← errorOf d)))
  | _, some d => do .ok (some (some (← errorOf d)))
  | some [], none => .ok (some none)
  | none, none => .ok none

/-- The number of documents that a write is about, if nothing went wrong. -/
def written (reply : Document) : Except ServerFailure UInt64 := do
  let n ← field "n" Bson.natural? reply
  match ← writeErrors reply with
  | some (some (code, reason)) => .error (.write code reason)
  | _ => .ok n

/-- The number of documents that an insertion of several is about, if nothing
went wrong. -/
def inserted (reply : Document) : Except ServerFailure UInt64 := do
  let n ← field "n" Bson.natural? reply
  match ← writeErrors reply with
  | some e => .error (.insertMany (e.map Prod.fst) ((e.map Prod.snd).getD ""))
  | none => .ok n

/-- What an update has done. A document that was inserted does not count as a
match. -/
def updated (reply : Document) : Except ServerFailure UpdateCounts := do
  let modified ← field "nModified" Bson.natural? reply
  let n ← written reply
  let upserted ← field? "upserted" (fun x => x.items?.bind (·.mapM Bson.document?)) reply
  let ids := (upserted.getD []).map (Entries.get? "_id")
  .ok ⟨UInt64.ofNat (n.toNat - ids.length), modified, ids.head?.bind id⟩

/-! ### Listings -/

/-- The name of a database and its size on the disk. -/
def databaseOf (d : Document) : Except ServerFailure (String × UInt64) := do
  let name ← field "name" Bson.string? d
  .ok (name, ← field "sizeOnDisk" Bson.size? d)

def databases (reply : Document) : Except ServerFailure (List (String × UInt64)) := do
  (← field "databases" (fun x => x.items?.bind (·.mapM Bson.document?)) reply).mapM databaseOf

end Reply

end QueryShell
