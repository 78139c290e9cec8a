import QueryShell.Client.Store
import QueryShell.Proofs.Execution.Recording

/-!
# What is asked of a client

`Client.recorded` puts a recorder in front of a client: every call is passed on
and noted with all that it is given, and with the error if it fails. A recorder
is a client itself, so whatever runs on a client runs on a recorded one. What is
noted is what the client has been handed, and nothing but it.

A request is handed on in one call at most. A search or an aggregation only
makes a cursor, and the client hears of it when the cursor is drained.

## Main statements

* `Request.perform_recorded`: the call that a request is handed on with, and
  that noting it changes nothing else.
-/

namespace QueryShell

variable {σ α β : Type}

/-! ## Recording -/

/-- **A call on a client** with all that it is given. Looks at collections and
databases are not told apart. -/
inductive ClientCall where
  | find (collection : String) (filter : Document) (options : FindOptions)
  | findOne (collection : String) (filter : Document) (projection : Option Document)
  | insertOne (collection : String) (d : Document)
  | insertMany (collection : String) (ds : List Document)
  | update (scope : Scope) (collection : String) (filter : Document) (update : Update)
    (upsert : Option Bool)
  | delete (scope : Scope) (collection : String) (filter : Document)
  | aggregate (collection : String) (pipeline : List Document)
  | countDocuments (collection : String) (filter : Document)
  | distinct (collection field : String) (filter : Document)
  | runCommand (command : Document)
  | browse

/-- A call on a client with the error that it has failed with. -/
structure ClientExchange where
  call : ClientCall
  error? : Option ShellError

namespace StoreM

/-- Asks a client and notes the call. -/
def note (call : ClientCall) (x : StoreM σ α) : StoreM (σ × List ClientExchange) α :=
  fun (s, log) =>
    let (a, s) := x s
    (a, s, log ++ [⟨call, failure? a⟩])

/-- Noting a call runs the computation as it is and writes one line behind the
log. -/
theorem note_apply (call : ClientCall) (x : StoreM σ α) (s : σ) (log : List ClientExchange) :
    x.note call (s, log) = ((x s).1, (x s).2, log ++ [⟨call, failure? (x s).1⟩]) := rfl

/-- The answer to a call that was noted may be worked up: it fails if the call
fails. -/
theorem note_bind_pure (call : ClientCall) (x : StoreM σ α) (f : α → β) (s : σ)
    (log : List ClientExchange) :
    (x.note call >>= fun a => pure (f a)) (s, log) =
      (((x >>= fun a => pure (f a)) s).1, ((x >>= fun a => pure (f a)) s).2,
        log ++ [⟨call, failure? ((x >>= fun a => pure (f a)) s).1⟩]) := by
  rw [bind_apply, bind_apply, note_apply]
  generalize x s = answer
  obtain ⟨_ | _, s⟩ := answer <;> rfl

end StoreM

/-- **A client whose calls are noted**, one behind the other, each with the
error that it came to. The state of the recorded client is that of the client
with the log beside it, and every answer is the client's. -/
def Client.recorded (client : Client σ) : Client (σ × List ClientExchange) where
  database := client.database
  find collection filter options :=
    (client.find collection filter options).note (.find collection filter options)
  findOne collection filter projection :=
    (client.findOne collection filter projection).note (.findOne collection filter projection)
  insertOne collection d := (client.insertOne collection d).note (.insertOne collection d)
  insertMany collection ds := (client.insertMany collection ds).note (.insertMany collection ds)
  update scope collection filter change upsert :=
    (client.update scope collection filter change upsert).note
      (.update scope collection filter change upsert)
  delete scope collection filter :=
    (client.delete scope collection filter).note (.delete scope collection filter)
  aggregate collection pipeline :=
    (client.aggregate collection pipeline).note (.aggregate collection pipeline)
  countDocuments collection filter :=
    (client.countDocuments collection filter).note (.countDocuments collection filter)
  distinct collection field filter :=
    (client.distinct collection field filter).note (.distinct collection field filter)
  runCommand command := (client.runCommand command).note (.runCommand command)
  collectionNames database filter := (client.collectionNames database filter).note .browse
  databases := client.databases.note .browse

/-! ## Requests -/

namespace Request

/-- The call that a request is handed on with. A cursor has not been asked
yet. -/
def call? (collection : String) : Request → Option ClientCall
  | find _ _ => none
  | aggregate _ => none
  | findOne filter projection => some (.findOne collection filter projection)
  | insertOne d => some (.insertOne collection d)
  | insertMany ds => some (.insertMany collection ds)
  | update scope filter change upsert => some (.update scope collection filter change upsert)
  | delete scope filter => some (.delete scope collection filter)
  | countDocuments filter => some (.countDocuments collection filter)
  | distinct field filter => some (.distinct collection field filter)

/-- A request for one document makes one call. Its answer is the document, or
nothing. -/
theorem perform_findOne (client : Client σ) (collection : String) (filter : Document)
    (projection : Option Document) :
    (findOne filter projection).perform client collection =
      client.findOne collection filter projection >>= fun found =>
        pure (found.elim .nothing .document) := by
  refine bind_congr fun found => ?_
  cases found <;> rfl

/-- **What a request asks of a client**: its one call, if it has any, which
fails as the request does. Searches and aggregations make no call yet: their
cursor makes it when it is drained. -/
theorem perform_recorded (client : Client σ) (collection : String) (r : Request) (s : σ)
    (log : List ClientExchange) :
    r.perform client.recorded collection (s, log) =
      ((r.perform client collection s).1, (r.perform client collection s).2,
        log ++ (r.call? collection).toList.map
          (⟨·, failure? (r.perform client collection s).1⟩)) := by
  cases r with
  | find | aggregate =>
    show _ = (_, _, log ++ [])
    rw [List.append_nil]
    rfl
  | findOne filter projection =>
    rw [perform_findOne, perform_findOne]
    exact StoreM.note_bind_pure _ _ _ s log
  | insertOne | insertMany | update | delete | countDocuments | distinct =>
    exact StoreM.note_bind_pure _ _ _ s log

/-- A request that has failed has made its call. -/
theorem exists_call?_of_error {client : Client σ} {collection : String} {r : Request} {s : σ}
    {e : ShellError} (h : (r.perform client collection s).1 = .error e) :
    ∃ call, r.call? collection = some call := by
  cases r with
  | find | aggregate => cases h
  | findOne | insertOne | insertMany | update | delete | countDocuments | distinct => exact ⟨_, rfl⟩

end Request

/-- A client that finds nothing and agrees to everything. -/
def Client.idle : Client Unit where
  database := "test"
  find _ _ _ := pure []
  findOne _ _ _ := pure none
  insertOne _ _ := pure .null
  insertMany _ _ := pure []
  update _ _ _ _ _ := pure ⟨0, 0, none⟩
  delete _ _ _ := pure 0
  aggregate _ _ := pure []
  countDocuments _ _ := pure 0
  distinct _ _ _ := pure []
  runCommand _ := pure []
  collectionNames _ _ := pure []
  databases := pure []

end QueryShell
