import QueryShell.Client.Basic
import QueryShell.Settings.Basic

/-!
# Connections

A `Connection` owns at most one way to a server and remembers how the last
attempt to connect went. Connecting takes three steps, each of which may fail:
the address is read, a way to the server is built, and a ping has to be
answered. A step that fails leaves an older way in place.
-/

namespace QueryShell

/-- How connections to a server are made. Options are of type `ω` and ways to a
server of type `κ`; a step that fails gives a reason. -/
structure Transport (σ ω κ : Type) where
  readUri : String → Except String ω
  /-- Puts the settings of a connection into its options. -/
  configure : ConnectionSettings → ω → ω
  build : ω → Except String κ
  ping : κ → StateM σ (Except String Unit)
  /-- The client of a database. -/
  client : κ → (database : String) → Client σ

inductive ConnectionState where
  | disconnected
  | connecting
  | connected
  | failed (message : String)
deriving DecidableEq, Repr

structure Connection (κ : Type) where
  settings : ConnectionSettings
  way : Option κ := none
  state : ConnectionState := .disconnected

namespace Connection

variable {σ ω κ : Type}

/-- The connection after a step that failed. -/
def fail (c : Connection κ) (e : ConnectionError) : Connection κ :=
  { c with state := .failed (ShellError.connection e).display }

/-- Connects. A way that cannot be built leaves the connection as it is while it
is made. -/
def connect (t : Transport σ ω κ) (c : Connection κ) :
    StateM σ (Connection κ × Except ShellError Unit) := do
  let c := { c with state := .connecting }
  match t.readUri c.settings.uri with
  | .error reason =>
    let e := ConnectionError.invalidUri s!"{c.settings.uri}: {reason}"
    return (c.fail e, .error (.connection e))
  | .ok options =>
    match t.build (t.configure c.settings options) with
    | .error reason => return (c, .error (.connection (.connectionFailed reason)))
    | .ok way =>
      match ← t.ping way with
      | .error reason =>
        let e := ConnectionError.pingFailed reason
        return (c.fail e, .error (.connection e))
      | .ok () => return ({ c with way := some way, state := .connected }, .ok ())

def disconnect (c : Connection κ) : Connection κ :=
  { c with way := none, state := .disconnected }

/-- The way to the server, if there is one. -/
def getWay (c : Connection κ) : Except ShellError κ :=
  match c.way with
  | some way => .ok way
  | none => .error (.connection .notConnected)

/-- The client of the database that the settings name. -/
def client (t : Transport σ ω κ) (c : Connection κ) : Except ShellError (Client σ) :=
  c.getWay.map fun way => t.client way c.settings.database

def isConnected (c : Connection κ) : Bool :=
  c.state == .connected

end Connection

end QueryShell
