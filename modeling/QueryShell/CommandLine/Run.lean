import QueryShell.Client.Store
import QueryShell.CommandLine.Parser
import QueryShell.Completion.Suggestion
import QueryShell.Connection
import QueryShell.Display.Basic
import QueryShell.Settings.Toml

/-!
# Running a command

`Arguments.settings` joins the settings of a file, of the environment and of the
command line, and `Command.execute` gives the text that a command prints. Only
the commands that ask the database connect to a server; they check the settings
first and disconnect in the end.
-/

namespace QueryShell

/-- What is known of a file: that it is missing, what it holds, or why it cannot
be read. -/
inductive FileContent where
  | missing
  | text (content : String)
  | unreadable (reason : String)
deriving DecidableEq, Repr

/-- The part of the system that the command line depends on. -/
structure Environment where
  /-- The settings file that is used if none is named. -/
  defaultFile : String
  lookup : String → Option String

namespace Arguments

variable {σ ω κ : Type}

/-- The settings file that is used. -/
def path (a : Arguments) (env : Environment) : String :=
  a.configFile.getD env.defaultFile

/-- The settings in a file. A file that was not asked for may be missing. -/
def fileSettings (a : Arguments) (env : Environment) : FileContent → Except ShellError Settings
  | .text content => Settings.ofToml content
  | .unreadable reason => .error (.io reason)
  | .missing => if a.configFile.isNone then .ok {} else .error (.config (.fileNotFound (a.path env)))

/-- The settings that hold for a command: those of the file at `path`, then
those of the environment, then those of the command line. -/
def settings (a : Arguments) (env : Environment) (file : FileContent) :
    Except ShellError Settings := do
  match (← a.fileSettings env file).applyEnvironment env.lookup with
  | (_, some e) => .error e
  | (s, none) => a.apply s

end Arguments

namespace Settings

/-- How results are printed. -/
def printing (s : Settings) : Display :=
  ⟨s.display.format, s.display.coloured, s.display.timing⟩

/-- Suggestions without a store. The collections come from the command line or
the settings, and the fields, if there are any, are those of the collection that
the query names. -/
def suggestions (s : Settings) (query : String) (cursor : Option Nat)
    (collections fields : List String) : List Completion.Suggestion :=
  let names := if collections.isEmpty then s.completion.collections else collections
  let completer :=
    { Completion.Completer.ofCollections names with
      maxSuggestions := s.completion.maxSuggestions.toNat }
  let schema :=
    if fields.isEmpty then none
    else some (Schema.ofFields ((Query.collection? query).getD "") fields)
  let text := query.toList
  completer.complete text (cursor.getD (Text.byteLength text)) schema

/-- The report about the settings, which come from the file at `path`. -/
def report (s : Settings) (path : String) (shown checked : Bool) : Except ShellError String := do
  let verdict ←
    if checked then do
      s.validate
      .ok [s!"Configuration is valid ({path})"]
    else .ok []
  let listing := if shown || !checked then [s!"# Configuration file: {path}", s.toToml] else []
  .ok (String.intercalate "\n" (verdict ++ listing))

variable {σ ω κ α : Type}

/-- Connects to the server and works with the store there. The connection lasts
as long as the work: closing it cannot fail and leaves nothing to answer for. -/
def withStore (s : Settings) (t : Transport σ ω κ) (work : Client σ → StoreM σ α) : StoreM σ α := do
  ExceptT.mk (pure s.validate)
  let (c, outcome) ← (Connection.connect t ⟨s.connection, none, .disconnected⟩ : StateM σ _)
  ExceptT.mk (pure outcome)
  match c.client t with
  | .ok client => work client
  | .error e => throw e

end Settings

/-- Runs a command with the settings of the file at `path` and gives the text
that it prints. -/
def Command.execute {σ ω κ : Type} (t : Transport σ ω κ) (s : Settings) (path : String) :
    Command → StoreM σ String
  | parse query =>
    match Query.parse query with
    | .ok q => return s.printing.query q
    | .error e => throw (.query e)
  | complete query cursor names paths =>
    return s.printing.suggestions (s.suggestions query cursor names paths)
  | run query => do
    match Query.parse query with
    | .ok q =>
      return s.printing.result (← s.withStore t fun client => client.store.executeQuery q query)
    | .error e => throw (.query e)
  | fields collection sample => do
    let n := sample.getD s.schema.sampleSize.toNat
    return s.printing.schema (← s.withStore t fun client => client.store.inferSchema collection n)
  | collections => do
    return s.printing.collections (← s.withStore t fun client => client.store.collectionStats)
  | databases => do
    return s.printing.databases (← s.withStore t fun client => client.store.listDatabases)
  | config shown checked => ExceptT.mk (pure (s.report path shown checked))

end QueryShell
