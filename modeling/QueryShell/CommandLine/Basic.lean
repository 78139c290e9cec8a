import QueryShell.Settings.Basic

/-!
# The command line

What a user can ask for when the shell is started: one of seven commands, and
flags that override the settings.
-/

namespace QueryShell

inductive Command where
  /-- Shows the structure of a query. -/
  | parse (query : String)
  /-- Shows what may stand at a place in a query. Without a cursor it is
  the end. -/
  | complete (query : String) (cursor : Option Nat) (collections fields : List String)
  /-- Runs a query. -/
  | run (query : String)
  /-- Shows the fields of a collection, as some of its documents have them. -/
  | fields (collection : String) (sample : Option Nat)
  | collections
  | databases
  /-- Shows the settings or checks them. -/
  | config (shown checked : Bool)
deriving DecidableEq, Repr

/-- A command with the flags that come before or after it. -/
structure Arguments where
  configFile : Option String := none
  uri : Option String := none
  database : Option String := none
  format : Option String := none
  noColour : Bool := false
  timeout : Option UInt64 := none
  quiet : Bool := false
  verbose : Bool := false
  veryVerbose : Bool := false
  command : Command
deriving DecidableEq, Repr

namespace Arguments

/-- The level of logging that the flags ask for; the wordiest counts. -/
def level (a : Arguments) (default : LogLevel) : LogLevel :=
  if a.veryVerbose then .trace
  else if a.verbose then .debug
  else if a.quiet then .error
  else default

/-- The settings with what the flags override. -/
def apply (a : Arguments) (s : Settings) : Except ShellError Settings := do
  let format ← match a.format with
    | some word => OutputFormat.parse word
    | none => .ok s.display.format
  .ok { s with
    connection := { s.connection with
      uri := a.uri.getD s.connection.uri
      database := a.database.getD s.connection.database
      timeout := a.timeout.getD s.connection.timeout }
    display := { s.display with
      format
      coloured := s.display.coloured && !a.noColour }
    logging := { s.logging with level := a.level s.logging.level } }

end Arguments

end QueryShell
