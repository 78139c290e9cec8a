import QueryShell.Display.Basic
import QueryShell.Error.Basic
import QueryShell.Text.Blank

/-!
# Settings

What a user can set, in five sections, with the values that hold when nothing is
said. Settings come from a file, then from the environment, then from the
command line; `Settings.validate` says which settings the shell can work with.
-/

namespace QueryShell

/-- How much the shell writes about its own work. -/
inductive LogLevel where
  | error
  | warn
  | info
  | debug
  | trace
deriving DecidableEq, Repr

namespace LogLevel

/-- The word for a level in a settings file. -/
def name : LogLevel → String
  | error => "error"
  | warn => "warn"
  | info => "info"
  | debug => "debug"
  | trace => "trace"

/-- All levels, from the quietest on. -/
def all : List LogLevel :=
  [error, warn, info, debug, trace]

/-- The level that a word stands for, whose case does not matter. -/
def ofName? (s : String) : Option LogLevel :=
  match Text.lower s with
  | "warning" => some warn
  | word => all.find? fun level => level.name == word

end LogLevel

/-- Where the database is and how to talk to it. -/
structure ConnectionSettings where
  uri : String := "mongodb://localhost:27017"
  database : String := "test"
  /-- How long to wait for the server, in seconds. -/
  timeout : UInt64 := 10
  maxPoolSize : UInt32 := 10
deriving DecidableEq, Repr

structure DisplaySettings where
  format : OutputFormat := .jsonPretty
  coloured : Bool := true
  timing : Bool := true
deriving DecidableEq, Repr

structure CompletionSettings where
  maxSuggestions : UInt64 := 50
  /-- Collections to suggest when the store is not asked. -/
  collections : List String := []
deriving DecidableEq, Repr

structure SchemaSettings where
  /-- How many documents to look at. -/
  sampleSize : UInt64 := 1
deriving DecidableEq, Repr

structure LoggingSettings where
  level : LogLevel := .warn
  timestamps : Bool := false
deriving DecidableEq, Repr

structure Settings where
  connection : ConnectionSettings := {}
  display : DisplaySettings := {}
  completion : CompletionSettings := {}
  schema : SchemaSettings := {}
  logging : LoggingSettings := {}
deriving DecidableEq, Repr

/-! ### Words from the environment and the command line -/

/-- The format that a word stands for. -/
def OutputFormat.parse (s : String) : Except ShellError OutputFormat :=
  match ofName? s with
  | some format => .ok format
  | none => .error (.config (.invalidValue "display.format" s))

/-- The level that a word stands for. -/
def LogLevel.parse (s : String) : Except ShellError LogLevel :=
  match ofName? s with
  | some level => .ok level
  | none => .error (.config (.invalidValue "logging.level" s))

namespace Settings

/-- One change that the environment asks for, if its variable is set. -/
def override (value : Option String) (change : Settings → String → Except ShellError Settings)
    (s : Settings) : Settings × Option ShellError :=
  match value.map (change s) with
  | none => (s, none)
  | some (.ok s') => (s', none)
  | some (.error e) => (s, some e)

/-- The variables that the environment may set, and what each of them
changes. -/
def overrides : List (String × (Settings → String → Except ShellError Settings)) :=
  [("DOCSHELL_URI", fun s v => .ok { s with connection := { s.connection with uri := v } }),
    ("DOCSHELL_DATABASE", fun s v =>
      .ok { s with connection := { s.connection with database := v } }),
    ("DOCSHELL_LOG_LEVEL", fun s v => do
      .ok { s with logging := { s.logging with level := ← LogLevel.parse v } }),
    ("DOCSHELL_FORMAT", fun s v => do
      .ok { s with display := { s.display with format := ← OutputFormat.parse v } })]

/-- Applies the changes that the environment asks for, up to the first that
fails. What was changed before stays changed. -/
def applyEnvironment (lookup : String → Option String) (s : Settings) :
    Settings × Option ShellError :=
  go overrides s
where
  go : List (String × (Settings → String → Except ShellError Settings)) → Settings →
      Settings × Option ShellError
    | [], s => (s, none)
    | (name, change) :: rest, s =>
      match override (lookup name) change s with
      | (s', none) => go rest s'
      | failed => failed

end Settings

/-! ### What can be worked with -/

/-- The address must name one of the two schemes. -/
def ConnectionSettings.validateUri (c : ConnectionSettings) : Except ShellError Unit :=
  let uri := c.uri.toList.dropWhile Text.isBlank
  if "mongodb://".toList.isPrefixOf uri || "mongodb+srv://".toList.isPrefixOf uri then .ok ()
  else .error (.config (.invalidValue "connection.uri" c.uri))

/-- A number that may not be zero. -/
def Settings.requirePositive (field : String) (n : UInt64) : Except ShellError Unit :=
  if n = 0 then .error (.config (.invalidValue field "0")) else .ok ()

/-- The first setting that the shell cannot work with is an error. -/
def Settings.validate (s : Settings) : Except ShellError Unit := do
  s.connection.validateUri
  requirePositive "connection.timeout" s.connection.timeout
  requirePositive "completion.max_suggestions" s.completion.maxSuggestions
  requirePositive "schema.sample_size" s.schema.sampleSize

end QueryShell
