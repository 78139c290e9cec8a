import QueryShell.Error.Query

/-!
# Errors of the shell

Everything that can go wrong is one of five classes. `ShellError.display` is the
text that the user reads.
-/

namespace QueryShell

inductive ConnectionError where
  | connectionFailed (message : String)
  | invalidUri (message : String)
  | notConnected
  | pingFailed (message : String)
deriving DecidableEq, Repr

namespace ConnectionError

def display : ConnectionError → String
  | connectionFailed m => s!"Failed to connect: {m}"
  | invalidUri m => s!"Invalid connection URI: {m}"
  | notConnected => "Not connected to MongoDB"
  | pingFailed m => s!"Ping failed: {m}"

end ConnectionError

inductive ConfigError where
  | fileNotFound (path : String)
  | invalidFormat (message : String)
  | invalidValue (field value : String)
deriving DecidableEq, Repr

namespace ConfigError

def display : ConfigError → String
  | fileNotFound path => s!"Config file not found: {path}"
  | invalidFormat m => s!"Invalid config format: {m}"
  | invalidValue field value => s!"Invalid value '{value}' for field '{field}'"

end ConfigError

inductive ShellError where
  | query (e : QueryError)
  | connection (e : ConnectionError)
  | config (e : ConfigError)
  /-- A failed access to a file. -/
  | io (message : String)
  | generic (message : String)
deriving DecidableEq, Repr

namespace ShellError

def display : ShellError → String
  | query e => e.display
  | connection e => s!"Connection error: {e.display}"
  | config e => s!"Configuration error: {e.display}"
  | io m => s!"I/O error: {m}"
  | generic m => m

/-- The class of a query error. -/
def queryKind? : ShellError → Option QueryErrorKind
  | query e => some e.kind
  | _ => none

end ShellError

end QueryShell
