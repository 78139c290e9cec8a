import QueryShell.CommandLine.Run
import QueryShell.Wire.Client

/-!
# The program

Reads the command line, the settings file and the environment, runs the command,
and prints what it says. All that is decided is decided by `Arguments.parse`,
`Arguments.settings` and `Command.execute`. This program has no way to a server,
so that a command that needs one reports that it found none.
-/

namespace QueryShell.Program

/-- A link on which no server is ever found. -/
def deadLink : Link Unit where
  select := throw .unreachable
  send _ _ := throw .unreachable
  newId := throw .unreachable
  maxBatches := 0

/-- The addresses of servers have one of two schemes. -/
def readUri (uri : String) : Except String Unit :=
  let cs := uri.toList
  if "mongodb://".toList.isPrefixOf cs || "mongodb+srv://".toList.isPrefixOf cs then .ok ()
  else .error "invalid connection string scheme"

def transport : Transport Unit Unit Unit where
  readUri
  configure _ o := o
  build _ := .ok ()
  ping _ := pure (.error ServerFailure.unreachable.message)
  client _ database := deadLink.client database

/-- What is known of a file. -/
def readFile (path : String) : IO FileContent := do
  try
    return .text (← IO.FS.readFile path)
  catch
    | .noFileOrDirectory .. => return .missing
    | e => return .unreadable (toString e)

/-- The environment that the settings depend on. -/
def environment : IO Environment := do
  let home := (← IO.getEnv "HOME").getD "."
  let values ← Settings.overrides.mapM fun (name, _) => do return (name, ← IO.getEnv name)
  return { defaultFile := home ++ "/.docshell/config.toml",
           lookup := fun name => (values.lookup name).join }

/-- Runs the words of a command line and gives the exit code. -/
def run (words : List String) : IO UInt32 := do
  match Arguments.parse words with
  | .error .help =>
    IO.println ArgumentError.help.display
    return 0
  | .error .version =>
    IO.println ArgumentError.version.display
    return 0
  | .error e =>
    IO.eprintln e.display
    return 2
  | .ok a =>
    let env ← environment
    let path := a.path env
    match a.settings env (← readFile path) with
    | .error e =>
      IO.eprintln s!"Error: {e.display}"
      return 1
    | .ok s =>
      match (a.command.execute transport s path).run () with
      | (.ok text, _) =>
        IO.println text
        return 0
      | (.error e, _) =>
        IO.eprintln (s.printing.error e)
        return 1

end QueryShell.Program

/-- The entry of the program. -/
def main (words : List String) : IO UInt32 :=
  QueryShell.Program.run words
