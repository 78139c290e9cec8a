import QueryShell.CommandLine.Basic

/-!
# Flags and subcommands

The words of the command line. Most flags may stand before or after the
subcommand; the others belong to one subcommand. A flag is a switch, or it takes
a value.
-/

namespace QueryShell

inductive Flag where
  | configFile
  | uri
  | database
  | format
  | noColour
  | timeout
  | quiet
  | verbose
  | veryVerbose
  | help
  | version
  | cursor
  | collections
  | fields
  | sample
  | shown
  | checked
deriving DecidableEq, Repr

inductive Subcommand where
  | parse
  | complete
  | run
  | fields
  | collections
  | databases
  | config
deriving DecidableEq, Repr

namespace Subcommand

def name : Subcommand → String
  | parse => "parse"
  | complete => "complete"
  | run => "run"
  | fields => "fields"
  | collections => "collections"
  | databases => "databases"
  | config => "config"

def all : List Subcommand :=
  [parse, complete, run, fields, collections, databases, config]

def ofName? (name : String) : Option Subcommand :=
  all.find? fun c => c.name == name

/-- Whether a word has to follow. -/
def takesWord : Subcommand → Bool
  | parse | complete | run | fields => true
  | _ => false

/-- The flags that only this subcommand has. -/
def flags : Subcommand → List Flag
  | complete => [.cursor, .collections, .fields]
  | fields => [.sample]
  | config => [.shown, .checked]
  | _ => []

end Subcommand

namespace Flag

/-- The name behind two dashes. -/
def name : Flag → String
  | configFile => "config"
  | uri => "uri"
  | database => "database"
  | format => "format"
  | noColour => "no-color"
  | timeout => "timeout"
  | quiet => "quiet"
  | verbose => "verbose"
  | veryVerbose => "vv"
  | help => "help"
  | version => "version"
  | cursor => "cursor"
  | collections => "collections"
  | fields => "fields"
  | sample => "sample"
  | shown => "show"
  | checked => "validate"

/-- The letter behind one dash. -/
def letter? : Flag → Option Char
  | configFile => some 'c'
  | quiet => some 'q'
  | verbose => some 'v'
  | help => some 'h'
  | version => some 'V'
  | _ => none

def takesValue : Flag → Bool
  | configFile | uri | database | format | timeout | cursor | collections | fields | sample => true
  | _ => false

/-- Whether the flag may be given more than once. -/
def repeats : Flag → Bool
  | collections | fields => true
  | _ => false

/-- The flags that stand anywhere. -/
def everywhere : List Flag :=
  [configFile, uri, database, format, noColour, timeout, quiet, verbose, veryVerbose, help]

/-- The flags in front of a subcommand, or behind the given one. -/
def known : Option Subcommand → List Flag
  | none => everywhere ++ [version]
  | some c => everywhere ++ c.flags

/-- The flag with a name. -/
def ofName? (place : Option Subcommand) (name : String) : Option Flag :=
  (known place).find? fun f => f.name == name

/-- The flag with a letter. -/
def ofLetter? (place : Option Subcommand) (c : Char) : Option Flag :=
  (known place).find? fun f => f.letter? == some c

end Flag

/-- Why a command line has no command to run. -/
inductive ArgumentError where
  /-- The help was asked for. -/
  | help
  /-- The version was asked for. -/
  | version
  /-- Nothing was asked for, so that help is due. -/
  | nothing
  | noSubcommand
  | unknownSubcommand (word : String)
  | unknownArgument (word : String)
  /-- A flag that takes a value has none. -/
  | noValue (flag : Flag)
  /-- The value of a flag is no number that fits. -/
  | badValue (flag : Flag) (value : String)
  /-- A switch was given a value. -/
  | unneededValue (flag : Flag)
  | repeated (flag : Flag)
  | noWord (command : Subcommand)
deriving DecidableEq, Repr

namespace ArgumentError

/-- What can be written behind the name of the program. -/
def usage : String :=
  let names := String.intercalate "|" (Subcommand.all.map Subcommand.name)
  s!"Usage: docshell [OPTIONS] {names}"

def display : ArgumentError → String
  | help => usage
  | version => "docshell 0.1.0"
  | nothing => usage
  | noSubcommand => "error: a subcommand is required"
  | unknownSubcommand word => s!"error: unrecognized subcommand '{word}'"
  | unknownArgument word => s!"error: unexpected argument '{word}' found"
  | noValue flag => s!"error: a value is required for '--{flag.name}' but none was supplied"
  | badValue flag value => s!"error: invalid value '{value}' for '--{flag.name}'"
  | unneededValue flag => s!"error: unexpected value for '--{flag.name}' found"
  | repeated flag => s!"error: the argument '--{flag.name}' cannot be used multiple times"
  | noWord command => s!"error: '{command.name}' needs an argument"

end ArgumentError

end QueryShell
