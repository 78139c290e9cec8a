import QueryShell.Number.Decimal
import QueryShell.Settings.Basic
import QueryShell.Toml.Parser
import QueryShell.Toml.Printer

/-!
# Settings files

Settings are kept in TOML. A section may be written as a table or, with its
fields in order, as an array. What is left out keeps its default, what is
unknown is passed over, and a value of the wrong type or out of range spoils the
file.
-/

namespace QueryShell

namespace Toml

/-- The value of each field of a section, if `v` is one. A date holds no field
that is known. -/
def Value.fields? (names : List String) : Value → Option (List (Option Value))
  | table entries => some (names.map fun name => Entries.get? name entries)
  | array items => some ((List.range names.length).map fun i => items[i]?)
  | dateTime _ => some (names.map fun _ => none)
  | _ => none

def Value.string? : Value → Option String
  | string s => some s
  | _ => none

def Value.boolean? : Value → Option Bool
  | boolean b => some b
  | _ => none

/-- An integer from zero up to, but not including, a bound. -/
def Value.natBelow? (bound : Nat) : Value → Option Nat
  | integer n => if 0 ≤ n ∧ n < bound then some n.toNat else none
  | _ => none

def Value.uint64? (v : Value) : Option UInt64 :=
  (v.natBelow? UInt64.size).map UInt64.ofNat

def Value.uint32? (v : Value) : Option UInt32 :=
  (v.natBelow? UInt32.size).map UInt32.ofNat

def Value.strings? : Value → Option (List String)
  | array items => items.mapM string?
  | _ => none

/-- A word from a list of choices: a string, or the only key of a table whose
value is empty. -/
def Value.choice? (name : α → String) (choices : List α) : Value → Option α
  | string s => choices.find? fun x => name x == s
  | table [(key, table [])] => choices.find? fun x => name x == key
  | table [(key, array [])] => choices.find? fun x => name x == key
  | _ => none

/-- A field with its default. -/
def fieldOr (default : α) (read : Value → Option α) : Option Value → Option α
  | none => some default
  | some v => read v

end Toml

/-- All formats. -/
def OutputFormat.all : List OutputFormat :=
  [json, jsonPretty, table]

/-! ### Reading -/

open Toml (Value fieldOr)

def ConnectionSettings.ofToml? (v : Value) : Option ConnectionSettings := do
  match ← v.fields? ["uri", "database", "timeout", "max_pool_size"] with
  | [uri, database, timeout, maxPoolSize] =>
    let d : ConnectionSettings := {}
    some {
      uri := ← fieldOr d.uri Value.string? uri
      database := ← fieldOr d.database Value.string? database
      timeout := ← fieldOr d.timeout Value.uint64? timeout
      maxPoolSize := ← fieldOr d.maxPoolSize Value.uint32? maxPoolSize }
  | _ => none

def DisplaySettings.ofToml? (v : Value) : Option DisplaySettings := do
  match ← v.fields? ["format", "color_output", "show_timing"] with
  | [format, coloured, timing] =>
    let d : DisplaySettings := {}
    some {
      format := ← fieldOr d.format (Value.choice? OutputFormat.name OutputFormat.all) format
      coloured := ← fieldOr d.coloured Value.boolean? coloured
      timing := ← fieldOr d.timing Value.boolean? timing }
  | _ => none

def CompletionSettings.ofToml? (v : Value) : Option CompletionSettings := do
  match ← v.fields? ["max_suggestions", "collections"] with
  | [maxSuggestions, collections] =>
    let d : CompletionSettings := {}
    some {
      maxSuggestions := ← fieldOr d.maxSuggestions Value.uint64? maxSuggestions
      collections := ← fieldOr d.collections Value.strings? collections }
  | _ => none

def SchemaSettings.ofToml? (v : Value) : Option SchemaSettings := do
  match ← v.fields? ["sample_size"] with
  | [sampleSize] =>
    let d : SchemaSettings := {}
    some { sampleSize := ← fieldOr d.sampleSize Value.uint64? sampleSize }
  | _ => none

def LoggingSettings.ofToml? (v : Value) : Option LoggingSettings := do
  match ← v.fields? ["level", "timestamps"] with
  | [level, timestamps] =>
    let d : LoggingSettings := {}
    some {
      level := ← fieldOr d.level (Value.choice? LogLevel.name LogLevel.all) level
      timestamps := ← fieldOr d.timestamps Value.boolean? timestamps }
  | _ => none

namespace Settings

/-- The settings that a file holds. -/
def ofToml? (text : String) : Option Settings := do
  let sections ← Toml.parse? text
  let get (name : String) := Entries.get? name sections
  some {
    connection := ← fieldOr {} ConnectionSettings.ofToml? (get "connection")
    display := ← fieldOr {} DisplaySettings.ofToml? (get "display")
    completion := ← fieldOr {} CompletionSettings.ofToml? (get "completion")
    schema := ← fieldOr {} SchemaSettings.ofToml? (get "schema")
    logging := ← fieldOr {} LoggingSettings.ofToml? (get "logging") }

/-- The settings that a file holds, or the error about it. -/
def ofToml (text : String) : Except ShellError Settings :=
  match ofToml? text with
  | some s => .ok s
  | none => .error (.config (.invalidFormat "invalid settings"))

/-! ### Writing -/

/-- The sections of a settings file with the written value of each field. -/
def sections (s : Settings) : List (String × List (String × List Char)) :=
  let word (b : Bool) : List Char := if b then "true".toList else "false".toList
  let text (t : String) : List Char := Toml.quoted t.toList
  [("connection", [("uri", text s.connection.uri), ("database", text s.connection.database),
      ("timeout", decimalNat s.connection.timeout.toNat),
      ("max_pool_size", decimalNat s.connection.maxPoolSize.toNat)]),
    ("display", [("format", text s.display.format.name),
      ("color_output", word s.display.coloured), ("show_timing", word s.display.timing)]),
    ("completion", [("max_suggestions", decimalNat s.completion.maxSuggestions.toNat),
      ("collections", Toml.quotedItems s.completion.collections)]),
    ("schema", [("sample_size", decimalNat s.schema.sampleSize.toNat)]),
    ("logging", [("level", text s.logging.level.name),
      ("timestamps", word s.logging.timestamps)])]

/-- The lines of one section. -/
def sectionChars (name : String) (fields : List (String × List Char)) : List Char :=
  '[' :: name.toList ++ [']', '\n'] ++
    fields.flatMap fun (key, value) => key.toList ++ " = ".toList ++ value ++ ['\n']

/-- The text of a settings file: every section with every field, and a blank
line between two sections. -/
def toToml (s : Settings) : String :=
  String.ofList (List.intercalate ['\n'] (s.sections.map fun (name, fields) =>
    sectionChars name fields))

end Settings

end QueryShell
