import QueryShell.Bson.Json
import QueryShell.Display.Layout
import QueryShell.Display.Table
import QueryShell.Error.Info
import QueryShell.Literal.Json
import QueryShell.Result

/-!
# Display

The texts that the shell prints, in one of three formats.
-/

namespace QueryShell

/-- How results are shown. -/
inductive OutputFormat where
  /-- JSON on one line. -/
  | json
  /-- JSON on several lines. -/
  | jsonPretty
  | table
deriving DecidableEq, Repr

namespace OutputFormat

/-- The format that a word stands for, whose case does not matter. -/
def ofName? (s : String) : Option OutputFormat :=
  match Text.lower s with
  | "json" => some json
  | "json-pretty" => some jsonPretty
  | "jsonpretty" => some jsonPretty
  | "pretty" => some jsonPretty
  | "table" => some table
  | _ => none

/-- The word for a format in a configuration. -/
def name : OutputFormat → String
  | json => "json"
  | jsonPretty => "json-pretty"
  | table => "table"

def isPretty : OutputFormat → Bool
  | json => false
  | _ => true

def isJson : OutputFormat → Bool
  | table => false
  | _ => true

end OutputFormat

/-- How the shell prints. -/
structure Display where
  format : OutputFormat := .jsonPretty
  coloured : Bool := false
  /-- Whether a line about the result and its time follows. -/
  timing : Bool := false
deriving DecidableEq, Repr

namespace Display

def layout (d : Display) : JsonLayout :=
  { pretty := d.format.isPretty, coloured := d.coloured }

def tableStyle (d : Display) : TableStyle :=
  { coloured := d.coloured }

def json (d : Display) (x : Json) : List Char :=
  d.layout.chars x

/-- The line about a result, with its time if `timed` says so. -/
def statistics (timed : Bool) (r : Result) : String :=
  let line :=
    match r.kind with
    | .count => s!"{r.operation.name} computed"
    | .values => s!"{r.items.length} value(s) returned"
    | _ => s!"{r.items.length} document(s) returned"
  if timed then s!"{line} in {r.millis.toNat}ms" else line

/-- A result as JSON: one value where the operation answers one, else an
array. -/
def resultJson (r : Result) : Json :=
  match r.kind, r.items with
  | .empty, _ => .null
  | .document, [] => .null
  | .document, [x] => x.toJson
  | .count, [x] => x.toJson
  | _, items => .array (items.map Bson.toJson)

def resultTable (s : TableStyle) (r : Result) : List Char :=
  match r.kind, r.items with
  | .count, [.int64 n] => decimalInt n.toInt
  | _, items => s.items items

/-- The text of a result. -/
def result (d : Display) (r : Result) : String :=
  let body :=
    match d.format with
    | .table => resultTable d.tableStyle r
    | _ =>
      -- Nothing is always the bare word, which no layout changes.
      d.json (resultJson r)
  String.ofList body ++ (if d.timing then "\n" ++ statistics true r else "")

/-- A call as JSON. -/
def callJson (c : Call) : Json :=
  .object [("name", .string c.name), ("args", .array (Literal.itemsToJson c.args)),
    ("span", .object [("start", .integer c.span.start), ("end", .integer c.span.stop)])]

/-- The text of a query that was read: its structure, or its own text for a
table. -/
def query (d : Display) (q : Query) : String :=
  match d.format with
  | .table => q.text
  | _ => String.ofList (d.json (.object
      [("collection", .string q.collection), ("calls", .array (q.calls.map callJson))]))

/-- A suggestion as JSON. -/
def suggestionJson (s : Completion.Suggestion) : Json :=
  .object [("label", .string s.candidate.label), ("category", .string s.candidate.category.name),
    ("detail", .string s.candidate.detail), ("insertTemplate", .string s.candidate.template),
    ("replaceRange", .object [("start", .integer s.range.start), ("end", .integer s.range.stop)])]

def suggestions (d : Display) (ss : List Completion.Suggestion) : String :=
  String.ofList (match d.format with
    | .table => d.tableStyle.suggestions ss
    | _ => d.json (.array (ss.map suggestionJson)))

def schema (d : Display) (s : Schema) : String :=
  String.ofList (match d.format with
    | .table => d.tableStyle.items (s.fields.map Bson.string)
    | _ => d.json (.object [("collection", .string s.collection),
        ("fields", .array (s.fields.map Json.string))]))

/-- A collection as JSON, its size readable and in bytes. -/
def collectionJson (c : CollectionInfo) : Json :=
  .object [("name", .string c.name), ("documentCount", .integer c.documents.toNat),
    ("size", .string (ByteSize.text c.bytes)), ("sizeBytes", .integer c.bytes.toNat)]

def collections (d : Display) (cs : List CollectionInfo) : String :=
  String.ofList (match d.format with
    | .table => d.tableStyle.collections cs
    | _ => d.json (.array (cs.map collectionJson)))

def databaseJson (b : DatabaseInfo) : Json :=
  .object [("name", .string b.name), ("sizeOnDisk", .integer b.bytes.toNat),
    ("size", .string (ByteSize.text b.bytes)),
    ("collections", .array (b.collections.map Json.string))]

def databases (d : Display) (ds : List DatabaseInfo) : String :=
  String.ofList (match d.format with
    | .table => d.tableStyle.databases ds
    | _ => d.json (.array (ds.map databaseJson)))

/-- The text of an error: a report where JSON is asked for and the error has
one. -/
def error (d : Display) : ShellError → String
  | .query e => if d.format.isJson then (ErrorReport.ofError e).text else s!"Error: {e.display}"
  | e => s!"Error: {e.display}"

end Display

end QueryShell
