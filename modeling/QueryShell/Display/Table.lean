import QueryShell.Completion.Suggestion
import QueryShell.Display.Bytes
import QueryShell.Display.Cell
import QueryShell.Display.Grid
import QueryShell.Store

/-!
# Tables

Results, suggestions and listings as tables. Documents get a column for every
key of any of them; values of which some are no documents share one column.
-/

namespace QueryShell

/-- How tables are drawn. -/
structure TableStyle where
  /-- The columns that a cell may take before it is wrapped. -/
  maxWidth : Nat := 40
  coloured : Bool := false
deriving DecidableEq, Repr

namespace TableStyle

/-- Draws a table with texts in its cells. -/
def draw (s : TableStyle) (header : List String) (rows : List (List String)) : List Char :=
  Grid.draw s.maxWidth s.coloured (header.map String.toList) (rows.map (·.map String.toList))

/-- The entries of the values if all of them are documents. -/
def allDocuments? : List Bson → Option (List Document)
  | [] => some []
  | .document d :: rest => (allDocuments? rest).map (d :: ·)
  | _ :: _ => none

/-- The keys of some documents in alphabetical order, the identifier first. -/
def columns (docs : List Document) : List String :=
  let keys := (firstSeen (docs.flatMap Entries.keys)).mergeSort fun a b => decide (a ≤ b)
  if "_id" ∈ keys then "_id" :: keys.filter (· != "_id") else keys

/-- A table of documents. -/
def documents (s : TableStyle) (docs : List Document) : List Char :=
  let keys := columns docs
  if keys.isEmpty then "(no fields found)".toList
  else
    Grid.draw s.maxWidth s.coloured (keys.map String.toList) (docs.map fun d =>
      keys.map fun k => (Entries.get? k d).elim [] Bson.cellChars)

/-- A table of values. -/
def items (s : TableStyle) (values : List Bson) : List Char :=
  if values.isEmpty then "(empty result set)".toList
  else
    match allDocuments? values with
    | some docs => s.documents docs
    | none =>
      Grid.draw s.maxWidth s.coloured ["value".toList] (values.map fun v => [v.cellChars])

def suggestions (s : TableStyle) (ss : List Completion.Suggestion) : List Char :=
  if ss.isEmpty then "(no suggestions)".toList
  else
    s.draw ["label", "category", "detail", "insert"] (ss.map fun x =>
      [x.candidate.label, x.candidate.category.label, x.candidate.detail, x.candidate.template])

def collections (s : TableStyle) (cs : List CollectionInfo) : List Char :=
  if cs.isEmpty then "(no collections)".toList
  else
    s.draw ["collection", "documents", "size"] (cs.map fun c =>
      [c.name, toString c.documents.toNat, ByteSize.text c.bytes])

def databases (s : TableStyle) (ds : List DatabaseInfo) : List Char :=
  if ds.isEmpty then "(no databases)".toList
  else
    s.draw ["database", "size", "collections"] (ds.map fun d =>
      [d.name, ByteSize.text d.bytes, String.intercalate ", " d.collections])

end TableStyle

end QueryShell
