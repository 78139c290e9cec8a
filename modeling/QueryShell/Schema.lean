import QueryShell.Bson.Basic
import QueryShell.FirstSeen

/-!
# Schemas

A `Schema` is the list of the fields that documents of a collection are known to
have, each written as the path of keys that leads to it, joined by points. It is
either given or inferred from sample documents, whose fields it has in the order
in which a walk through the samples first meets them.
-/

namespace QueryShell

namespace Document

/-- The path of a key below `parent`; at the top of a document it is the key
itself. -/
def joinPath (parent key : String) : String :=
  if parent.isEmpty then key else parent ++ "." ++ key

mutual

/-- The paths of all fields of a document that stands at the path `parent`. A
field comes before the fields inside it. Embedded documents are walked through;
arrays and all other values are not. -/
def pathsBelow (parent : String) : List (String × Bson) → List String
  | [] => []
  | (key, value) :: entries =>
    joinPath parent key :: innerPaths (joinPath parent key) value ++ pathsBelow parent entries

/-- The paths of the fields inside a value that stands at `path`. -/
def innerPaths (path : String) : Bson → List String
  | .document entries => pathsBelow path entries
  | _ => []

end

/-- The distinct paths of the fields of a document, in the order of a walk
through it. -/
def paths (d : Document) : List String :=
  firstSeen (pathsBelow "" d)

/-- The distinct paths of the fields of several documents. -/
def pathsOfAll (ds : List Document) : List String :=
  firstSeen (ds.flatMap (pathsBelow ""))

end Document

structure Schema where
  collection : String
  /-- The paths of the fields, without repetition. -/
  fields : List String
deriving DecidableEq, Repr

namespace Schema

/-- The schema with the given fields; repeated ones are dropped. -/
def ofFields (collection : String) (fields : List String) : Schema :=
  ⟨collection, firstSeen fields⟩

/-- The schema that sample documents show. -/
def infer (collection : String) (samples : List Document) : Schema :=
  ⟨collection, Document.pathsOfAll samples⟩

def contains (s : Schema) (path : String) : Bool :=
  s.fields.contains path

def size (s : Schema) : Nat :=
  s.fields.length

end Schema

end QueryShell
