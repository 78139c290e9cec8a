import Mathlib.Data.Finset.Insert
import QueryShell.Schema

/-!
# Collecting paths

The fields of documents can be collected in one walk: each path is looked up in
a set of those that were met before, and written down if it is not among them.
One set and one list then serve all levels of a document and all documents. A
document inside another is walked through even if its own path is known, since
another sample may have had a field of that name with other fields inside.

A `Collector` is what such a walk carries along. Its set and its list have the
same elements, and so it writes down what `addNew` appends. This makes one walk
through several documents the same as putting their paths together and dropping
the repeated ones.

## Main statements

* `Collector.paths_walk`: a walk appends the new ones of the paths of a
  document.
* `Collector.paths_ofDocuments`: one walk collects the fields of several
  documents.
-/

namespace QueryShell

open Document

/-- **The paths that were met**, as a set and in their order. The set answers
whether a path was met, and the list is the result; that both have the same
elements is a part of the structure. -/
structure Collector where
  seen : Finset String
  paths : List String
  /-- The set and the list have the same elements. -/
  mem_seen : ∀ p, p ∈ seen ↔ p ∈ paths

namespace Collector

/-- A collector that has seen no path yet. -/
def empty : Collector where
  seen := ∅
  paths := []
  mem_seen := by simp

/-- Writes a path down if it was not met before. -/
def add (c : Collector) (path : String) : Collector :=
  if path ∈ c.seen then c
  else
    { seen := insert path c.seen
      paths := c.paths ++ [path]
      mem_seen := by simp [c.mem_seen, or_comm] }

mutual

/-- Walks through a document that stands at the path `parent`. -/
def walk (c : Collector) (parent : String) : List (String × Bson) → Collector
  | [] => c
  | (key, value) :: entries =>
    let path := joinPath parent key
    ((c.add path).enter path value).walk parent entries

/-- Walks through the value at a path, if it is a document. -/
def enter (c : Collector) (path : String) : Bson → Collector
  | .document entries => c.walk path entries
  | _ => c

end

/-- One walk through several documents. -/
def ofDocuments (ds : List Document) : Collector :=
  ds.foldl (fun c d => c.walk "" d) empty

/-- A path is added behind the others unless it is there already. The set of the
seen paths is only a faster way to ask, since it always holds the listed
ones. -/
theorem paths_add (c : Collector) (path : String) : (c.add path).paths = addNew c.paths path := by
  unfold add addNew
  split
  · next h => rw [if_pos ((c.mem_seen path).mp h)]
  · next h => rw [if_neg (mt (c.mem_seen path).mpr h)]

mutual

/-- **A walk appends the paths that are new**, by recursion on the document. The
paths that the list has already stay where they are. -/
theorem paths_walk (c : Collector) (parent : String) (entries : List (String × Bson)) :
    (c.walk parent entries).paths = (pathsBelow parent entries).foldl addNew c.paths := by
  match entries with
  | [] => rw [walk, pathsBelow, List.foldl_nil]
  | (key, value) :: entries =>
    rw [walk, paths_walk, paths_enter, paths_add, pathsBelow, List.foldl_append, List.foldl_cons]

/-- A value adds the paths inside it, in their order and each once. -/
theorem paths_enter (c : Collector) (path : String) (value : Bson) :
    (c.enter path value).paths = (innerPaths path value).foldl addNew c.paths := by
  cases value with
  | document entries => rw [enter, innerPaths, paths_walk]
  | _ => rfl

end

/-- A run over documents adds the paths of each, in the order of the
documents. -/
theorem paths_foldl_walk (c : Collector) (ds : List Document) :
    (ds.foldl (fun c d => c.walk "" d) c).paths =
      (ds.flatMap (pathsBelow "")).foldl addNew c.paths := by
  induction ds generalizing c with
  | nil => rfl
  | cons d ds ih => rw [List.foldl_cons, ih, paths_walk, List.flatMap_cons, List.foldl_append]

/-- **One walk collects the fields of several documents**, and has the same
result as collecting those of each of them and joining the lists. -/
theorem paths_ofDocuments (ds : List Document) : (ofDocuments ds).paths = pathsOfAll ds :=
  paths_foldl_walk empty ds

end Collector

end QueryShell
