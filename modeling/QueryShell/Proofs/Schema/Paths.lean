import Mathlib.Data.List.Basic
import QueryShell.Proofs.Schema.Collector

/-!
# The paths of a document

A field of a document is reached by a sequence of keys, one for each of the
embedded documents around it and its own (`Document.Leads`). The walk through a
document meets these sequences in the order of the text: a field, then what is
inside it, then the fields behind it (`Document.keyPaths`). It does not keep
them, though. It carries one path along and appends a point and the next key to
it, except at the top of the document, where there is nothing to append to.

The walk takes an empty path for the top of the document. A path is empty there,
and also below a field with the empty name, so the points behind such fields are
missing at the beginning of a path: the field `a` of the field with the empty
name has the path `a` and not `.a`. Everywhere else an empty key is a key like
any other.

## Main statements

* `Document.pathsBelow_eq`: the walk writes down the sequences of keys.
* `Document.foldl_joinPath_empty`: how it writes them.
* `Document.paths_exact`: the paths of all documents.
-/

namespace QueryShell.Document

/-! ## Sequences of keys -/

mutual

/-- **The sequences of keys that lead to the fields** of a document. That of a
field comes before those of the fields inside it, and these come before those of
the fields behind it. -/
def keyPaths : List (String × Bson) → List (List String)
  | [] => []
  | (key, value) :: entries => ([] :: innerKeyPaths value).map (key :: ·) ++ keyPaths entries

/-- The sequences of keys that lead to the fields inside a value. Only documents
have fields. -/
def innerKeyPaths : Bson → List (List String)
  | .document entries => keyPaths entries
  | _ => []

end

/-- **The keys lead to the value**: they name one field in each of the documents
around it, from the outside in. Arrays are not entered, and a document may have
a field twice. -/
inductive Leads : List (String × Bson) → List String → Bson → Prop
  | field {entries : List (String × Bson)} {key : String} {value : Bson}
      (h : (key, value) ∈ entries) : Leads entries [key] value
  | inside {entries inner : List (String × Bson)} {key : String} {keys : List String} {value : Bson}
      (h : (key, .document inner) ∈ entries) (hinner : Leads inner keys value) :
      Leads entries (key :: keys) value

theorem Leads.mono {entries entries' : List (String × Bson)} {keys : List String} {value : Bson}
    (h : Leads entries keys value) (hsub : entries ⊆ entries') : Leads entries' keys value := by
  cases h with
  | field h => exact .field (hsub h)
  | inside h hinner => exact .inside (hsub h) hinner

mutual

/-- Every sequence of keys that is listed leads to a value. -/
theorem exists_leads_of_mem {entries : List (String × Bson)} {keys : List String}
    (h : keys ∈ keyPaths entries) : ∃ value, Leads entries keys value := by
  match entries with
  | [] => cases h
  | (key, value) :: entries =>
    rw [keyPaths, List.mem_append, List.mem_map] at h
    rcases h with ⟨keys, hkeys, rfl⟩ | h
    · rcases List.mem_cons.mp hkeys with rfl | hkeys
      · exact ⟨value, .field List.mem_cons_self⟩
      · obtain ⟨inner, rfl, v, hv⟩ := exists_leads_of_mem_inner hkeys
        exact ⟨v, .inside List.mem_cons_self hv⟩
    · obtain ⟨v, hv⟩ := exists_leads_of_mem h
      exact ⟨v, hv.mono (List.subset_cons_self _ _)⟩

/-- Inside of a value there are sequences only if it is a document, and these
lead to a value in it. -/
theorem exists_leads_of_mem_inner {value : Bson} {keys : List String}
    (h : keys ∈ innerKeyPaths value) :
    ∃ inner, value = .document inner ∧ ∃ v, Leads inner keys v := by
  cases value with
  | document inner => exact ⟨inner, rfl, exists_leads_of_mem h⟩
  | _ => cases h

end

/-- A sequence inside of the value of an entry is listed with the key in
front. -/
theorem mem_keyPaths_of_mem {entries : List (String × Bson)} {key : String} {value : Bson}
    {keys : List String} (h : (key, value) ∈ entries) (hkeys : keys ∈ [] :: innerKeyPaths value) :
    key :: keys ∈ keyPaths entries := by
  induction entries with
  | nil => cases h
  | cons e entries ih =>
    rw [keyPaths, List.mem_append]
    rcases List.mem_cons.mp h with rfl | h
    · exact .inl (List.mem_map_of_mem hkeys)
    · exact .inr (ih h)

/-- **Which sequences of keys the walk meets**: those that lead to some value,
and no others. -/
theorem mem_keyPaths_iff {entries : List (String × Bson)} {keys : List String} :
    keys ∈ keyPaths entries ↔ ∃ value, Leads entries keys value := by
  refine ⟨exists_leads_of_mem, ?_⟩
  rintro ⟨value, h⟩
  induction h with
  | field h => exact mem_keyPaths_of_mem h List.mem_cons_self
  | inside h _ ih => exact mem_keyPaths_of_mem h (List.mem_cons_of_mem _ ih)

/-! ## How a sequence is written -/

/-- Behind a parent that is not empty stands a point. -/
theorem joinPath_of_ne {parent : String} (h : parent ≠ "") (key : String) :
    joinPath parent key = parent ++ "." ++ key := by
  rw [joinPath, if_neg (by simpa using h)]

/-- An empty parent is taken for none, so that no point is written behind it.
This is where an empty key at the top loses its point. -/
theorem joinPath_empty (key : String) : joinPath "" key = key :=
  rfl

/-- Two keys that are joined already are joined with the others as if they were
not. -/
theorem intercalate_joined (a b : String) (keys : List String) :
    ".".intercalate ((a ++ "." ++ b) :: keys) = ".".intercalate (a :: b :: keys) := by
  cases keys with
  | nil => simp [String.intercalate_cons_cons]
  | cons key keys => simp [String.intercalate_cons_cons, String.append_assoc]

/-- Below a path that is not empty, each key is appended behind a point. -/
theorem foldl_joinPath_of_ne {parent : String} (h : parent ≠ "") (keys : List String) :
    keys.foldl joinPath parent = ".".intercalate (parent :: keys) := by
  induction keys generalizing parent with
  | nil => simp
  | cons key keys ih =>
    rw [List.foldl_cons, joinPath_of_ne h, ih (by simp), intercalate_joined]

/-- **At the top of a document** the empty keys that come first leave nothing
behind. A joined path is empty as long as its keys are, and an empty path is
taken for none. -/
theorem foldl_joinPath_empty (keys : List String) :
    keys.foldl joinPath "" = ".".intercalate (keys.dropWhile String.isEmpty) := by
  induction keys with
  | nil => rfl
  | cons key keys ih =>
    rw [List.foldl_cons, joinPath_empty]
    by_cases h : key = ""
    · rw [h, List.dropWhile_cons_of_pos (by rfl), ih]
    · rw [List.dropWhile_cons_of_neg (by simpa using h), foldl_joinPath_of_ne h]

/-! ## What the walk writes down -/

mutual

/-- **The walk writes down the sequences of keys** in its order. It never holds
a sequence, since it joins each key to the path of its parent on the way. -/
theorem pathsBelow_eq (parent : String) (entries : List (String × Bson)) :
    pathsBelow parent entries = (keyPaths entries).map (List.foldl joinPath parent) := by
  match entries with
  | [] => rw [pathsBelow, keyPaths, List.map_nil]
  | (key, value) :: entries =>
    rw [pathsBelow, keyPaths, pathsBelow_eq parent entries, innerPaths_eq (joinPath parent key) value,
      List.map_append, List.map_map, List.map_cons]
    rfl

/-- **The paths inside of a value** are its sequences, joined one key after the
other to the path of the value. -/
theorem innerPaths_eq (path : String) (value : Bson) :
    innerPaths path value = (innerKeyPaths value).map (List.foldl joinPath path) := by
  cases value with
  | document entries => rw [innerPaths, innerKeyPaths, pathsBelow_eq path entries]
  | _ => rfl

end

/-- An empty key comes first in a sequence of several only where a field with
the empty name has fields inside. -/
theorem eq_nil_of_mem_keyPaths {d : Document} (hd : ∀ inner, ("", .document inner) ∈ d → inner = [])
    {keys : List String} (h : "" :: keys ∈ keyPaths d) : keys = [] := by
  obtain ⟨value, hleads⟩ := mem_keyPaths_iff.mp h
  cases hleads with
  | field => rfl
  | inside hmem hinner =>
    -- nothing leads into a document without fields
    rw [hd _ hmem] at hinner
    cases hinner with
    | field hnil => cases hnil
    | inside hnil => cases hnil

/-- **The paths of a document** are the sequences of keys that lead to its
fields, in the order of the walk, each written with points between its keys, and
the first occurrence kept of what is written alike. If a field at the top with
the empty name has fields inside, the empty keys that come first in a sequence
are not written, nor are the points behind them. A walk with one set and one
list collects the same. -/
theorem paths_exact (d : Document) :
    (∀ keys, keys ∈ keyPaths d ↔ ∃ value, Leads d keys value) ∧
    (Collector.ofDocuments [d]).paths = paths d ∧
    paths d =
      ((keyPaths d).map fun keys => ".".intercalate (keys.dropWhile String.isEmpty)).eraseDups ∧
    ((∀ inner, ("", .document inner) ∈ d → inner = []) →
      paths d = ((keyPaths d).map ".".intercalate).eraseDups) := by
  have hpaths : paths d =
      ((keyPaths d).map fun keys => ".".intercalate (keys.dropWhile String.isEmpty)).eraseDups := by
    rw [paths, firstSeen_eq_eraseDups, pathsBelow_eq]
    exact congrArg List.eraseDups (List.map_congr_left fun keys _ => foldl_joinPath_empty keys)
  refine ⟨fun keys => mem_keyPaths_iff, ?_, hpaths, fun hd => ?_⟩
  · rw [Collector.paths_ofDocuments, pathsOfAll, List.flatMap_singleton, paths]
  · rw [hpaths]
    refine congrArg List.eraseDups (List.map_congr_left fun keys hkeys => ?_)
    cases keys with
    | nil => rfl
    | cons key keys =>
      by_cases hkey : key = ""
      · subst hkey
        rw [eq_nil_of_mem_keyPaths hd hkeys]
        rfl
      · rw [List.dropWhile_cons_of_neg (by simpa using hkey)]

/-- A document with empty keys, of which none is at the top with fields inside,
and with a key that has a point in it. -/
def pointed : Document :=
  [("", .null), ("a", .document [("", .document [("b", .array [.document [("c", .null)]])])]),
    ("a.", .null)]

/-- An empty key without fields in it, and another one further inside: every
point is there. The path `a.` is that of two sequences, and is listed once. -/
theorem paths_exact_pointed :
    (∀ inner, ("", .document inner) ∈ pointed → inner = []) ∧
    paths pointed = ((keyPaths pointed).map ".".intercalate).eraseDups ∧
    paths pointed = ["", "a", "a.", "a..b"] := by
  have htop : ∀ inner, ("", .document inner) ∈ pointed → inner = [] := by
    intro inner h
    simp [pointed] at h
  exact ⟨htop, (paths_exact pointed).2.2.2 htop, by decide +kernel⟩

/-- A field with the empty name loses the point behind it. -/
theorem paths_ne_dotted :
    paths [("", .document [("a", .null)])] = ["", "a"] ∧
    ((keyPaths [("", .document [("a", .null)])]).map ".".intercalate).eraseDups = ["", ".a"] := by
  decide +kernel

end QueryShell.Document
