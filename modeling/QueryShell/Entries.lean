/-!
# Insertion-ordered entries

`Entries α` is a map from names to values that remembers the order in which its
keys came. Object literals, documents of the store and JSON objects are all maps
of this kind: a repeated key keeps its first position and takes the last value.

## Main statements

* `Entries.keys_insert`: an insertion appends a new key and leaves the keys
  alone otherwise.
* `Entries.get?_insert`: reading after an insertion.
-/

namespace QueryShell

/-- A map with its keys in the order of their first insertion. -/
abbrev Entries (α : Type) := List (String × α)

namespace Entries

variable {α β : Type}

/-- Sets the value of a key. A key that is already there keeps its position. -/
def insert (key : String) (value : α) : Entries α → Entries α
  | [] => [(key, value)]
  | (k, v) :: rest => if k = key then (key, value) :: rest else (k, v) :: insert key value rest

/-- The value of a key. -/
def get? (key : String) : Entries α → Option α
  | [] => none
  | (k, v) :: rest => if k = key then some v else get? key rest

/-- The keys in order. -/
def keys (entries : Entries α) : List String :=
  entries.map Prod.fst

/-- The map made by inserting the given pairs one after the other. -/
def ofList (pairs : List (String × α)) : Entries α :=
  pairs.foldl (fun entries p => insert p.1 p.2 entries) []

@[simp] theorem keys_nil : keys ([] : Entries α) = [] := rfl

@[simp] theorem keys_cons (e : String × α) (rest : Entries α) :
    keys (e :: rest) = e.1 :: keys rest := rfl

theorem keys_insert (key : String) (value : α) (entries : Entries α) :
    keys (insert key value entries) =
      if key ∈ keys entries then keys entries else keys entries ++ [key] := by
  induction entries with
  | nil => simp [insert]
  | cons e rest ih =>
    obtain ⟨k, v⟩ := e
    by_cases h : k = key
    · simp [insert, h]
    · have h' : ¬key = k := fun e => h e.symm
      by_cases hm : key ∈ keys rest
      · simp [insert, h, ih, hm]
      · simp [insert, h, h', ih, hm]

theorem get?_insert (key other : String) (value : α) (entries : Entries α) :
    get? other (insert key value entries) =
      if other = key then some value else get? other entries := by
  induction entries with
  | nil =>
    by_cases h : key = other
    · simp [insert, get?, h]
    · have h' : ¬other = key := fun e => h e.symm
      simp [insert, get?, h, h']
  | cons e rest ih =>
    obtain ⟨k, v⟩ := e
    by_cases h : k = key
    · subst h
      by_cases h' : k = other
      · simp [insert, get?, h']
      · have h'' : ¬other = k := fun e => h' e.symm
        simp [insert, get?, h', h'']
    · by_cases h' : k = other
      · subst h'
        simp [insert, get?, h]
      · simp [insert, get?, h, h', ih]

end Entries

end QueryShell
