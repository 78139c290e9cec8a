import QueryShell.Toml.Basic

/-!
# Tables under construction

While a document is read, its tables are still open: a header or a key with
points may add to a table that others have begun. `Item` remembers how each
table came about, since a table that was written as a value is closed, one with
a header of its own cannot get another, and keys with points go only into tables
that other keys with points have made.
-/

namespace QueryShell.Toml

/-- How a table came about. -/
inductive TableKind where
  /-- By a header of a table inside it. -/
  | implied
  /-- By its own header. -/
  | headed
  /-- By a key with points. -/
  | dotted
deriving DecidableEq, Repr

/-- A value, an open table, or the tables of an array that grows by headers. -/
inductive Item where
  | value (v : Value)
  | table (kind : TableKind) (entries : List (String × Item))
  | tables (done : List (List (String × Item))) (current : List (String × Item))
deriving Inhabited

namespace Item

/-- Entries while they are built. -/
abbrev Open := Entries Item

/-- Changes the table at the end of a path of header parts; missing ones are
made on the way. -/
def descend (f : Open → Option Open) : List String → Open → Option Open
  | [], es => f es
  | k :: ks, es =>
    match Entries.get? k es with
    | none => do some (Entries.insert k (.table .implied (← descend f ks [])) es)
    | some (.table kind inner) => do
      some (Entries.insert k (.table kind (← descend f ks inner)) es)
    | some (.tables done current) => do
      some (Entries.insert k (.tables done (← descend f ks current)) es)
    | some (.value _) => none

/-- Adds a value at the end of a path of key parts. The tables on the way are
made by such keys, or have no header yet; the one that takes the value is
made by such a key if it is not the table at hand. -/
def addValue (v : Value) (key : String) : List String → Open → Option Open
  | [], es =>
    match Entries.get? key es with
    | none => some (Entries.insert key (.value v) es)
    | some _ => none
  | k :: ks, es =>
    match Entries.get? k es with
    | none => do some (Entries.insert k (.table .dotted (← addValue v key ks [])) es)
    | some (.table kind inner) => do
      if kind = .headed ∨ ks = [] ∧ kind ≠ .dotted then none
      else some (Entries.insert k (.table kind (← addValue v key ks inner)) es)
    | some (.tables done current) => do
      if ks = [] then none
      else some (Entries.insert k (.tables done (← addValue v key ks current)) es)
    | some (.value _) => none

/-- Opens the table of a header. -/
def openTable (key : String) (es : Open) : Option Open :=
  match Entries.get? key es with
  | none => some (Entries.insert key (.table .headed []) es)
  | some (.table .implied inner) => some (Entries.insert key (.table .headed inner) es)
  | some _ => none

/-- Opens another table of an array. -/
def openElement (key : String) (es : Open) : Option Open :=
  match Entries.get? key es with
  | none => some (Entries.insert key (.tables [] []) es)
  | some (.tables done current) => some (Entries.insert key (.tables (done ++ [current]) []) es)
  | some _ => none

mutual

/-- The value of an item. -/
def toValue : Item → Value
  | value v => v
  | table _ entries => .table (entriesToValue entries)
  | tables done current =>
    .array (listToValue done ++ [.table (entriesToValue current)])

def entriesToValue : List (String × Item) → List (String × Value)
  | [] => []
  | (k, x) :: es => (k, toValue x) :: entriesToValue es

def listToValue : List (List (String × Item)) → List Value
  | [] => []
  | es :: rest => .table (entriesToValue es) :: listToValue rest

end

end Item

end QueryShell.Toml
