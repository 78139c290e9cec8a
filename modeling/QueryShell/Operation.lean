/-!
# Operations

The operations that a query may begin with. The list is closed: an operation is
found by its name here and never by asking the store.
-/

namespace QueryShell

inductive Operation where
  | find
  | findOne
  | insertOne
  | insertMany
  | updateOne
  | updateMany
  | deleteOne
  | deleteMany
  | aggregate
  | countDocuments
  | distinct
deriving DecidableEq, Repr

namespace Operation

/-- All operations, in the order in which they are offered. -/
def all : List Operation :=
  [find, findOne, insertOne, insertMany, updateOne, updateMany, deleteOne, deleteMany, aggregate,
    countDocuments, distinct]

def name : Operation → String
  | find => "find"
  | findOne => "findOne"
  | insertOne => "insertOne"
  | insertMany => "insertMany"
  | updateOne => "updateOne"
  | updateMany => "updateMany"
  | deleteOne => "deleteOne"
  | deleteMany => "deleteMany"
  | aggregate => "aggregate"
  | countDocuments => "countDocuments"
  | distinct => "distinct"

/-- The operation with a name, which is taken as it is written. -/
def ofName? (name : String) : Option Operation :=
  all.find? fun o => o.name == name

/-- Whether the operation answers with a cursor, so that modifiers may
follow. -/
def returnsCursor : Operation → Bool
  | find | aggregate => true
  | _ => false

theorem mem_all (o : Operation) : o ∈ all := by
  cases o <;> decide

theorem ofName?_name (o : Operation) : ofName? o.name = some o := by
  cases o <;> rfl

end Operation

end QueryShell
