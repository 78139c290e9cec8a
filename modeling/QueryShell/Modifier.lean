import QueryShell.Error.Query
import QueryShell.Literal.Document
import QueryShell.Query.Basic

/-!
# Cursor modifiers

A call after the first one sorts, limits or shortens the result of the
operation, or asks how the store would compute it. `Modifier.ofCall` checks the
arguments of such a call before the store sees any of it.
-/

namespace QueryShell

namespace Double

/-- Whether a number is zero or positive; both zeros are. -/
def isNonNegative (x : Double) : Bool :=
  !x.isNaN && (!x.isNegative || x.isZero)

/-- The integer part of a number that is not negative, or the greatest 64-bit
number if it is larger. -/
def toCount (x : Double) : UInt64 :=
  UInt64.ofNat (min x.truncNat (2 ^ 64 - 1))

end Double

/-- How much the store tells about the plan of a query. -/
inductive Verbosity where
  | queryPlanner
  | executionStats
  | allPlansExecution
deriving DecidableEq, Repr

namespace Verbosity

def name : Verbosity → String
  | queryPlanner => "queryPlanner"
  | executionStats => "executionStats"
  | allPlansExecution => "allPlansExecution"

def ofName? (name : String) : Option Verbosity :=
  [queryPlanner, executionStats, allPlansExecution].find? fun v => v.name == name

end Verbosity

/-- A checked modifier. -/
inductive Modifier where
  /-- Orders the documents by the keys of `spec`. -/
  | sort (spec : Document)
  | limit (count : UInt64)
  | skip (count : UInt64)
  /-- Asks for the plan of the query in place of its result. -/
  | explain (verbosity : Verbosity)
deriving Repr

namespace Modifier

def name : Modifier → String
  | sort _ => "sort"
  | limit _ => "limit"
  | skip _ => "skip"
  | explain _ => "explain"

def isExplain : Modifier → Bool
  | explain _ => true
  | _ => false

/-- The names of all modifiers. -/
def names : List String :=
  ["sort", "limit", "skip", "explain"]

/-- What is wrong with the call of a modifier. -/
inductive Fault where
  | unknown (name : String)
  /-- Some other number of arguments than one. -/
  | arity (name : String) (count : Nat)
  /-- The argument of a sort is no object. -/
  | sortKeys (arg : Literal)
  /-- The argument that should be a count is a negative number or no number at
  all. -/
  | count (name : String) (arg : Literal)
  | verbosityName (text : String)
  | verbosity (arg : Literal)

namespace Fault

def kind : Fault → QueryErrorKind
  | unknown _ => .unsupportedModifier
  | _ => .invalidArgument

def message : Fault → String
  | unknown name =>
    let expected := String.intercalate ", " names
    s!"'{name}' is not a cursor modifier (expected one of: {expected})"
  | arity name n => s!"{name}() takes 1 argument, got {n}"
  | sortKeys arg => s!"sort() expects an object, got {arg.typeName}"
  | count name (.number x) =>
    s!"{name}() expects a non-negative integer, got {String.ofList x.plain}"
  | count name arg => s!"{name}() expects a non-negative integer, got {arg.typeName} {arg.text}"
  | verbosityName text => "explain() verbosity must be queryPlanner, executionStats or " ++
    s!"allPlansExecution, got '{text}'"
  | verbosity arg => s!"explain() expects a verbosity string, got {arg.typeName}"

def toError (f : Fault) : QueryError :=
  { kind := f.kind, message := f.message }

end Fault

/-- The count that the arguments of a limit or a skip stand for; a fraction is
cut off. -/
def countOf (name : String) : List Literal → Except Fault UInt64
  | [.number x] => if x.isNonNegative then .ok x.toCount else .error (.count name (.number x))
  | [arg] => .error (.count name arg)
  | args => .error (.arity name args.length)

/-- The keys that the arguments of a sort stand for. -/
def sortOf : List Literal → Except Fault Modifier
  | [.object entries] => .ok (sort (Literal.toDocument entries))
  | [arg] => .error (.sortKeys arg)
  | args => .error (.arity "sort" args.length)

/-- The verbosity that the arguments of an explanation stand for. -/
def explainOf : List Literal → Except Fault Modifier
  | [] => .ok (explain .queryPlanner)
  | [.bool true] => .ok (explain .allPlansExecution)
  | [.bool false] => .ok (explain .queryPlanner)
  | [.string s] =>
    match Verbosity.ofName? s with
    | some v => .ok (explain v)
    | none => .error (.verbosityName s)
  | [arg] => .error (.verbosity arg)
  | args => .error (.arity "explain" args.length)

/-- The modifier that a name and arguments stand for. -/
def read (name : String) (args : List Literal) : Except Fault Modifier :=
  match name with
  | "sort" => sortOf args
  | "limit" => (countOf "limit" args).map limit
  | "skip" => (countOf "skip" args).map skip
  | "explain" => explainOf args
  | _ => .error (.unknown name)

/-- The modifier that a call stands for. The error has no place yet. -/
def ofCall (c : Call) : Except QueryError Modifier :=
  match read c.name c.args with
  | .ok m => .ok m
  | .error f => .error f.toError

end Modifier

end QueryShell
