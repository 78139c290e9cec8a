import QueryShell.Error.Info
import QueryShell.Json.Written

/-!
# Reading error reports

A report is read from a JSON object, whose members may stand in any order, or
from an array that holds all of them in theirs. An object may hold more than a
report has; it may not hold a member of the report twice.
-/

namespace QueryShell

namespace WrittenJson

/-- The values of the given members, of an object or of an array that has
nothing else. A member that is not there has none. -/
def fields? (names : List String) : WrittenJson → Option (List (Option WrittenJson))
  | array items => if items.length = names.length then some (items.map some) else none
  | x => do
    let ms ← members? x
    names.mapM fun name =>
      match ms.filter fun m => m.1 == name with
      | [] => some none
      | [m] => some (some m.2)
      | _ => none

/-- A value that may be missing or null. -/
def optional (read : WrittenJson → Option α) : Option WrittenJson → Option (Option α)
  | none => some none
  | some null => some none
  | some x => (read x).map some

/-- An integer that fits 64 bits without a sign. -/
def natural? (x : WrittenJson) : Option Nat := do
  let n ← integer? x
  if 0 ≤ n ∧ n < 2 ^ 64 then some n.toNat else none

/-- An integer that fits 32 bits with a sign. -/
def int32? (x : WrittenJson) : Option Int32 := do
  let n ← integer? x
  if -2 ^ 31 ≤ n ∧ n < 2 ^ 31 then some (Int32.ofInt n) else none

end WrittenJson

open WrittenJson in
/-- The diagnosis in a report. -/
def StoreDiagnostic.ofJson? (x : WrittenJson) : Option StoreDiagnostic := do
  match ← fields? ["type", "code", "codeName"] x with
  | [type, code, codeName] =>
    some ⟨← optional string? type, ← optional int32? code, ← optional string? codeName⟩
  | _ => none

namespace ErrorReport

open WrittenJson in
/-- The report that a JSON value stands for. -/
def ofJson? (x : WrittenJson) : Option ErrorReport := do
  match ← fields? ["kind", "message", "query", "offset", "callIndex", "diagnostic"] x with
  | [some kind, some message, query, offset, callIndex, diagnostic] =>
    some {
      kind := ← string? kind
      message := ← string? message
      query := ← query.elim (some "") string?
      offset := ← optional natural? offset
      callIndex := ← optional natural? callIndex
      diagnostic := ← optional StoreDiagnostic.ofJson? diagnostic }
  | _ => none

/-- The report that a JSON text holds. -/
def parse? (text : String) : Option ErrorReport := do
  ofJson? (← WrittenJson.parse? text)

end ErrorReport

end QueryShell
