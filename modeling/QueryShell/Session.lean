import QueryShell.Execution

/-!
# Sessions

A `Registry` keeps the state of the open tabs. A query is submitted to a tab
before it runs, and its outcome is delivered when it is done. Every submission
raises the tab's generation, and the ticket that it hands out remembers it: an
outcome whose ticket is of an older generation, or whose tab is closed, is
dropped. So the last query that was submitted wins, in whatever order the
runs end.

Generations are natural numbers. They stand for a counter of 64 bits: the two
agree as long as a tab has seen fewer than 2⁶⁴ submissions, and every tab is
assumed to have seen fewer.
-/

namespace QueryShell

/-- A tab, by the number of tabs opened before it. -/
structure TabId where
  index : Nat
deriving DecidableEq, Repr

namespace TabId

def display (t : TabId) : String :=
  s!"<tab {t.index}>"

end TabId

/-- How a query has ended. -/
inductive Outcome where
  | completed (r : Result)
  /-- The query failed with an error of this text. -/
  | failed (text : String)
deriving Repr

namespace Outcome

def ofAnswer : Except ShellError Result → Outcome
  | .ok r => completed r
  | .error e => failed e.display

end Outcome

/-- The state of a tab. -/
structure Tab where
  /-- The text that was submitted last. -/
  query : String := ""
  schema : Option Schema := none
  /-- The outcome that was accepted last. -/
  last : Option Outcome := none
  /-- How many queries were submitted, where a counter of 64 bits has not come
  round. -/
  generation : Nat := 0
deriving Repr

/-- The proof of a submission. -/
structure Ticket where
  tab : TabId
  /-- The generation that the submission has begun. -/
  generation : Nat
deriving DecidableEq, Repr

/-- What has become of the outcome of a run. -/
inductive RunOutcome where
  | current (o : Outcome)
  /-- A newer query was submitted in the meantime, or the tab was closed. -/
  | stale
deriving Repr

/-- The tabs in the order in which they were opened; a closed tab leaves an
empty place. -/
structure Registry where
  tabs : List (Option Tab) := []
deriving Repr

namespace Registry

/-- An open tab. -/
def get? (r : Registry) (t : TabId) : Option Tab :=
  (r.tabs[t.index]?).join

/-- The error of an operation on a tab that is not open. -/
def unknownTab (t : TabId) : ShellError :=
  .generic s!"Unknown tab: {t.display}"

/-- Replaces the state of a tab. -/
def put (r : Registry) (t : TabId) (tab : Option Tab) : Registry :=
  ⟨r.tabs.set t.index tab⟩

/-- The number of open tabs. -/
def count (r : Registry) : Nat :=
  r.tabs.countP Option.isSome

/-- Opens a tab. -/
def openTab (r : Registry) : TabId × Registry :=
  (⟨r.tabs.length⟩, ⟨r.tabs ++ [some ({} : Tab)]⟩)

/-- Closes a tab, and says whether it was open. -/
def closeTab (r : Registry) (t : TabId) : Bool × Registry :=
  ((r.get? t).isSome, r.put t none)

/-- The state of a tab. -/
def snapshot (r : Registry) (t : TabId) : Except ShellError Tab :=
  match r.get? t with
  | some tab => .ok tab
  | none => .error (unknownTab t)

/-- Replaces the schema of a tab. -/
def selectSchema (r : Registry) (t : TabId) (schema : Option Schema) : Except ShellError Registry :=
  match r.get? t with
  | some tab => .ok (r.put t (some { tab with schema }))
  | none => .error (unknownTab t)

/-- The schema of a tab. -/
def activeSchema (r : Registry) (t : TabId) : Except ShellError (Option Schema) :=
  (r.snapshot t).map Tab.schema

/-- Begins a query on a tab. -/
def submit (r : Registry) (t : TabId) (query : String) : Except ShellError (Ticket × Registry) :=
  match r.get? t with
  | some tab =>
    let generation := tab.generation + 1
    .ok (⟨t, generation⟩, r.put t (some { tab with query, generation }))
  | none => .error (unknownTab t)

/-- Delivers the outcome of a query, and says whether it was accepted. -/
def deliver (r : Registry) (ticket : Ticket) (o : Outcome) : Bool × Registry :=
  match r.get? ticket.tab with
  | some tab =>
    if tab.generation = ticket.generation then
      (true, r.put ticket.tab (some { tab with last := some o }))
    else (false, r)
  | none => (false, r)

/-- Submits a query, runs it and delivers its outcome. -/
def run {σ κ γ : Type} (r : Registry) (store : Store σ κ γ) (t : TabId) (query : String) (s : σ) :
    Except ShellError RunOutcome × Registry × σ :=
  match r.submit t query with
  | .error e => (.error e, r, s)
  | .ok (ticket, r) =>
    let (answer, s) := store.execute query s
    let outcome := Outcome.ofAnswer answer
    let (accepted, r) := r.deliver ticket outcome
    (.ok (if accepted then .current outcome else .stale), r, s)

end Registry

end QueryShell
