import QueryShell.Proofs.Execution.Calls

/-!
# Where a failure comes from

An execution fails for one of four reasons, and each of them has its own way to
the caller: the text is no query, the query has no plan, a call on the store
fails, or a modifier stands behind an output that is no cursor. On every way the
text of the query is put into the error, so that whoever sees the error knows
which query it is about.

A store may fail with any error of the shell. What it says about a query is kept
word for word; any other error becomes a failure of the store whose message is
the text that the error is displayed as. `Reports` is this relation between the
two errors, and `Cause` has one rule for each of the four reasons.

## Main statements

* `Course.cause`: what a run fails of.
* `Store.execute_eq_error`: what an execution fails of, and what its error says.
-/

namespace QueryShell

variable {σ κ γ : Type}

/-! ## Errors of a store -/

namespace ShellError

/-- The error that a query fails with if the store has failed. -/
def toQueryError : ShellError → QueryError
  | query e => e
  | e => .store e.display

end ShellError

namespace QueryError

/-- **The error says what the store has said**: all that the store has said
about a query, and otherwise the displayed text of its error and nothing
besides. -/
def Reports (e : QueryError) : ShellError → Prop
  | .query r => e.kind = r.kind ∧ e.message = r.message ∧ e.offset = r.offset ∧
      e.callIndex = r.callIndex ∧ e.diagnostic = r.diagnostic
  | r => e.kind = .storeError ∧ e.message = r.display ∧ e.offset = none ∧ e.callIndex = none ∧
      e.diagnostic = none

/-- The error that a failure is turned into says what the store has said. The
text of the query is added, and nothing is taken away. -/
theorem reports_withQuery (r : ShellError) (text : String) :
    (r.toQueryError.withQuery text).Reports r := by
  cases r with
  | query r => exact ⟨rfl, rfl, rfl, rfl, rfl⟩
  | connection | config | io | generic => exact ⟨rfl, rfl, rfl, rfl, rfl⟩

end QueryError

/-- Tagging turns every failure into a query error with the text. -/
theorem Store.tagError_eq (text : String) (r : ShellError) :
    tagError text r = .query (r.toQueryError.withQuery text) := by
  cases r <;> rfl

/-! ## Causes -/

/-- **Why the execution of a text fails**, with the calls that were made until
then and the error. The four reasons exclude each other, since the text and the
calls decide which of them it is. -/
inductive Cause (text : String) : List (Exchange κ γ) → QueryError → Prop
  /-- The text is no query. -/
  | unread {e : QueryError} (h : Query.parse text = .error e) : Cause text [] e
  /-- The query has no plan. -/
  | unplanned {q : Query} {e : QueryError} (hq : Query.parse text = .ok q)
    (hp : Plan.ofQuery q = .error e) : Cause text [] (e.withQuery text)
  /-- The last call on the store has failed. -/
  | failed (calls : List (Exchange κ γ)) {x : Exchange κ γ} {r : ShellError} (hx : x.error? = some r)
    (hcalls : ∀ y ∈ calls, y.error? = none) :
    Cause text (calls ++ [x]) (r.toQueryError.withQuery text)
  /-- No call has failed, but the output of the operation is no cursor and a
  modifier follows. -/
  | unmodifiable {q : Query} {p : Plan} {k : κ} {out : Output γ} {c : Call} {cs : List Call}
    (hq : Query.parse text = .ok q) (hp : Plan.ofQuery q = .ok p) (hout : ¬out.IsCursor)
    (hmodifiers : q.modifiers = c :: cs) :
    Cause text [.resolve q.collection (.ok k), .invoke k p.operation q.baseArgs (.ok out)]
      ((p.outputError out c).withQuery text)

section

variable {q : Query} {p : Plan} {log : List (Exchange κ γ)} {r : ShellError}

/-- A cursor that is not finished has failed at its last call. -/
theorem Finishes.exists_failed {c : γ} {ms : List Modifier} {answer : Except ShellError (List Document)}
    (h : Finishes c ms log answer) (hanswer : answer = .error r) :
    ∃ calls x, log = calls ++ [x] ∧ x.error? = some r ∧ ∀ y ∈ calls, y.error? = none := by
  induction h with
  | @drained c answer =>
    subst hanswer
    exact ⟨[], .drain c (.error r), rfl, rfl, by simp⟩
  | @applied c c' m ms log answer _ ih =>
    obtain ⟨calls, x, rfl, hx, hcalls⟩ := ih hanswer
    exact ⟨.applyModifier c m (.ok c') :: calls, x, rfl, hx, List.forall_mem_cons.mpr ⟨rfl, hcalls⟩⟩
  | @refused c m ms e =>
    cases hanswer
    exact ⟨[], .applyModifier c m (.error r), rfl, rfl, by simp⟩

/-- **What a run fails of**: its last call, or a modifier that has no cursor to
modify. The second is found out only when the operation has answered, so that it
is no matter of the plan. -/
theorem Course.cause {text : String} {answer : Except ShellError (ResultKind × List Bson)}
    (h : Course q p log answer) (hanswer : answer = .error r) (hq : Query.parse text = .ok q)
    (hp : Plan.ofQuery q = .ok p) : Cause text log (r.toQueryError.withQuery text) := by
  cases h with
  | @unresolved e =>
    cases hanswer
    exact .failed [] rfl (by simp)
  | @failed k e =>
    cases hanswer
    exact .failed [.resolve q.collection (.ok k)] rfl (by simp [Exchange.error?, failure?])
  | @invoked k out log answer h =>
    cases h with
    | @cursor c log answer h =>
      cases answer with
      | ok docs => cases hanswer
      | error e =>
        cases hanswer
        obtain ⟨calls, x, rfl, hx, hcalls⟩ := h.exists_failed rfl
        exact .failed (.resolve q.collection (.ok k) ::
            .invoke k p.operation q.baseArgs (.ok (.cursor c)) :: calls) hx
          (List.forall_mem_cons.mpr ⟨rfl, List.forall_mem_cons.mpr ⟨rfl, hcalls⟩⟩)
    | flat => cases hanswer
    | unmodifiable hout hmodifiers =>
      cases hanswer
      exact .unmodifiable hq hp hout hmodifiers

end

/-- On every way the text of the query is put into the error. -/
theorem Cause.query_eq {text : String} {log : List (Exchange κ γ)} {e : QueryError}
    (h : Cause text log e) : e.query = text := by
  cases h with
  | unread h =>
    unfold Query.parse at h
    split at h
    · cases h
    · cases h
      rfl
  | unplanned | failed | unmodifiable => rfl

/-- If a call on the store has failed, then the error says what the store has
said. -/
theorem Cause.reports {text : String} {log : List (Exchange κ γ)} {e : QueryError}
    (h : Cause text log e) {x : Exchange κ γ} (hx : x ∈ log) {r : ShellError}
    (hr : x.error? = some r) : e.Reports r := by
  cases h with
  | unread | unplanned => cases hx
  | @failed calls y r' hy hcalls =>
    rcases List.mem_append.mp hx with hx | hx
    · rw [hcalls x hx] at hr
      cases hr
    · cases List.mem_singleton.mp hx
      rw [hy] at hr
      cases hr
      exact QueryError.reports_withQuery r text
  | unmodifiable =>
    rcases List.mem_pair.mp hx with rfl | rfl <;> cases hr

/-! ## Failed executions -/

/-- **Every failure has its cause and its query**: an execution fails with an
error of its own query, for one of the reasons of `Cause`, and the error says
what the store has said if it is the store that has failed. The calls are those
that a recorder writes down without changing anything. -/
theorem Store.execute_eq_error (store : Store σ κ γ) {text : String} {s : σ} {e : ShellError}
    (h : (store.execute text s).1 = .error e) :
    ∃ (log : List (Exchange κ γ)) (err : QueryError),
      store.recorded.execute text (s, []) = (.error e, (store.execute text s).2, log) ∧
      e = .query err ∧ err.query = text ∧ Cause text log err ∧
      ∀ x ∈ log, ∀ r, x.error? = some r → err.Reports r := by
  -- it is enough to know the calls and the cause
  suffices hcause : ∃ (log : List (Exchange κ γ)) (err : QueryError),
      store.recorded.execute text (s, []) = (.error e, (store.execute text s).2, log) ∧
      e = .query err ∧ Cause text log err by
    obtain ⟨log, err, hlog, he, hc⟩ := hcause
    exact ⟨log, err, hlog, he, hc.query_eq, hc, fun x hx r hr => hc.reports hx hr⟩
  cases hparse : Query.parse text with
  | error err =>
    rw [store.execute_of_parse_error hparse] at h ⊢
    cases h
    exact ⟨[], err, store.recorded.execute_of_parse_error hparse _, rfl, .unread hparse⟩
  | ok q =>
    cases hplan : Plan.ofQuery q with
    | error err =>
      rw [store.execute_of_plan_error hparse hplan] at h ⊢
      cases h
      exact ⟨[], _, store.recorded.execute_of_plan_error hparse hplan _, rfl, .unplanned hparse hplan⟩
    | ok p =>
      obtain ⟨log, hlog, hcourse⟩ := store.runPlan_recorded s [] q p
      rw [store.execute_of_plan hparse hplan] at h ⊢
      rw [store.recorded.execute_of_plan hparse hplan, hlog]
      cases hanswer : (store.runPlan q p s).1 with
      | ok result =>
        rw [hanswer] at h
        cases h
      | error r =>
        rw [hanswer] at h
        cases h
        exact ⟨log, _, rfl, Store.tagError_eq text r, hcourse.cause hanswer hparse hplan⟩

/-- A store that finds every collection and answers with a cursor, and whose
connection is lost when the cursor is drained. -/
def Store.lost : Store Unit Unit Unit where
  resolve _ := pure ()
  invoke _ _ _ := pure (.cursor ())
  applyModifier _ _ := pure ()
  drain _ := throw (.connection .notConnected)
  sampleDocument _ := throw (.connection .notConnected)
  listCollections := throw (.connection .notConnected)
  collectionStats := throw (.connection .notConnected)
  listDatabases := throw (.connection .notConnected)

/-- What a query fails with on that store. -/
def QueryError.lost (text : String) : QueryError :=
  (QueryError.store "Connection error: Not connected to MongoDB").withQuery text

/-- The query is planned and its cursor explained before the connection is lost,
so that the failure comes from the store alone. -/
theorem Store.execute_lost_eq_error :
    (lost.execute "db.users.find().explain()" ()).1 =
      .error (.query (.lost "db.users.find().explain()")) ∧
    ∃ (log : List (Exchange Unit Unit)) (err : QueryError),
      lost.recorded.execute "db.users.find().explain()" ((), []) =
        (.error (.query (.lost "db.users.find().explain()")),
          (lost.execute "db.users.find().explain()" ()).2, log) ∧
      ShellError.query (.lost "db.users.find().explain()") = .query err ∧
      err.query = "db.users.find().explain()" ∧ Cause "db.users.find().explain()" log err ∧
      ∀ x ∈ log, ∀ r, x.error? = some r → err.Reports r := by
  have hparse : Query.parse "db.users.find().explain()" =
      .ok ⟨"users", [⟨"find", [], ⟨9, 15⟩⟩, ⟨"explain", [], ⟨16, 25⟩⟩]⟩ := by
    cbv
  have hlost : (lost.execute "db.users.find().explain()" ()).1 =
      .error (.query (.lost "db.users.find().explain()")) := by
    rw [lost.execute_of_plan (p := ⟨.find, [.explain .queryPlanner]⟩) hparse rfl]
    rfl
  exact ⟨hlost, lost.execute_eq_error hlost⟩

end QueryShell
