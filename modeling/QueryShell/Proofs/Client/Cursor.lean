import Mathlib.Data.List.Basic
import QueryShell.Proofs.Client.Recording
import QueryShell.Proofs.Outcome

/-!
# What modifiers make of a cursor

A modifier changes a cursor in one step, which fails only for a count that is
too large for a stage of a pipeline, and then before anything is changed
(`Cursor.eq_of_modify_eq_error`). So a chain of modifiers can be followed
step by step. On a search each kind of modifier has a place of its own, which
the last one of that kind fills; how modifiers of different kinds are mixed does
not matter. On an aggregation each one that sorts, skips or limits adds a stage.

What a drained cursor asks is one call, `Cursor.call`, and a cursor that has no
call asks nothing.

## Main statements

* `Cursor.modify_find`, `Cursor.modify_aggregate`: one step in place.
* `Cursor.eq_of_modify_eq_error`: a step that fails leaves the cursor as it was.
* `Cursor.foldlM_apply_find`, `Cursor.foldlM_apply_aggregate`: what a chain of
  modifiers makes of a cursor.
* `Cursor.drain_recorded`: what a cursor asks when it is drained.
-/

namespace QueryShell

/-! ## Counts and kinds of modifiers -/

namespace Modifier

/-- The server can take the count, if there is one. -/
def InRange : Modifier → Prop
  | limit n | skip n => n.toNat < 2 ^ 63
  | sort _ | explain _ => True

/-- The keys of a sort. -/
def sort? : Modifier → Option Document
  | sort spec => some spec
  | _ => none

/-- The count of a limit. -/
def limit? : Modifier → Option UInt64
  | limit n => some n
  | _ => none

/-- The count of a skip. -/
def skip? : Modifier → Option UInt64
  | skip n => some n
  | _ => none

/-- The verbosity of an explanation. -/
def explain? : Modifier → Option Verbosity
  | explain verbosity => some verbosity
  | _ => none

/-- The stage that a modifier adds to a pipeline. A limit of zero and an
explanation add none. -/
def stage? : Modifier → Option Document
  | sort spec => some [("$sort", .document spec)]
  | limit n => if 0 < n then some [("$limit", .int64 (Int64.ofNat n.toNat))] else none
  | skip n => some [("$skip", .int64 (Int64.ofNat n.toNat))]
  | explain _ => none

/-- **The last value of a kind** among some modifiers. A search keeps one value
of each kind, and each new one takes the place of the one before. -/
def lastOf {α : Type} (kind : Modifier → Option α) (ms : List Modifier) : Option α :=
  (ms.filterMap kind).getLast?

variable {α : Type} {kind : Modifier → Option α} {ms : List Modifier}

/-- A modifier counts if none of its kind follows. -/
theorem lastOf_cons (kind : Modifier → Option α) (m : Modifier) (ms : List Modifier) :
    lastOf kind (m :: ms) = (lastOf kind ms).or (kind m) := by
  unfold lastOf
  rw [List.filterMap_cons]
  cases kind m with
  | none => rw [Option.or_none]
  | some a => rw [List.getLast?_cons, Option.or_some]

/-- Of two chains the second counts where it says anything. -/
theorem lastOf_append (kind : Modifier → Option α) (ms ms' : List Modifier) :
    lastOf kind (ms ++ ms') = (lastOf kind ms').or (lastOf kind ms) := by
  unfold lastOf
  rw [List.filterMap_append, List.getLast?_append]

theorem lastOf_append_cons {m : Modifier} (h : kind m = none) (ms ms' : List Modifier) :
    lastOf kind (ms ++ m :: ms') = lastOf kind (ms ++ ms') := by
  rw [lastOf_append, lastOf_cons, h, Option.or_none, lastOf_append]

/-- What counts has been said by one of the modifiers. -/
theorem exists_mem_of_lastOf_eq_some {a : α} (h : lastOf kind ms = some a) :
    ∃ m ∈ ms, kind m = some a :=
  List.mem_filterMap.mp (List.mem_of_getLast? h)

/-- The chain without its explanations. -/
def unexplained (ms : List Modifier) : List Modifier :=
  ms.filter fun m => !m.isExplain

/-- What is said by modifiers of another kind is said without the explanations
as well. -/
theorem filterMap_unexplained (kind : Modifier → Option α)
    (h : ∀ verbosity, kind (explain verbosity) = none) (ms : List Modifier) :
    (unexplained ms).filterMap kind = ms.filterMap kind := by
  unfold unexplained
  rw [List.filterMap_filter]
  refine List.filterMap_congr fun m _ => ?_
  cases m with
  | explain verbosity => exact (h verbosity).symm
  | sort | limit | skip => rfl

/-- What counts of another kind does not depend on the explanations. -/
theorem lastOf_unexplained (kind : Modifier → Option α)
    (h : ∀ verbosity, kind (explain verbosity) = none) (ms : List Modifier) :
    lastOf kind (unexplained ms) = lastOf kind ms :=
  congrArg List.getLast? (filterMap_unexplained kind h ms)

theorem lastOf_explain?_unexplained (ms : List Modifier) :
    lastOf explain? (unexplained ms) = none := by
  refine Option.eq_none_iff_forall_ne_some.mpr fun verbosity h => ?_
  obtain ⟨m, hm, hkind⟩ := exists_mem_of_lastOf_eq_some h
  have hunexplained := (List.mem_filter.mp hm).2
  cases m with
  | explain => cases hunexplained
  | sort | limit | skip => cases hkind

/-- The count of a limit that is in range fits into an integer. -/
theorem lt_of_limit? {m : Modifier} {n : UInt64} (h : limit? m = some n) (hm : m.InRange) :
    n.toNat < 2 ^ 63 := by
  cases m <;> cases h
  exact hm

/-- The count of a skip that is in range fits into an integer. -/
theorem lt_of_skip? {m : Modifier} {n : UInt64} (h : skip? m = some n) (hm : m.InRange) :
    n.toNat < 2 ^ 63 := by
  cases m <;> cases h
  exact hm

end Modifier

namespace Cursor

open Modifier (lastOf sort? limit? skip? explain? stage?)

variable {c : Cursor} {m : Modifier} {ms : List Modifier} {name : String} {n : UInt64}

/-- A count below 2⁶³ is handed on as it is. -/
theorem toInt64_of_lt (h : n.toNat < 2 ^ 63) : toInt64 name n = .ok (Int64.ofNat n.toNat) := by
  rw [toInt64, if_pos h]

/-- A count from 2⁶³ on is refused as an invalid argument. -/
theorem exists_toInt64_eq_error (name : String) (h : ¬n.toNat < 2 ^ 63) :
    ∃ e, toInt64 name n = .error e ∧ e.kind = .invalidArgument := by
  rw [toInt64, if_neg h]
  exact ⟨_, rfl, rfl⟩

/-- A count that may be missing is one that the server can take. -/
def FitsInt64 (n : Option UInt64) : Prop :=
  ∀ k, n = some k → k.toNat < 2 ^ 63

theorem fitsInt64_none : FitsInt64 none := nofun

/-- If all modifiers are in range then the count that is left of them fits. -/
theorem fitsInt64_lastOf {kind : Modifier → Option UInt64}
    (hkind : ∀ {m n}, kind m = some n → m.InRange → n.toNat < 2 ^ 63) (hms : ∀ m ∈ ms, m.InRange) :
    FitsInt64 (lastOf kind ms) := by
  intro n hn
  obtain ⟨m, hm, h⟩ := Modifier.exists_mem_of_lastOf_eq_some hn
  exact hkind h (hms m hm)

/-- A count that fits, or is missing, is handed on as it is. -/
theorem toInt64?_of_fits {n : Option UInt64} (h : FitsInt64 n) :
    toInt64? name n = .ok (n.map fun k => Int64.ofNat k.toNat) := by
  cases n with
  | none => rfl
  | some k =>
    rw [toInt64?, toInt64_of_lt (h k rfl)]
    rfl

/-- A count that does not fit is refused as an invalid argument. -/
theorem exists_toInt64?_eq_error (name : String) {n : Option UInt64} (h : ¬FitsInt64 n) :
    ∃ e, toInt64? name n = .error e ∧ e.kind = .invalidArgument := by
  obtain ⟨k, hk⟩ := Classical.not_forall.mp h
  obtain ⟨rfl, hlt⟩ := Classical.not_imp.mp hk
  obtain ⟨e, he, hkind⟩ := exists_toInt64_eq_error name hlt
  exact ⟨e, map_eq_error.mpr he, hkind⟩

/-- No limit that is too large is zero. -/
theorem fitsInt64_positive?_iff {n : Option UInt64} : FitsInt64 (positive? n) ↔ FitsInt64 n := by
  constructor
  · intro h k hk
    by_cases hpos : 0 < k
    · exact h k (Option.filter_eq_some_iff.mpr ⟨hk, decide_eq_true hpos⟩)
    · obtain rfl : k = 0 := by simpa using hpos
      exact Nat.two_pow_pos 63
  · exact fun h k hk => h k (Option.filter_eq_some_iff.mp hk).1

/-! ## One step -/

/-- A count below 2⁶³ becomes a stage at the end of the pipeline. -/
theorem pushCount_of_lt (c : Cursor) (pipeline : List Document) (stage : String)
    (h : n.toNat < 2 ^ 63) :
    c.pushCount pipeline name stage n c =
      (.ok (), c.withStage pipeline stage (.int64 (Int64.ofNat n.toNat))) := by
  unfold pushCount
  rw [toInt64_of_lt h]
  rfl

/-- With a count from 2⁶³ on the cursor stays as it is, and the modifier is
refused. -/
theorem pushCount_of_not_lt (c : Cursor) (pipeline : List Document) (stage : String)
    (h : ¬n.toNat < 2 ^ 63) :
    ∃ e, e.kind = .invalidArgument ∧ c.pushCount pipeline name stage n c = (.error e, c) := by
  obtain ⟨e, he, hkind⟩ := exists_toInt64_eq_error name h
  refine ⟨e, hkind, ?_⟩
  unfold pushCount
  rw [he]
  rfl

/-- **A modifier of a search** replaces what an earlier one of its kind has
said, and leaves everything else. It is never refused: the counts are checked
when the search is made. -/
theorem modify_find {filter : Document} {projection : Option Document}
    (hsource : c.source = .find filter projection) (m : Modifier) :
    modify m c = (.ok (), { c with
      sort := (sort? m).or c.sort
      limit := (limit? m).or c.limit
      skip := (skip? m).or c.skip
      explain := (explain? m).or c.explain }) := by
  obtain ⟨collection, source, sort, limit, skip, explain⟩ := c
  subst hsource
  cases m <;> rfl

/-- A skip of an aggregation is a stage. -/
theorem modify_skip {pipeline : List Document} (hsource : c.source = .aggregate pipeline) :
    modify (.skip n) c = c.pushCount pipeline "skip" "$skip" n c := by
  obtain ⟨collection, source, sort, limit, skip, explain⟩ := c
  subst hsource
  rfl

/-- A limit of an aggregation is a stage unless it is zero. -/
theorem modify_limit {pipeline : List Document} (hsource : c.source = .aggregate pipeline)
    (hn : 0 < n) : modify (.limit n) c = c.pushCount pipeline "limit" "$limit" n c := by
  obtain ⟨collection, source, sort, limit, skip, explain⟩ := c
  subst hsource
  exact congrFun (if_pos hn) _

/-- **One step on an aggregation** adds a stage, if the modifier has one.
Nothing is replaced, and repeated modifiers are repeated stages. -/
theorem modify_aggregate {pipeline : List Document} (hsource : c.source = .aggregate pipeline)
    (hm : m.InRange) :
    modify m c = (.ok (), { c with
      source := .aggregate (pipeline ++ (stage? m).toList)
      explain := (explain? m).or c.explain }) := by
  obtain ⟨collection, source, sort, limit, skip, explain⟩ := c
  subst hsource
  cases m with
  | sort spec => rfl
  | explain verbosity =>
    rw [stage?, Option.toList_none, List.append_nil]
    rfl
  | skip n =>
    rw [modify_skip rfl, pushCount_of_lt _ _ _ hm]
    rfl
  | limit n =>
    by_cases hn : 0 < n
    · rw [modify_limit rfl hn, pushCount_of_lt _ _ _ hm, stage?, if_pos hn]
      rfl
    · rw [stage?, if_neg hn, Option.toList_none, List.append_nil]
      exact congrFun (if_neg hn) _

/-- A count that is too large for a stage is refused, and nothing has been
changed then. -/
theorem modify_aggregate_of_not_inRange {pipeline : List Document}
    (hsource : c.source = .aggregate pipeline) (hm : ¬m.InRange) :
    ∃ e, e.kind = .invalidArgument ∧ modify m c = (.error e, c) := by
  cases m with
  | sort | explain => exact absurd trivial hm
  | skip n =>
    rw [modify_skip hsource]
    exact pushCount_of_not_lt c pipeline _ hm
  | limit n =>
    have hn : 0 < n := by
      refine UInt64.pos_iff_ne_zero.mpr ?_
      rintro rfl
      exact hm (Nat.two_pow_pos 63)
    rw [modify_limit hsource hn]
    exact pushCount_of_not_lt c pipeline _ hm

/-- **A step that fails leaves the cursor as it was.** A count is converted
before the cursor is written to. -/
theorem eq_of_modify_eq_error {c' : Cursor} {e : QueryError} (h : modify m c = (.error e, c')) :
    c' = c := by
  cases hsource : c.source with
  | find filter projection =>
    rw [modify_find hsource] at h
    cases h
  | aggregate pipeline =>
    by_cases hm : m.InRange
    · rw [modify_aggregate hsource hm] at h
      cases h
    · obtain ⟨e', -, he'⟩ := modify_aggregate_of_not_inRange hsource hm
      rw [he'] at h
      exact (Prod.mk.inj h).2.symm

/-- A modifier that is accepted leaves the cursor that it has made. -/
theorem apply_of_modify_eq_ok {c' : Cursor} (h : modify m c = (.ok (), c')) : c.apply m = .ok c' := by
  unfold apply
  rw [h]

theorem apply_of_modify_eq_error {c' : Cursor} {e : QueryError} (h : modify m c = (.error e, c')) :
    c.apply m = .error e := by
  unfold apply
  rw [h]

/-! ## Chains of modifiers -/

/-- **What a chain of modifiers makes of a search**: of each kind the last one
counts, whatever stands between them. The chain cannot fail, since a search
tests its counts only when it is drained. -/
theorem foldlM_apply_find {filter : Document} {projection : Option Document}
    (hsource : c.source = .find filter projection) (ms : List Modifier) :
    ms.foldlM apply c = .ok { c with
      sort := (lastOf sort? ms).or c.sort
      limit := (lastOf limit? ms).or c.limit
      skip := (lastOf skip? ms).or c.skip
      explain := (lastOf explain? ms).or c.explain } := by
  induction ms generalizing c with
  | nil => rfl
  | cons m ms ih =>
    rw [List.foldlM_cons, apply_of_modify_eq_ok (modify_find hsource m), hsource]
    refine (ih rfl).trans ?_
    simp only [Modifier.lastOf_cons, Option.or_assoc]

/-- The search that a chain of modifiers makes. -/
def chained (collection : String) (filter : Document) (projection : Option Document)
    (ms : List Modifier) : Cursor where
  collection
  source := .find filter projection
  sort := lastOf sort? ms
  limit := lastOf limit? ms
  skip := lastOf skip? ms
  explain := lastOf explain? ms

/-- Beginning with a search that nothing has been said about, the last one of
each kind is all there is. -/
theorem foldlM_apply_eq_chained (collection : String) (filter : Document)
    (projection : Option Document) (ms : List Modifier) :
    ms.foldlM apply { collection, source := .find filter projection } =
      .ok (chained collection filter projection ms) := by
  rw [foldlM_apply_find rfl]
  simp only [Option.or_none]
  rfl

/-- **What a chain of modifiers makes of an aggregation**: each adds its stage
to the pipeline, in the order of the chain, and counts have to be in range for
it. -/
theorem foldlM_apply_aggregate {pipeline : List Document} (hsource : c.source = .aggregate pipeline)
    (hms : ∀ m ∈ ms, m.InRange) :
    ms.foldlM apply c = .ok { c with
      source := .aggregate (pipeline ++ ms.filterMap stage?)
      explain := (lastOf explain? ms).or c.explain } := by
  induction ms generalizing c pipeline with
  | nil =>
    obtain ⟨collection, source, sort, limit, skip, explain⟩ := c
    subst hsource
    rw [List.filterMap_nil, List.append_nil]
    rfl
  | cons m ms ih =>
    obtain ⟨hm, hms⟩ := List.forall_mem_cons.mp hms
    rw [List.foldlM_cons, apply_of_modify_eq_ok (modify_aggregate hsource hm)]
    refine (ih rfl hms).trans ?_
    simp only [Modifier.lastOf_cons, Option.or_assoc, List.append_assoc]
    congr
    cases hstage : stage? m <;> simp [hstage]

/-! ## What a cursor asks -/

/-- The call that a cursor makes when it is drained. -/
def call (c : Cursor) : Except QueryError ClientCall :=
  match c.explain with
  | some verbosity => (c.explanation verbosity).map .runCommand
  | none =>
    match c.source with
    | .find filter projection => (c.findOptions projection).map (.find c.collection filter)
    | .aggregate pipeline => .ok (.aggregate c.collection pipeline)

section

variable {verbosity : Verbosity} {filter : Document} {projection : Option Document}
  {pipeline : List Document}

/-- If an explanation is asked for, the call is the command that explains. -/
theorem call_explained (hexplain : c.explain = some verbosity) :
    c.call = (c.explanation verbosity).map .runCommand := by
  rw [call, hexplain]

/-- A search is handed on with its options, if these can be made. -/
theorem call_find (hexplain : c.explain = none) (hsource : c.source = .find filter projection) :
    c.call = (c.findOptions projection).map (.find c.collection filter) := by
  rw [call, hexplain, hsource]

theorem call_aggregate (hexplain : c.explain = none) (hsource : c.source = .aggregate pipeline) :
    c.call = .ok (.aggregate c.collection pipeline) := by
  rw [call, hexplain, hsource]

variable {σ : Type} (client : Client σ)

/-- A drain that explains runs the command and has the reply as its only
document. -/
theorem drain_explained (hexplain : c.explain = some verbosity) :
    c.drain client = lift (c.explanation verbosity) >>= fun command =>
      client.runCommand command >>= fun reply => pure [reply] := by
  rw [drain, hexplain]

/-- A drain of a search makes the options first, so that a count that is too
large is refused before anything is asked. -/
theorem drain_find (hexplain : c.explain = none) (hsource : c.source = .find filter projection) :
    c.drain client = lift (c.findOptions projection) >>= fun options =>
      client.find c.collection filter options := by
  rw [drain, hexplain, hsource]

/-- A drain of an aggregation has nothing to check any more. -/
theorem drain_aggregate (hexplain : c.explain = none) (hsource : c.source = .aggregate pipeline) :
    c.drain client = client.aggregate c.collection pipeline := by
  rw [drain, hexplain, hsource]

/-- A cursor that has no call fails, whatever the client is. -/
theorem drain_of_call_eq_error {e : QueryError} (h : c.call = .error e) :
    c.drain client = .failQuery e := by
  cases hexplain : c.explain with
  | some verbosity =>
    rw [call_explained hexplain] at h
    rw [drain_explained client hexplain, map_eq_error.mp h]
    rfl
  | none =>
    cases hsource : c.source with
    | find filter projection =>
      rw [call_find hexplain hsource] at h
      rw [drain_find client hexplain hsource, map_eq_error.mp h]
      rfl
    | aggregate pipeline =>
      rw [call_aggregate hexplain hsource] at h
      cases h

/-- **What a cursor asks when it is drained**: its one call, and noting it
changes nothing else. The log grows by this call and by how it failed, if it
did. -/
theorem drain_recorded {call : ClientCall} (h : c.call = .ok call) (s : σ)
    (log : List ClientExchange) :
    c.drain client.recorded (s, log) =
      ((c.drain client s).1, (c.drain client s).2,
        log ++ [⟨call, failure? (c.drain client s).1⟩]) := by
  cases hexplain : c.explain with
  | some verbosity =>
    rw [call_explained hexplain] at h
    obtain ⟨command, hcommand, rfl⟩ := map_eq_ok.mp h
    rw [drain_explained _ hexplain, drain_explained _ hexplain, hcommand]
    exact StoreM.note_bind_pure _ _ _ s log
  | none =>
    cases hsource : c.source with
    | find filter projection =>
      rw [call_find hexplain hsource] at h
      obtain ⟨options, hoptions, rfl⟩ := map_eq_ok.mp h
      rw [drain_find _ hexplain hsource, drain_find _ hexplain hsource, hoptions]
      rfl
    | aggregate pipeline =>
      rw [call_aggregate hexplain hsource] at h
      cases h
      rw [drain_aggregate _ hexplain hsource, drain_aggregate _ hexplain hsource]
      rfl

end

end Cursor

end QueryShell
