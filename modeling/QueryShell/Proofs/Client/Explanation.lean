import QueryShell.Proofs.Client.Cursor

/-!
# An explanation is about the query that would run

A query is put together twice from what a cursor has gathered: once as the
options of a search or as a pipeline, and once as the command that an
explanation is about. To compare the two, `Asked` is what a server is asked for,
and `ClientCall.asked?` reads it off a call: off the options of a search, off a
pipeline, or off the entries of the command inside an explanation. Counts are
read as numbers, so that it does not matter in which type they are sent.

The two agree for every chain of modifiers whose counts the server can take, and
what they ask for has a closed form (`CursorSource.asks`).

## Main statements

* `Cursor.exists_call_of_fits`: what a cursor asks for, whether it is to be
  explained or not.
* `Cursor.exists_call_eq_error`: a search with a count that does not fit where
  it is sent asks nothing.
* `Cursor.exists_foldlM_apply`: what a chain of modifiers asks for.
* `Cursor.explains_what_runs`: the chain with its explanations and the chain
  without them ask the same.
-/

namespace QueryShell

/-! ## What a server is asked for -/

/-- **What a server is asked to search for.** Counts are integers here, so that
a count of the driver and one in a command can be compared; a limit of zero has
become none. -/
structure Search where
  collection : String
  filter : Document
  projection : Option Document
  sort : Option Document
  skip : Option Int
  limit : Option Int

/-- What a client can be asked for: a search, or a pipeline to run on a
collection. -/
inductive Asked where
  | search (s : Search)
  | pipeline (collection : String) (stages : List Document)

/-- The command for a search whose counts are known. -/
def Cursor.searchCommand (c : Cursor) (filter : Document) (projection : Option Document)
    (skip limit : Option Int64) : Document :=
  [("find", .string c.collection), ("filter", .document filter)] ++
    optionalEntry "projection" (projection.map .document) ++
    optionalEntry "sort" (c.sort.map .document) ++ optionalEntry "skip" (skip.map .int64) ++
    optionalEntry "limit" (limit.map .int64)

namespace Asked

/-- A count as a number. -/
def count (n : UInt64) : Int := n.toNat

/-- What may be missing, but is of its type if it is there. -/
def optional? {α : Type} (read : Bson → Option α) : Option Bson → Option (Option α)
  | none => some none
  | some v => (read v).map some

/-- What a command asks for. It holds nothing besides. -/
def ofCommand? : Document → Option Asked
  | ("find", .string collection) :: rest => do
    guard (rest.all fun e => ["filter", "projection", "sort", "skip", "limit"].contains e.1)
    let filter ← (Entries.get? "filter" rest).bind Bson.document?
    let projection ← optional? Bson.document? (Entries.get? "projection" rest)
    let sort ← optional? Bson.document? (Entries.get? "sort" rest)
    let skip ← optional? Bson.integer? (Entries.get? "skip" rest)
    let limit ← optional? Bson.integer? (Entries.get? "limit" rest)
    some (.search { collection, filter, projection, sort, skip, limit })
  | ("aggregate", .string collection) :: rest => do
    guard (rest.all fun e => ["pipeline", "cursor"].contains e.1)
    let stages ← (Entries.get? "pipeline" rest).bind Bson.items?
    some (.pipeline collection (← stages.mapM Bson.document?))
  | _ => none

/-- The command for a search is read back as that search, with every part that
it has and no other. -/
theorem ofCommand?_searchCommand (c : Cursor) (filter : Document) (projection : Option Document)
    (skip limit : Option Int64) :
    ofCommand? (c.searchCommand filter projection skip limit) =
      some (.search ⟨c.collection, filter, projection, c.sort,
        skip.map Int64.toInt, limit.map Int64.toInt⟩) := by
  obtain ⟨collection, source, sort, -, -, -⟩ := c
  cases projection <;> cases sort <;> cases skip <;> cases limit <;> rfl

theorem mapM_document? (pipeline : List Document) :
    (pipeline.map Bson.document).mapM Bson.document? = some pipeline := by
  induction pipeline with
  | nil => rfl
  | cons stage pipeline ih =>
    rw [List.map_cons, List.mapM_cons, ih]
    rfl

/-- The command for an aggregation is read back as its pipeline. -/
theorem ofCommand?_aggregate (collection : String) (stages : List Document) :
    ofCommand? [("aggregate", .string collection), ("pipeline", .array (stages.map .document)),
      ("cursor", .document [])] = some (.pipeline collection stages) := by
  show ((stages.map Bson.document).mapM Bson.document? >>= fun stages =>
    some (pipeline collection stages)) = _
  rw [mapM_document?]
  rfl

end Asked

/-- What a call asks for, and how it is to be explained if it is not to run. -/
def ClientCall.asked? : ClientCall → Option (Asked × Option String)
  | find collection filter o => some (.search {
      collection, filter, projection := o.projection, sort := o.sort
      skip := o.skip.map Asked.count, limit := o.limit.map Int64.toInt }, none)
  | aggregate collection pipeline => some (.pipeline collection pipeline, none)
  | runCommand [("explain", .document command), ("verbosity", .string verbosity)] =>
    (Asked.ofCommand? command).map fun asked => (asked, some verbosity)
  | _ => none

/-- What a command that explains another asks for. -/
theorem ClientCall.asked?_explanation {command : Document} {asked : Asked}
    (h : Asked.ofCommand? command = some asked) (verbosity : String) :
    (runCommand [("explain", .document command), ("verbosity", .string verbosity)]).asked? =
      some (asked, some verbosity) :=
  congrArg (Option.map fun asked => (asked, some verbosity)) h

/-! ## What a cursor asks for -/

namespace Cursor

variable {c : Cursor} {filter : Document} {projection : Option Document}

/-- The query that a cursor stands for. -/
def asked (c : Cursor) : Asked :=
  match c.source with
  | .find filter projection => .search {
      collection := c.collection, filter, projection, sort := c.sort
      skip := c.skip.map Asked.count, limit := (positive? c.limit).map Asked.count }
  | .aggregate pipeline => .pipeline c.collection pipeline

/-- The counts of a search fit where they are sent: its limit in any case, what
it skips into a command. -/
def Fits (c : Cursor) : Prop :=
  FitsInt64 c.limit ∧ (c.explain ≠ none → FitsInt64 c.skip)

/-- Counts that fit are sent as they are. -/
theorem map_toInt_map_ofNat {n : Option UInt64} (h : FitsInt64 n) :
    (n.map fun k => Int64.ofNat k.toNat).map Int64.toInt = n.map Asked.count := by
  cases n with
  | none => rfl
  | some k => exact congrArg some (Int64.toInt_ofNat_of_lt (h k rfl))

/-- A limit that fits is handed on, and a limit of zero is left out. -/
theorem limitOf_of_fits (h : FitsInt64 c.limit) :
    c.limitOf = .ok ((positive? c.limit).map fun n => Int64.ofNat n.toNat) :=
  toInt64?_of_fits (fitsInt64_positive?_iff.mpr h)

/-- A limit that does not fit is refused as an invalid argument. -/
theorem exists_limitOf_eq_error (h : ¬FitsInt64 c.limit) :
    ∃ e, c.limitOf = .error e ∧ e.kind = .invalidArgument :=
  exists_toInt64?_eq_error "limit" (mt fitsInt64_positive?_iff.mp h)

/-- To explain a search, what it skips is converted first and its limit second;
the command has both. -/
theorem explainedCommand_find (hsource : c.source = .find filter projection) :
    c.explainedCommand = toInt64? "skip" c.skip >>= fun skip =>
      c.limitOf >>= fun limit => .ok (c.searchCommand filter projection skip limit) := by
  rw [explainedCommand, hsource]
  rfl

/-- **What a cursor asks for**: the query that it stands for, run or explained.
Both forms are read back by `ClientCall.asked?`, the driver's options and the
command, so that they cannot differ in anything that is read. -/
theorem exists_call_of_fits (h : c.Fits) :
    ∃ call, c.call = .ok call ∧ call.asked? = some (c.asked, c.explain.map Verbosity.name) := by
  obtain ⟨hlimit, hskip⟩ := h
  unfold asked
  cases hexplain : c.explain with
  | some verbosity =>
    rw [call_explained hexplain]
    unfold explanation
    cases hsource : c.source with
    | find filter projection =>
      have hskip := hskip (hexplain ▸ Option.some_ne_none verbosity)
      rw [explainedCommand_find hsource, toInt64?_of_fits hskip, limitOf_of_fits hlimit]
      refine ⟨_, rfl, ClientCall.asked?_explanation ?_ verbosity.name⟩
      rw [Asked.ofCommand?_searchCommand, map_toInt_map_ofNat hskip,
        map_toInt_map_ofNat (fitsInt64_positive?_iff.mpr hlimit)]
    | aggregate pipeline =>
      unfold explainedCommand
      rw [hsource]
      exact ⟨_, rfl, ClientCall.asked?_explanation (Asked.ofCommand?_aggregate _ _) verbosity.name⟩
  | none =>
    cases hsource : c.source with
    | find filter projection =>
      rw [call_find hexplain hsource, findOptions, limitOf_of_fits hlimit]
      refine ⟨_, rfl, ?_⟩
      rw [← map_toInt_map_ofNat (fitsInt64_positive?_iff.mpr hlimit)]
      rfl
    | aggregate pipeline => exact ⟨_, call_aggregate hexplain hsource, rfl⟩

/-- A search whose counts do not fit asks nothing. -/
theorem exists_call_eq_error (hsource : c.source = .find filter projection) (h : ¬c.Fits) :
    ∃ e, e.kind = .invalidArgument ∧ c.call = .error e := by
  cases hexplain : c.explain with
  | none =>
    have hlimit : ¬FitsInt64 c.limit := fun hlimit => h ⟨hlimit, fun hne => absurd hexplain hne⟩
    obtain ⟨e, he, hkind⟩ := exists_limitOf_eq_error hlimit
    refine ⟨e, hkind, ?_⟩
    rw [call_find hexplain hsource, findOptions, he]
    rfl
  | some verbosity =>
    rw [call_explained hexplain, explanation, explainedCommand_find hsource]
    by_cases hskip : FitsInt64 c.skip
    · obtain ⟨e, he, hkind⟩ := exists_limitOf_eq_error fun hlimit => h ⟨hlimit, fun _ => hskip⟩
      refine ⟨e, hkind, ?_⟩
      rw [toInt64?_of_fits hskip, he]
      rfl
    · obtain ⟨e, he, hkind⟩ := exists_toInt64?_eq_error "skip" hskip
      refine ⟨e, hkind, ?_⟩
      rw [he]
      rfl

end Cursor

/-! ## Chains of modifiers -/

namespace CursorSource

open Modifier (lastOf sort? limit? skip? explain? stage?)

/-- **What a chain of modifiers asks for.** Of a search the last of each kind
counts, and a limit of zero is none. An aggregation has their stages behind its
own. -/
def asks (collection : String) (source : CursorSource) (ms : List Modifier) : Asked :=
  match source with
  | .find filter projection => .search {
      collection, filter, projection, sort := lastOf sort? ms
      skip := (lastOf skip? ms).map Asked.count
      limit := (Cursor.positive? (lastOf limit? ms)).map Asked.count }
  | .aggregate pipeline => .pipeline collection (pipeline ++ ms.filterMap stage?)

end CursorSource

namespace Cursor

open Modifier (lastOf sort? limit? skip? explain? stage? unexplained)

variable {collection : String} {source : CursorSource} {ms : List Modifier}

/-- Explanations say nothing about what is asked for. -/
theorem asks_unexplained : source.asks collection (unexplained ms) = source.asks collection ms := by
  cases source with
  | find filter projection =>
    simp only [CursorSource.asks, Modifier.lastOf_unexplained sort? (fun _ => rfl),
      Modifier.lastOf_unexplained skip? (fun _ => rfl),
      Modifier.lastOf_unexplained limit? (fun _ => rfl)]
  | aggregate pipeline =>
    simp only [CursorSource.asks, Modifier.filterMap_unexplained stage? (fun _ => rfl)]

/-- **A chain of modifiers makes a cursor that stands for the query of the
closed form.** For a search the last values count and for an aggregation the
stages; from here on nobody looks at the chain. -/
theorem exists_foldlM_apply (collection : String) (source : CursorSource)
    (hms : ∀ m ∈ ms, m.InRange) :
    ∃ c, ms.foldlM apply { collection, source } = .ok c ∧ c.asked = source.asks collection ms ∧
      c.explain = lastOf explain? ms ∧ c.Fits := by
  cases source with
  | find filter projection =>
    refine ⟨_, foldlM_apply_eq_chained collection filter projection ms, rfl, rfl, ?_⟩
    exact ⟨fitsInt64_lastOf Modifier.lt_of_limit? hms, fun _ => fitsInt64_lastOf Modifier.lt_of_skip? hms⟩
  | aggregate pipeline =>
    refine ⟨_, foldlM_apply_aggregate rfl hms, rfl, Option.or_none, ?_⟩
    exact ⟨fitsInt64_none, fun _ => fitsInt64_none⟩

/-- **An explanation is about the query that would run.** A chain of modifiers
whose counts the server can take makes a cursor that asks the client once when
it is drained, for the query of the closed form. So does the chain without its
explanations; an explanation only has it explained in place of run. Chains with
the same last modifiers of each kind make the same search. A modifier that fails
leaves the cursor as it was. -/
theorem explains_what_runs :
    (∀ (collection : String) (source : CursorSource) (ms : List Modifier),
      (∀ m ∈ ms, m.InRange) → ∃ c plain call query,
        ms.foldlM apply { collection, source } = .ok c ∧
        (unexplained ms).foldlM apply { collection, source } = .ok plain ∧
        call.asked? =
          some (source.asks collection ms, (lastOf explain? ms).map Verbosity.name) ∧
        query.asked? = some (source.asks collection ms, none) ∧
        ∀ (σ : Type) (client : Client σ) (s : σ) (log : List ClientExchange),
          c.drain client.recorded (s, log) =
            ((c.drain client s).1, (c.drain client s).2,
              log ++ [⟨call, failure? (c.drain client s).1⟩]) ∧
          plain.drain client.recorded (s, log) =
            ((plain.drain client s).1, (plain.drain client s).2,
              log ++ [⟨query, failure? (plain.drain client s).1⟩])) ∧
    (∀ (collection : String) (filter : Document) (projection : Option Document)
      (ms ms' : List Modifier), lastOf sort? ms = lastOf sort? ms' →
      lastOf skip? ms = lastOf skip? ms' → lastOf limit? ms = lastOf limit? ms' →
      lastOf explain? ms = lastOf explain? ms' →
      ms.foldlM apply { collection, source := .find filter projection } =
        ms'.foldlM apply { collection, source := .find filter projection }) ∧
    ∀ (m : Modifier) (c c' : Cursor) (e : QueryError), modify m c = (.error e, c') → c' = c := by
  refine ⟨fun collection source ms hms => ?_, fun collection filter projection ms ms' hsort hskip hlimit
    hexplain => ?_, fun m c c' e h => eq_of_modify_eq_error h⟩
  · obtain ⟨c, hc, hasked, hexplain, hfits⟩ := exists_foldlM_apply collection source hms
    obtain ⟨call, hcall, hcallAsked⟩ := exists_call_of_fits hfits
    have hunexplained : ∀ m ∈ unexplained ms, m.InRange :=
      fun m hm => hms m (List.mem_filter.mp hm).1
    obtain ⟨plain, hplain, hplainAsked, hplainExplain, hplainFits⟩ :=
      exists_foldlM_apply collection source hunexplained
    obtain ⟨query, hquery, hqueryAsked⟩ := exists_call_of_fits hplainFits
    rw [hasked, hexplain] at hcallAsked
    rw [hplainAsked, asks_unexplained, hplainExplain, Modifier.lastOf_explain?_unexplained] at hqueryAsked
    exact ⟨c, plain, call, query, hc, hplain, hcallAsked, hqueryAsked, fun σ client s log =>
      ⟨drain_recorded client hcall s log, drain_recorded client hquery s log⟩⟩
  · rw [foldlM_apply_eq_chained, foldlM_apply_eq_chained, chained, hsort, hskip, hlimit, hexplain]
    rfl

/-- All kinds of modifiers, two of them given twice. -/
def mixed : List Modifier :=
  [.limit 5, .sort [("a", .int32 1)], .explain .executionStats, .skip 3, .sort [("b", .int32 1)], .limit 0]

/-- An aggregation that has no stages yet. -/
def bare : Cursor := { collection := "users", source := .aggregate [] }

/-- All kinds of modifiers, two of them given twice and a limit of zero at
the end, make one explained search, as they do in another order. A count that is
too large leaves an aggregation bare. -/
theorem explains_what_runs_mixed :
    (∀ m ∈ mixed, m.InRange) ∧
    (∃ c call, mixed.foldlM apply { collection := "users", source := .find [] none } = .ok c ∧
      call.asked? = some (.search {
        collection := "users", filter := [], projection := none
        sort := some [("b", .int32 1)], skip := some 3, limit := none }, some "executionStats") ∧
      c.drain Client.idle.recorded ((), []) = (.ok [[]], (), [⟨call, none⟩])) ∧
    mixed.foldlM apply { collection := "users", source := .find [] none } =
      [.explain .executionStats, .limit 0, .sort [("b", .int32 1)], .skip 3].foldlM apply
        { collection := "users", source := .find [] none } ∧
    ∃ e, modify (.skip 9223372036854775808) bare = (.error e, bare) := by
  have hmixed : ∀ m ∈ mixed, m.InRange := by
    simp [mixed, Modifier.InRange]
  obtain ⟨hexplained, hmixing, hfailed⟩ := explains_what_runs
  refine ⟨hmixed, ?_, hmixing _ _ _ _ _ rfl rfl rfl rfl, ?_⟩
  · obtain ⟨c, plain, call, query, hc, -, hcall, -, hdrain⟩ :=
      hexplained "users" (.find [] none) mixed hmixed
    have hanswer : (c.drain Client.idle ()).1 = .ok [[]] := by
      cases hc
      rfl
    refine ⟨c, call, hc, hcall, ?_⟩
    rw [(hdrain Unit Client.idle () []).1, hanswer]
    rfl
  · obtain ⟨e, c', h⟩ : ∃ e c', modify (.skip 9223372036854775808) bare = (.error e, c') := ⟨_, _, rfl⟩
    obtain rfl := hfailed _ _ _ _ h
    exact ⟨e, h⟩

end Cursor

end QueryShell
