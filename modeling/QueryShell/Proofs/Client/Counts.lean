import QueryShell.Proofs.Client.Execution
import QueryShell.Proofs.Client.Explanation
import QueryShell.Proofs.Number.Count
import QueryShell.Proofs.Query.RoundTrip

/-!
# How counts reach the server

The number of a limit or a skip is made into a count of 64 bits when the query
is planned, which cuts its fraction off and clamps it, and into an integer that
the server takes later, which fails if it is too large. When this is done
depends on the chain: on an aggregation when the modifier is applied, on a
search when it is drained, and what a search skips only if it is to be
explained. A query that fails at one of these points has asked nothing yet. So a
count reaches the server as the integer part of its number or not at all, with
one exception. What a search skips when it runs is handed on untested.

`Query.CountsBy` has a count anywhere in a chain, `CursorSource.Tests` says
whether it is tested there, and `CursorSource.Refuses` when the query is refused
for it.

## Main statements

* `Cursor.fits_chained_iff`: a search fits just if the count in question
  fits where it is tested.
* `Client.counts_exact_or_refused`: a count is refused or handed on as it is.
-/

namespace QueryShell

open List (Forall₂)
open Modifier (lastOf explain?)

/-! ## Counting modifiers -/

/-- The modifiers that count documents. -/
inductive Counter where
  | limit
  | skip

namespace Counter

/-- The name under which the modifier is called. -/
def name : Counter → String
  | limit => "limit"
  | skip => "skip"

/-- The modifier with a count. -/
def modifier : Counter → UInt64 → Modifier
  | limit => .limit
  | skip => .skip

/-- The count of a modifier, if it is of this kind. -/
def count? : Counter → Modifier → Option UInt64
  | limit => Modifier.limit?
  | skip => Modifier.skip?

variable {k : Counter} {x : Double} {call : Call} {n : UInt64}

/-- The count of a modifier whose counts are in range is in range. -/
theorem lt_of_count? {m : Modifier} (h : k.count? m = some n) (hm : m.InRange) :
    n.toNat < 2 ^ 63 := by
  cases k with
  | limit => exact Modifier.lt_of_limit? h hm
  | skip => exact Modifier.lt_of_skip? h hm

/-- A modifier with a count is in range iff its count is below two to the
sixty-third. -/
theorem inRange_modifier_iff : (k.modifier n).InRange ↔ n.toNat < 2 ^ 63 := by
  cases k <;> exact Iff.rfl

/-- A count does not matter for whether a chain is explained. -/
theorem lastOf_explain? (k : Counter) (n : UInt64) (before after : List Modifier) :
    lastOf explain? (before ++ k.modifier n :: after) = lastOf explain? (before ++ after) := by
  have hn : explain? (k.modifier n) = none := by
    cases k <;> rfl
  exact Modifier.lastOf_append_cons hn before after

/-- Of a kind, the last count behind the one in question takes its place. -/
theorem lastOf_count? (k : Counter) (n : UInt64) (before after : List Modifier) :
    lastOf k.count? (before ++ k.modifier n :: after) = (lastOf k.count? after).or (some n) := by
  have hn : k.count? (k.modifier n) = some n := by
    cases k <;> rfl
  rw [Modifier.lastOf_append, Modifier.lastOf_cons, hn, Option.or_assoc, Option.some_or]

/-- A counting modifier reads one number: it takes any that is not below zero,
with its fraction cut off, and refuses the others. -/
theorem read_number (k : Counter) (x : Double) :
    Modifier.read k.name [.number x] =
      if x.isNonNegative then .ok (k.modifier x.toCount) else .error (.count k.name (.number x)) := by
  have hcount (name : String) (f : UInt64 → Modifier) :
      (Modifier.countOf name [.number x]).map f =
        if x.isNonNegative then .ok (f x.toCount) else .error (.count name (.number x)) := by
    rw [Modifier.countOf, apply_ite (Except.map f)]
    rfl
  cases k
  · exact hcount "limit" .limit
  · exact hcount "skip" .skip

/-- A number that is not below zero makes a modifier. -/
theorem ofCall_of_nonneg (hname : call.name = k.name) (hargs : call.args = [.number x])
    (hx : x.isFinite = true) (h : 0 ≤ x.value) :
    Modifier.ofCall call = .ok (k.modifier x.toCount) := by
  unfold Modifier.ofCall
  rw [hname, hargs, read_number, if_pos ((Double.isNonNegative_iff hx).mpr h)]

theorem exists_ofCall_eq_error (hname : call.name = k.name) (hargs : call.args = [.number x])
    (hx : x.isFinite = true) (h : x.value < 0) :
    ∃ e, Modifier.ofCall call = .error e ∧ e.kind = .invalidArgument := by
  unfold Modifier.ofCall
  rw [hname, hargs, read_number, if_neg (mt (Double.isNonNegative_iff hx).mp h.not_ge)]
  exact ⟨_, rfl, rfl⟩

end Counter

/-! ## Chains with a count -/

/-- **Whether a count is tested** before it is handed on. An aggregation tests
every count. A search tests the last of each kind, but what it skips only for an
explanation. -/
def CursorSource.Tests (source : CursorSource) (k : Counter) (before after : List Modifier) : Prop :=
  match source with
  | .aggregate _ => True
  | .find _ _ =>
    lastOf k.count? after = none ∧ (k = .limit ∨ lastOf explain? (before ++ after) ≠ none)

/-- Why a count is refused. -/
def CursorSource.Refuses (source : CursorSource) (k : Counter) (x : Double)
    (before after : List Modifier) : Prop :=
  x.value < 0 ∨ source.Tests k before after ∧ Int64.maxValue.toInt < ⌊x.value⌋

/-- **A chain with a count by a number in it**: a search or an aggregation whose
arguments have its shape, and behind it a call that limits or skips by the
number, between other modifiers whose counts the server can take. Nothing stands
behind an explanation. -/
inductive Query.CountsBy (source : CursorSource) (k : Counter) (x : Double)
    (before after : List Modifier) : Query → Prop
  | chain {collection : String} {base call : Call} (pre post : List Call)
    (hname : source.operation.name = base.name)
    (hargs : Request.ofArgs source.operation base.args = .ok source.request)
    (hbefore : Forall₂ (fun c m => Modifier.ofCall c = .ok m) pre before)
    (hcall : call.name = k.name) (hnumber : call.args = [.number x])
    (hafter : Forall₂ (fun c m => Modifier.ofCall c = .ok m) post after)
    (hrange : ∀ m ∈ before ++ after, m.InRange)
    (hlast : ∀ c ∈ (pre ++ call :: post).dropLast, c.name ≠ "explain") :
    CountsBy source k x before after ⟨collection, base :: (pre ++ call :: post)⟩

namespace Cursor

open Modifier (limit? skip?)

variable {collection : String} {source : CursorSource} {filter : Document}
  {projection : Option Document} {k : Counter} {n : UInt64} {before after : List Modifier}

/-- The last count of the chain fits unless it is the one in question and too
large. All others are in range. -/
theorem fitsInt64_count?_iff (hms : ∀ m ∈ before ++ after, m.InRange) :
    FitsInt64 (lastOf k.count? (before ++ k.modifier n :: after)) ↔
      (lastOf k.count? after = none → n.toNat < 2 ^ 63) := by
  rw [Counter.lastOf_count?]
  cases hlast : lastOf k.count? after with
  | none =>
    rw [Option.none_or]
    exact ⟨fun h _ => h n rfl, fun h _ hk => Option.some.inj hk ▸ h rfl⟩
  | some a =>
    rw [Option.some_or, ← hlast]
    exact iff_of_true (fitsInt64_lastOf Counter.lt_of_count? fun m hm => hms m (List.mem_append_right _ hm))
      fun h => absurd (hlast.symm.trans h) (Option.some_ne_none a)

/-- The counts of a search fit, if the one in question fits where it is
tested. -/
theorem fits_chained_iff (hms : ∀ m ∈ before ++ after, m.InRange) :
    (chained collection filter projection (before ++ k.modifier n :: after)).Fits ↔
      ((CursorSource.find filter projection).Tests k before after → n.toNat < 2 ^ 63) := by
  unfold Fits chained
  dsimp only
  rw [k.lastOf_explain?]
  cases k with
  | limit =>
    have hskip : FitsInt64 (lastOf skip? (before ++ .limit n :: after)) := by
      rw [Modifier.lastOf_append_cons rfl]
      exact fitsInt64_lastOf Modifier.lt_of_skip? hms
    have hlimit := fitsInt64_count?_iff (k := .limit) (n := n) hms
    exact ⟨fun h htests => hlimit.mp h.1 htests.1,
      fun h => ⟨hlimit.mpr fun hlast => h ⟨hlast, .inl rfl⟩, fun _ => hskip⟩⟩
  | skip =>
    have hlimit : FitsInt64 (lastOf limit? (before ++ .skip n :: after)) := by
      rw [Modifier.lastOf_append_cons rfl]
      exact fitsInt64_lastOf Modifier.lt_of_limit? hms
    have hskip := fitsInt64_count?_iff (k := .skip) (n := n) hms
    exact ⟨fun h htests => hskip.mp (h.2 (htests.2.resolve_left nofun)) htests.1,
      fun h => ⟨hlimit, fun hexplained => hskip.mpr fun hlast => h ⟨hlast, .inr hexplained⟩⟩⟩

/-- A count that is tested and does not fit makes no call. -/
theorem exists_chainCall_eq_error (collection : String) (hms : ∀ m ∈ before ++ after, m.InRange)
    (htests : source.Tests k before after) (hn : ¬n.toNat < 2 ^ 63) :
    ∃ e, e.kind = .invalidArgument ∧
      chainCall collection source (before ++ k.modifier n :: after) = .error e := by
  unfold chainCall
  cases source with
  | find filter projection =>
    rw [foldlM_apply_eq_chained]
    exact exists_call_eq_error rfl fun hfits => hn ((fits_chained_iff hms).mp hfits htests)
  | aggregate pipeline =>
    obtain ⟨c, stages, hc, hsource⟩ : ∃ c stages,
        before.foldlM apply { collection, source := .aggregate pipeline } = .ok c ∧
          c.source = .aggregate stages :=
      ⟨_, _, foldlM_apply_aggregate rfl fun m hm => hms m (List.mem_append_left _ hm), rfl⟩
    obtain ⟨e, hkind, he⟩ := modify_aggregate_of_not_inRange hsource
      (mt (Counter.inRange_modifier_iff (k := k)).mp hn)
    refine ⟨e, hkind, ?_⟩
    have hfold : (before ++ k.modifier n :: after).foldlM apply
        { collection, source := .aggregate pipeline } =
          c.apply (k.modifier n) >>= fun c => after.foldlM apply c := by
      rw [List.foldlM_append, hc]
      show (k.modifier n :: after).foldlM apply c = _
      rw [List.foldlM_cons]
    rw [hfold, apply_of_modify_eq_error he]
    rfl

/-- **Any other count is handed on**, in a call that asks for the query of the
closed form. A count that is not tested is handed on also where it is too
large. -/
theorem exists_chainCall_eq_ok (collection : String) (hms : ∀ m ∈ before ++ after, m.InRange)
    (h : source.Tests k before after → n.toNat < 2 ^ 63) :
    ∃ call, chainCall collection source (before ++ k.modifier n :: after) = .ok call ∧
      call.asked? = some (source.asks collection (before ++ k.modifier n :: after),
        (lastOf explain? (before ++ after)).map Verbosity.name) := by
  obtain ⟨c, hc, hasked, hexplained, hfits⟩ : ∃ c,
      (before ++ k.modifier n :: after).foldlM apply { collection, source } = .ok c ∧
        c.asked = source.asks collection (before ++ k.modifier n :: after) ∧
        c.explain = lastOf explain? (before ++ k.modifier n :: after) ∧ c.Fits := by
    cases source with
    | find filter projection =>
      exact ⟨_, foldlM_apply_eq_chained collection filter projection _, rfl, rfl,
        (fits_chained_iff hms).mpr h⟩
    | aggregate pipeline =>
      refine exists_foldlM_apply collection _ ?_
      obtain ⟨hbefore, hafter⟩ := List.forall_mem_append.mp hms
      exact List.forall_mem_append.mpr ⟨hbefore,
        List.forall_mem_cons.mpr ⟨Counter.inRange_modifier_iff.mpr (h trivial), hafter⟩⟩
  obtain ⟨call, hcall, hcallAsked⟩ := exists_call_of_fits hfits
  rw [hasked, hexplained, k.lastOf_explain?] at hcallAsked
  exact ⟨call, by rw [chainCall, hc]; exact hcall, hcallAsked⟩

end Cursor

namespace Query.CountsBy

variable {q : Query} {source : CursorSource} {k : Counter} {x : Double} {before after : List Modifier}

theorem inRange (h : q.CountsBy source k x before after) : ∀ m ∈ before ++ after, m.InRange := by
  cases h with
  | chain _ _ _ _ _ _ _ _ hrange _ => exact hrange

/-- The arguments of the base call are those of the source. -/
theorem ofArgs (h : q.CountsBy source k x before after) :
    Request.ofArgs source.operation q.baseArgs = .ok source.request := by
  cases h with
  | chain _ _ _ hargs => exact hargs

/-- The number is one that a text can give. -/
theorem isFinite {text : String} (h : q.CountsBy source k x before after)
    (hparse : Query.parse text = .ok q) : x.isFinite = true := by
  obtain ⟨f, hf, -, hd⟩ := exists_form_of_read (parse_eq_ok_iff.mp hparse)
  have hreadable := (hd.readable hf).args
  cases h with
  | @chain _ _ call pre post _ _ _ _ hnumber =>
    have hcall : call ∈ pre ++ call :: post := List.mem_append_right _ List.mem_cons_self
    have hx := hreadable call (List.mem_cons_of_mem _ hcall) (.number x) (by simp [hnumber])
    cases hx with
    | number hx => exact hx

/-- A number that is not below zero leaves the plan whole. -/
theorem ofQuery_of_nonneg (h : q.CountsBy source k x before after) (hx : x.isFinite = true)
    (hnonneg : 0 ≤ x.value) :
    Plan.ofQuery q = .ok ⟨source.operation, before ++ k.modifier x.toCount :: after⟩ := by
  cases h with
  | chain pre post hname hargs hbefore hcall hnumber hafter hrange hlast =>
    rw [Plan.ofQuery_of_name_eq hname]
    have hm := Counter.ofCall_of_nonneg hcall hnumber hx hnonneg
    refine map_eq_ok.mpr ⟨_, Plan.checkModifiers_eq_ok_iff.mpr ⟨?_, ?_, ?_⟩, rfl⟩
    · exact List.rel_append hbefore (.cons hm hafter)
    · exact fun _ => ⟨source.returnsCursor_operation, rfl⟩
    · intro front c rest hsplit hc
      by_contra hne
      refine hlast c ?_ hc
      rw [hsplit, List.dropLast_append_of_ne_nil (List.cons_ne_nil _ _),
        List.dropLast_cons_of_ne_nil hne]
      exact List.mem_append_right _ List.mem_cons_self

theorem exists_ofQuery_eq_error (h : q.CountsBy source k x before after) (hx : x.isFinite = true)
    (hneg : x.value < 0) : ∃ e, Plan.ofQuery q = .error e ∧ e.kind = .invalidArgument := by
  cases h with
  | @chain _ _ call pre post hname _ hbefore hcall hnumber _ _ hlast =>
    obtain ⟨e, he, hkind⟩ := Counter.exists_ofCall_eq_error hcall hnumber hx hneg
    have hplain : ∀ c ∈ pre, c.name ≠ "explain" := by
      rw [List.dropLast_append_of_ne_nil (List.cons_ne_nil _ _)] at hlast
      exact fun c hc => hlast c (List.mem_append_left _ hc)
    rw [Plan.ofQuery_of_name_eq hname]
    have hrefused := Plan.checkModifiers_of_ofCall_eq_error post source.returnsCursor_operation
      hbefore hplain he 1
    exact ⟨_, map_eq_error.mpr hrefused, hkind⟩

end Query.CountsBy

/-- **A count reaches the server exactly, or the query is refused.** If a chain
has a count by a number in it and nothing else to be refused for, it fails with
an invalid argument before the client is asked anything just if the number is
negative or its integer part is beyond the greatest integer that the server
takes and the count is tested. Otherwise the client is asked once, with the
integer part of the number in the place of the chain, up to the greatest number
of 64 bits. -/
theorem Client.counts_exact_or_refused {text : String} {q : Query} {source : CursorSource} {k : Counter}
    {x : Double} {before after : List Modifier} (hparse : Query.parse text = .ok q)
    (hq : q.CountsBy source k x before after) {σ : Type} (client : Client σ) (s : σ) :
    ∃ log, client.recorded.store.execute text (s, []) =
        ((client.store.execute text s).1, (client.store.execute text s).2, log) ∧
      ((∃ e, (client.store.execute text s).1 = .error (.query e) ∧ e.kind = .invalidArgument ∧
        log = []) ↔ source.Refuses k x before after) ∧
      (¬source.Refuses k x before after →
        ∃ (call : ClientCall) (failure : Option ShellError) (n : UInt64),
          log = [⟨call, failure⟩] ∧ (n.toNat : ℤ) = min ⌊x.value⌋ (2 ^ 64 - 1) ∧
          call.asked? = some (source.asks q.collection (before ++ k.modifier n :: after),
            (lastOf explain? (before ++ after)).map Verbosity.name)) := by
  have hx := hq.isFinite hparse
  by_cases hneg : x.value < 0
  · obtain ⟨e, he, hkind⟩ := hq.exists_ofQuery_eq_error hx hneg
    rw [Store.execute_of_plan_error _ hparse he, Store.execute_of_plan_error _ hparse he]
    exact ⟨[], rfl, iff_of_true ⟨_, rfl, hkind, rfl⟩ (.inl hneg), fun h => absurd (.inl hneg) h⟩
  have hnonneg : 0 ≤ x.value := le_of_not_gt hneg
  have hplan := hq.ofQuery_of_nonneg hx hnonneg
  have hcount := Double.toNat_toCount hnonneg
  have hfits : x.toCount.toNat < 2 ^ 63 ↔ ¬Int64.maxValue.toInt < ⌊x.value⌋ := by
    have hmax : Int64.maxValue.toInt = 2 ^ 63 - 1 := rfl
    omega
  by_cases hrefused : source.Tests k before after ∧ Int64.maxValue.toInt < ⌊x.value⌋
  · obtain ⟨htests, hlarge⟩ := hrefused
    obtain ⟨e, hkind, he⟩ := Cursor.exists_chainCall_eq_error q.collection hq.inRange
      htests (fun hlt => hfits.mp hlt hlarge)
    rw [execute_of_chainCall_eq_error _ hparse hplan hq.ofArgs he,
      execute_of_chainCall_eq_error _ hparse hplan hq.ofArgs he]
    exact ⟨[], rfl, iff_of_true ⟨_, rfl, hkind, rfl⟩ (.inr ⟨htests, hlarge⟩),
      fun h => absurd (.inr ⟨htests, hlarge⟩) h⟩
  · obtain ⟨call, hcall, hasked⟩ := Cursor.exists_chainCall_eq_ok q.collection
      (n := x.toCount) hq.inRange
      fun htests => hfits.mpr fun hlarge => hrefused ⟨htests, hlarge⟩
    obtain ⟨failure, hrun⟩ := client.execute_recorded hparse hplan hq.ofArgs hcall s
    refine ⟨_, hrun, iff_of_false ?_ ?_, fun _ => ⟨call, failure, _, rfl, hcount, hasked⟩⟩
    · rintro ⟨e, -, -, hlog⟩
      cases hlog
    · exact fun h => h.elim hneg hrefused

/-- A limit of three and a half behind a modifier that skips. -/
def limited : Query :=
  ⟨"u", [⟨"find", [], ⟨5, 11⟩⟩, ⟨"skip", [.number ⟨0x4000000000000000⟩], ⟨12, 19⟩⟩,
    ⟨"limit", [.number ⟨0x400c000000000000⟩], ⟨20, 30⟩⟩]⟩

/-- The limit is cut down to three, and the skip before it is handed on beside
it, in one call. -/
theorem Client.counts_exact_or_refused_limited :
    Query.parse "db.u.find().skip(2).limit(3.5)" = .ok limited ∧
    limited.CountsBy (.find [] none) .limit ⟨0x400c000000000000⟩ [.skip 2] [] ∧
    ∃ call failure, Client.idle.recorded.store.execute "db.u.find().skip(2).limit(3.5)" ((), []) =
        (.ok { operation := .find, kind := .documents, items := [] }, (), [⟨call, failure⟩]) ∧
      call.asked? = some (.search {
        collection := "u", filter := [], projection := none, sort := none
        skip := some 2, limit := some 3 }, none) := by
  have hparse : Query.parse "db.u.find().skip(2).limit(3.5)" = .ok limited := by
    cbv
  have hcounts : limited.CountsBy (.find [] none) .limit ⟨0x400c000000000000⟩ [.skip 2] [] :=
    .chain [_] [] rfl rfl (.cons rfl .nil) rfl rfl .nil (by simp [Modifier.InRange])
      (by decide)
  have hnonneg : 0 ≤ (⟨0x400c000000000000⟩ : Double).value := (Double.isNonNegative_iff rfl).mp rfl
  have hfloor : ⌊(⟨0x400c000000000000⟩ : Double).value⌋ = 3 := by
    rw [Double.floor_value hnonneg]
    rfl
  have hanswer : Client.idle.store.execute "db.u.find().skip(2).limit(3.5)" () =
      (.ok { operation := .find, kind := .documents, items := [] }, ()) := by
    rw [Store.execute_of_plan _ hparse (p := ⟨.find, [.skip 2, .limit 3]⟩) (by rfl)]
    rfl
  obtain ⟨log, hrun, -, hhanded⟩ := counts_exact_or_refused hparse hcounts Client.idle ()
  have hkept : ¬(CursorSource.find [] none).Refuses .limit ⟨0x400c000000000000⟩ [.skip 2] [] := by
    rintro (hneg | ⟨-, hlarge⟩)
    · exact hnonneg.not_gt hneg
    · rw [hfloor] at hlarge
      exact absurd hlarge (by decide)
  obtain ⟨call, failure, n, rfl, hn, hasked⟩ := hhanded hkept
  obtain rfl : n = 3 := by
    rw [hfloor] at hn
    exact UInt64.toNat_inj.mp (Int.ofNat.inj hn)
  rw [hanswer] at hrun
  exact ⟨hparse, hcounts, call, failure, hrun, hasked⟩

/-- The collection of a search that skips by a number and does nothing else,
with the number. -/
def skipped? : Except QueryError Query → Option (String × Double)
  | .ok ⟨collection, [⟨"find", [], _⟩, ⟨"skip", [.number x], _⟩]⟩ => some (collection, x)
  | _ => none

/-- A query that skips and does nothing else has the two calls, wherever they
stand. -/
theorem exists_of_skipped? {r : Except QueryError Query} {collection : String} {x : Double}
    (h : skipped? r = some (collection, x)) :
    ∃ span span', r = .ok ⟨collection, [⟨"find", [], span⟩, ⟨"skip", [.number x], span'⟩]⟩ := by
  unfold skipped? at h
  split at h
  · cases h
    exact ⟨_, _, rfl⟩
  · cases h

/-- What a search skips is not tested if it runs: the client is asked with a
number that the server does not take. -/
theorem Client.skip_not_refused :
    ∃ q x, Query.parse "db.u.find().skip(1e19)" = .ok q ∧
      q.CountsBy (.find [] none) .skip x [] [] ∧ Int64.maxValue.toInt < ⌊x.value⌋ ∧
      Client.idle.recorded.store.execute "db.u.find().skip(1e19)" ((), []) =
        (.ok { operation := .find, kind := .documents, items := [] }, (),
          [⟨.find "u" [] { skip := some 10000000000000000000 }, none⟩]) := by
  have hskipped : skipped? (Query.parse "db.u.find().skip(1e19)") = some ("u", ⟨0x43e158e460913d00⟩) := by
    decide +kernel
  obtain ⟨span, span', hparse⟩ := exists_of_skipped? hskipped
  have hnonneg : 0 ≤ (⟨0x43e158e460913d00⟩ : Double).value := (Double.isNonNegative_iff rfl).mp rfl
  refine ⟨_, ⟨0x43e158e460913d00⟩, hparse, ?_, ?_, ?_⟩
  · exact .chain [] [] rfl rfl .nil rfl rfl .nil (by simp) (by simp)
  · rw [Double.floor_value hnonneg]
    decide
  · rw [Store.execute_of_plan _ hparse (p := ⟨.find, [.skip 10000000000000000000]⟩) (by rfl)]
    rfl

end QueryShell
