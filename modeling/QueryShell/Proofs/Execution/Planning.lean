import Mathlib.Data.List.Forall2
import Mathlib.Order.Bounds.Basic
import QueryShell.Plan
import QueryShell.Proofs.Outcome

/-!
# Which queries have a plan

A plan is made from the first call to the last. A call behind the first is
refused for one of three reasons: it stands behind an explanation, the operation
has no cursor, or the call is no modifier with arguments that it can use
(`Plan.Refused`). Which of them it is depends on the calls in front of it, and
on these only through the last one. What stands behind a refused call is not
looked at.

So the calls of a query are accepted one by one (`Plan.checkModifiers_cons`), an
initial part of a query with a plan has a plan, and the error of a query without
one names the first call that is refused: the query ends well in front of it,
and no query that goes on with it has a plan.

## Main statements

* `Plan.checkModifiers_eq_ok_iff`: which calls can stand behind an operation.
* `Plan.exists_refused`: the first call that is refused.
* `Plan.forall₂_ofCall`: the modifiers of a plan are those of the query, in
  their order.
* `Plan.accepts_or_blames`: both, for all queries with at least one call.
-/

namespace QueryShell

open List (Forall₂)

/-! ## Operations and modifiers by their names -/

/-- A name is looked up to the one operation that has it. -/
theorem Operation.ofName?_eq_some_iff {name : String} {o : Operation} :
    ofName? name = some o ↔ o.name = name := by
  constructor
  · intro h
    simpa using List.find?_some h
  · rintro rfl
    exact ofName?_name o

/-- The two operations that answer with a cursor are `find` and `aggregate`;
only their calls can be followed by modifiers. -/
theorem Operation.returnsCursor_iff {o : Operation} :
    o.returnsCursor = true ↔ o = find ∨ o = aggregate := by
  cases o <;> decide

namespace Modifier

/-- A modifier has the name of its call. -/
theorem name_eq_of_ofCall {c : Call} {m : Modifier} (h : ofCall c = .ok m) : m.name = c.name := by
  have hread : read c.name c.args = .ok m := by
    unfold ofCall at h
    split at h
    · next hm => exact hm.trans (congrArg _ (Except.ok.inj h))
    · cases h
  have hmap {f : UInt64 → Modifier} {x : Except Fault UInt64} (hx : x.map f = .ok m) :
      ∃ n, m = f n := by
    cases x with
    | error e => cases hx
    | ok n => exact ⟨n, (Except.ok.inj hx).symm⟩
  unfold read at hread
  split at hread
  · next hname =>
    rw [hname]
    unfold sortOf at hread
    split at hread <;> cases hread
    rfl
  · next hname =>
    obtain ⟨n, rfl⟩ := hmap hread
    exact hname.symm
  · next hname =>
    obtain ⟨n, rfl⟩ := hmap hread
    exact hname.symm
  · next hname =>
    rw [hname]
    unfold explainOf at hread
    split at hread <;> try cases hread <;> rfl
    split at hread <;> cases hread
    rfl
  · cases hread

/-- The modifier that ends a chain is the one with the name `explain`. -/
theorem isExplain_iff {m : Modifier} : m.isExplain = true ↔ m.name = "explain" := by
  cases m <;> simp [isExplain, name]

end Modifier

namespace Query

/-- The query with its first calls only. -/
def cut (q : Query) (n : Nat) : Query :=
  { q with calls := q.calls.take n }

/-- The query can be planned: its base is the name of an operation, and all
calls that follow are accepted. -/
def HasPlan (q : Query) : Prop :=
  ∃ p, Plan.ofQuery q = .ok p

end Query

namespace Plan

variable {operation : Operation} {index : Nat} {explained : Bool} {c : Call} {cs before : List Call}
  {m : Modifier} {ms : List Modifier} {e : QueryError}

/-! ## One call -/

/-- The last call is an explanation. -/
def Explained (before : List Call) : Prop :=
  ∃ d, before.getLast? = some d ∧ d.name = "explain"

/-- Whether the calls so far end in `explain` is decided by the last of them. -/
theorem explained_concat_iff : Explained (before ++ [c]) ↔ c.name = "explain" := by
  simp [Explained]

/-- **Why a call is refused** behind the calls `before`, of which the first is
the operation. -/
inductive Refused (operation : Operation) (before : List Call) (c : Call) : QueryError → Prop
  /-- An explanation is no cursor. -/
  | explained (h : Explained before) :
      Refused operation before c (notApplicable c.name "explain() returns a document")
  /-- Nor is what the operation answers with. -/
  | noCursor (h : operation.returnsCursor = false) :
      Refused operation before c
        (notApplicable c.name "the base operation does not return a cursor")
  /-- The call has no name of a modifier or arguments that it cannot use. -/
  | noModifier {e : QueryError} (h : Modifier.ofCall c = .error e) : Refused operation before c e

/-- The modifier that a call is, where `explained` says that an explanation
stands in front of it. -/
def accept (operation : Operation) (explained : Bool) (c : Call) : Except QueryError Modifier :=
  if explained then .error (notApplicable c.name "explain() returns a document")
  else if !operation.returnsCursor then
    .error (notApplicable c.name "the base operation does not return a cursor")
  else Modifier.ofCall c

/-- A call is accepted as a modifier iff it follows a cursor that has not been
explained, and its name and arguments are those of a modifier. -/
theorem accept_eq_ok_iff : accept operation explained c = .ok m ↔
    (operation.returnsCursor = true ∧ explained = false) ∧ Modifier.ofCall c = .ok m := by
  unfold accept
  cases explained <;> cases operation.returnsCursor <;> simp

/-- An error of `accept` is one of the three refusals: a call behind an
operation without a cursor, a call behind `explain`, a call that is no
modifier. -/
theorem refused_of_accept (hbefore : explained = true ↔ Explained before)
    (h : accept operation explained c = .error e) : Refused operation before c e := by
  unfold accept at h
  split at h
  · next hexplained =>
    cases h
    exact .explained (hbefore.mp hexplained)
  split at h
  · next hcursor =>
    cases h
    exact .noCursor (by simpa using hcursor)
  · exact .noModifier h

/-- **Calls are accepted one by one**, up to the first that is refused. The
error is told with the offset of the call and its index in the query. -/
theorem checkModifiers_of_refused (h : accept operation explained c = .error e) :
    checkModifiers operation index explained (c :: cs) =
      .error ((e.atOffset c.span.start).inCall index) := by
  unfold accept at h
  rw [checkModifiers]
  split at h
  · next hexplained =>
    cases h
    rw [if_pos hexplained]
  next hexplained =>
  rw [if_neg hexplained]
  split at h
  · next hcursor =>
    cases h
    rw [if_pos hcursor]
  · next hcursor => rw [if_neg hcursor, h]

/-- An accepted call becomes the first of the modifiers, and the check goes on
with the next index. -/
theorem checkModifiers_of_accepted (h : accept operation explained c = .ok m) :
    checkModifiers operation index explained (c :: cs) =
      (checkModifiers operation (index + 1) m.isExplain cs).map (m :: ·) := by
  obtain ⟨⟨hcursor, hexplained⟩, hm⟩ := accept_eq_ok_iff.mp h
  rw [checkModifiers, if_neg (by simp [hexplained]), if_neg (by simp [hcursor]), hm]
  exact bind_ok_eq_map

/-! ## All calls -/

/-- **Which calls can stand behind an operation**: modifiers, if the operation
has a cursor, of which none stands behind an explanation. The induction is on
the calls, for any index and for both states of the explanation. -/
theorem checkModifiers_eq_ok_iff : checkModifiers operation index explained cs = .ok ms ↔
    Forall₂ (fun c m => Modifier.ofCall c = .ok m) cs ms ∧
      (cs ≠ [] → operation.returnsCursor = true ∧ explained = false) ∧
      ∀ pre c post, cs = pre ++ c :: post → c.name = "explain" → post = [] := by
  induction cs generalizing index explained ms with
  | nil =>
    constructor
    · intro h
      cases h
      exact ⟨.nil, fun hne => absurd rfl hne, fun pre c post h => by simp at h⟩
    · rintro ⟨⟨⟩, -⟩
      rfl
  | cons c cs ih =>
    constructor
    · intro h
      cases haccept : accept operation explained c with
      | error e =>
        rw [checkModifiers_of_refused haccept] at h
        cases h
      | ok m =>
        rw [checkModifiers_of_accepted haccept] at h
        obtain ⟨hfirst, hm⟩ := accept_eq_ok_iff.mp haccept
        obtain ⟨rest, hrest, rfl⟩ := map_eq_ok.mp h
        obtain ⟨hms, hnext, hlast⟩ := ih.mp hrest
        refine ⟨.cons hm hms, fun _ => hfirst, fun pre d post hsplit hd => ?_⟩
        cases pre with
        | nil =>
          -- an explanation leaves no cursor for the calls behind it
          obtain ⟨rfl, rfl⟩ := List.cons.inj hsplit
          by_contra hne
          have hexplain := Modifier.isExplain_iff.mpr ((Modifier.name_eq_of_ofCall hm).trans hd)
          rw [(hnext hne).2] at hexplain
          cases hexplain
        | cons _ pre => exact hlast pre d post (List.cons.inj hsplit).2 hd
    · rintro ⟨hms, hfirst, hlast⟩
      cases hms with
      | @cons _ m _ ms hm hms =>
        have hcursor := hfirst (List.cons_ne_nil c cs)
        rw [checkModifiers_of_accepted (accept_eq_ok_iff.mpr ⟨hcursor, hm⟩)]
        refine map_eq_ok.mpr ⟨ms, ih.mpr ⟨hms, fun hne => ⟨hcursor.1, ?_⟩, ?_⟩, rfl⟩
        · refine Bool.eq_false_iff.mpr fun hexplain => hne ?_
          exact hlast [] c cs rfl ((Modifier.name_eq_of_ofCall hm).symm.trans
            (Modifier.isExplain_iff.mp hexplain))
        · intro pre d post hsplit hd
          exact hlast (c :: pre) d post (congrArg (c :: ·) hsplit) hd

/-- The first of some calls can stand where all of them can. -/
theorem checkModifiers_take (h : checkModifiers operation index explained cs = .ok ms) (n : Nat) :
    checkModifiers operation index explained (cs.take n) = .ok (ms.take n) := by
  obtain ⟨hms, hfirst, hlast⟩ := checkModifiers_eq_ok_iff.mp h
  refine checkModifiers_eq_ok_iff.mpr ⟨List.forall₂_take n hms, fun hne => hfirst ?_, ?_⟩
  · rintro rfl
    exact hne List.take_nil
  · intro pre c post hsplit hc
    have hcs : cs = pre ++ c :: (post ++ cs.drop n) := by
      rw [← List.cons_append, ← List.append_assoc, ← hsplit, List.take_append_drop]
    exact (List.append_eq_nil_iff.mp (hlast pre c _ hcs hc)).1

/-- **The first call that is refused**, whatever stands behind it. The calls
before it are accepted on their own, which is what makes it the first. -/
theorem exists_refused (hbefore : explained = true ↔ Explained before)
    (h : checkModifiers operation index explained cs = .error e) :
    ∃ pre c post r, cs = pre ++ c :: post ∧
      (∃ ms, checkModifiers operation index explained pre = .ok ms) ∧
      Refused operation (before ++ pre) c r ∧
      e = (r.atOffset c.span.start).inCall (index + pre.length) ∧
      ∀ post', checkModifiers operation index explained (pre ++ c :: post') = .error e := by
  induction cs generalizing index explained before with
  | nil => cases h
  | cons c cs ih =>
    cases haccept : accept operation explained c with
    | error r =>
      rw [checkModifiers_of_refused haccept] at h
      cases h
      refine ⟨[], c, cs, r, rfl, ⟨[], rfl⟩, ?_, rfl, fun post' => checkModifiers_of_refused haccept⟩
      rw [List.append_nil]
      exact refused_of_accept hbefore haccept
    | ok m =>
      rw [checkModifiers_of_accepted haccept] at h
      have hm := Modifier.name_eq_of_ofCall (accept_eq_ok_iff.mp haccept).2
      have hnext : m.isExplain = true ↔ Explained (before ++ [c]) := by
        rw [explained_concat_iff, Modifier.isExplain_iff, hm]
      obtain ⟨pre, d, post, r, rfl, ⟨ms, hms⟩, hrefused, he, hbehind⟩ :=
        ih hnext (map_eq_error.mp h)
      refine ⟨c :: pre, d, post, r, rfl, ⟨m :: ms, ?_⟩, ?_, ?_, fun post' => ?_⟩
      · rw [checkModifiers_of_accepted haccept]
        exact map_eq_ok.mpr ⟨ms, hms, rfl⟩
      · rwa [List.append_assoc] at hrefused
      · rw [he, List.length_cons, Nat.add_assoc, Nat.add_comm 1]
      · rw [List.cons_append, checkModifiers_of_accepted haccept]
        exact map_eq_error.mpr (hbehind post')

/-- The first call that is no modifier is refused, whatever stands behind it. -/
theorem checkModifiers_of_ofCall_eq_error {pre : List Call} (post : List Call)
    (hcursor : operation.returnsCursor = true)
    (hpre : Forall₂ (fun c m => Modifier.ofCall c = .ok m) pre ms)
    (hplain : ∀ d ∈ pre, d.name ≠ "explain") (he : Modifier.ofCall c = .error e) (index : Nat) :
    checkModifiers operation index false (pre ++ c :: post) =
      .error ((e.atOffset c.span.start).inCall (index + pre.length)) := by
  induction hpre generalizing index with
  | nil =>
    refine checkModifiers_of_refused ?_
    rw [accept, hcursor]
    exact he
  | @cons d m pre ms hm _ ih =>
    obtain ⟨hd, hplain⟩ := List.forall_mem_cons.mp hplain
    have hexplain : m.isExplain = false := by
      rw [Bool.eq_false_iff, ne_eq, Modifier.isExplain_iff, Modifier.name_eq_of_ofCall hm]
      exact hd
    rw [List.cons_append, checkModifiers_of_accepted (accept_eq_ok_iff.mpr ⟨⟨hcursor, rfl⟩, hm⟩),
      hexplain, ih hplain, List.length_cons, Nat.add_assoc, Nat.add_comm 1]
    rfl

/-! ## Queries -/

section

variable {collection : String} {base : Call} {rest : List Call}

/-- Where the base call has the name of an operation, the plan is that operation
with the modifiers of the calls that follow. -/
theorem ofQuery_of_name_eq (h : operation.name = base.name) :
    ofQuery ⟨collection, base :: rest⟩ =
      (checkModifiers operation 1 false rest).map (Plan.mk operation) := by
  simp only [ofQuery, Operation.ofName?_eq_some_iff.mpr h]
  exact bind_ok_eq_map

/-- **The modifiers of a plan are those of the query**, in their order, and its
operation is the one that the first call names. A plan has nothing that the
query does not have. -/
theorem forall₂_ofCall {q : Query} {p : Plan} (h : ofQuery q = .ok p) :
    ∃ base rest, q.calls = base :: rest ∧ Operation.ofName? base.name = some p.operation ∧
      Forall₂ (fun c m => Modifier.ofCall c = .ok m) rest p.modifiers := by
  obtain ⟨collection, calls⟩ := q
  cases calls with
  | nil => cases h
  | cons base rest =>
    cases hname : Operation.ofName? base.name with
    | none =>
      simp only [ofQuery, hname] at h
      cases h
    | some operation =>
      rw [ofQuery_of_name_eq (Operation.ofName?_eq_some_iff.mp hname)] at h
      obtain ⟨ms, hms, rfl⟩ := map_eq_ok.mp h
      exact ⟨base, rest, rfl, hname, (checkModifiers_eq_ok_iff.mp hms).1⟩

theorem not_explained_of_name_eq (h : operation.name = base.name) : ¬Explained [base] := by
  rintro ⟨d, hd, hname⟩
  obtain rfl : base = d := Option.some.inj hd
  rw [← h] at hname
  cases operation <;> simp [Operation.name] at hname

/-- **The query planned up to its first call that is refused**: the query ends
well in front of this call, and every shorter one does, while with it there is
no plan. -/
theorem exists_isLeast_of_error (h : operation.name = base.name)
    (he : ofQuery ⟨collection, base :: rest⟩ = .error e) :
    ∃ i c r, (base :: rest)[i]? = some c ∧ Refused operation ((base :: rest).take i) c r ∧
      e = (r.atOffset c.span.start).inCall i ∧
      (Query.cut ⟨collection, base :: rest⟩ i).HasPlan ∧
      IsLeast {j | ¬(Query.cut ⟨collection, base :: rest⟩ (j + 1)).HasPlan} i := by
  rw [ofQuery_of_name_eq h] at he
  have hbase : false = true ↔ Explained [base] :=
    ⟨fun hfalse => absurd hfalse Bool.false_ne_true, fun hb => absurd hb (not_explained_of_name_eq h)⟩
  obtain ⟨pre, c, post, r, rfl, ⟨ms, hms⟩, hrefused, rfl, hbehind⟩ :=
    exists_refused hbase (map_eq_error.mp he)
  have hplan (n : Nat) (hn : n ≤ pre.length) :
      (Query.cut ⟨collection, base :: (pre ++ c :: post)⟩ (n + 1)).HasPlan := by
    refine ⟨⟨operation, ms.take n⟩, ?_⟩
    rw [Query.cut, List.take_succ_cons, List.take_append_of_le_length hn, ofQuery_of_name_eq h]
    exact map_eq_ok.mpr ⟨_, checkModifiers_take hms n, rfl⟩
  refine ⟨pre.length + 1, c, r, ?_, ?_, ?_, hplan _ (Nat.le_refl _), ?_, ?_⟩
  · rw [List.getElem?_cons_succ, List.getElem?_append_right (Nat.le_refl _), Nat.sub_self]
    rfl
  · rwa [List.take_succ_cons, List.take_left]
  · rw [Nat.add_comm]
  · rintro ⟨p, hp⟩
    have htake : (pre ++ c :: post).take (pre.length + 1) = pre ++ c :: [] := by
      rw [List.take_append, List.take_of_length_le (Nat.le_succ _), Nat.add_sub_cancel_left]
      rfl
    rw [Query.cut, List.take_succ_cons, htake, ofQuery_of_name_eq h,
      map_eq_error.mpr (hbehind [])] at hp
    cases hp
  · intro j hj
    by_contra hlt
    exact hj (hplan j (Nat.le_of_lt_succ (Nat.lt_of_not_le hlt)))

/-- **Which queries have a plan, and what is wrong with the others.** A query of
at least one call has a plan exactly if its first call names an operation, each
later call is a modifier, there is a later call only behind an operation with a
cursor, and none behind an explanation; the plan consists of the operation and
the modifiers in their order. A query whose first call names no operation fails
at this call. Any other query without a plan fails at its first call that is
refused. -/
theorem accepts_or_blames (collection : String) (base : Call) (rest : List Call) :
    (∀ p, ofQuery ⟨collection, base :: rest⟩ = .ok p ↔
      (p.operation ∈ Operation.all ∧ p.operation.name = base.name) ∧
      Forall₂ (fun c m => Modifier.ofCall c = .ok m) rest p.modifiers ∧
      (rest ≠ [] → p.operation = .find ∨ p.operation = .aggregate) ∧
      ∀ pre c post, rest = pre ++ c :: post → c.name = "explain" → post = []) ∧
    ((∀ o ∈ Operation.all, o.name ≠ base.name) →
      ofQuery ⟨collection, base :: rest⟩ =
        .error ((QueryError.unknownOperation base.name).atOffset base.span.start)) ∧
    ∀ o ∈ Operation.all, o.name = base.name → ∀ e,
      ofQuery ⟨collection, base :: rest⟩ = .error e →
      ∃ i c r, (base :: rest)[i]? = some c ∧ e.callIndex = some i ∧ e.offset = some c.span.start ∧
        Refused o ((base :: rest).take i) c r ∧ e.kind = r.kind ∧ e.message = r.message ∧
        (Query.cut ⟨collection, base :: rest⟩ i).HasPlan ∧
        IsLeast {j | ¬(Query.cut ⟨collection, base :: rest⟩ (j + 1)).HasPlan} i := by
  refine ⟨fun p => ?_, fun hbase => ?_, fun o _ ho e he => ?_⟩
  · constructor
    · intro h
      obtain ⟨_, _, hcalls, hname, -⟩ := forall₂_ofCall h
      cases hcalls
      have ho := Operation.ofName?_eq_some_iff.mp hname
      rw [ofQuery_of_name_eq ho] at h
      obtain ⟨ms, hms, hp⟩ := map_eq_ok.mp h
      obtain rfl : ms = p.modifiers := congrArg modifiers hp
      obtain ⟨hmodifiers, hcursor, hlast⟩ := checkModifiers_eq_ok_iff.mp hms
      exact ⟨⟨Operation.mem_all _, ho⟩, hmodifiers,
        fun hne => Operation.returnsCursor_iff.mp (hcursor hne).1, hlast⟩
    · rintro ⟨⟨-, ho⟩, hmodifiers, hcursor, hlast⟩
      rw [ofQuery_of_name_eq ho]
      refine map_eq_ok.mpr ⟨p.modifiers, checkModifiers_eq_ok_iff.mpr ⟨hmodifiers, ?_, hlast⟩, rfl⟩
      exact fun hne => ⟨Operation.returnsCursor_iff.mpr (hcursor hne), rfl⟩
  · have hnone : Operation.ofName? base.name = none := by
      cases hname : Operation.ofName? base.name with
      | none => rfl
      | some o => exact absurd (Operation.ofName?_eq_some_iff.mp hname) (hbase o (Operation.mem_all o))
    simp only [ofQuery, hnone]
  · obtain ⟨i, c, r, hc, hrefused, rfl, hplan, hleast⟩ := exists_isLeast_of_error ho he
    exact ⟨i, c, r, hc, rfl, rfl, hrefused, rfl, rfl, hplan, hleast⟩

/-- A query with a call behind an explanation, whose argument is no count
either. -/
def explainedLimit : Query :=
  ⟨"users", [⟨"find", [], ⟨9, 15⟩⟩, ⟨"explain", [], ⟨16, 25⟩⟩, ⟨"limit", [.string "x"], ⟨26, 36⟩⟩]⟩

/-- An unknown operation is blamed at its name. The last of three calls, whose
argument is no count either, is blamed for standing behind an explanation, and
the query without it has a plan. -/
theorem accepts_or_blames_limit :
    ((∀ o ∈ Operation.all, o.name ≠ "drop") ∧ ofQuery ⟨"users", [⟨"drop", [], ⟨9, 15⟩⟩]⟩ =
      .error ((QueryError.unknownOperation "drop").atOffset 9)) ∧
    Operation.find ∈ Operation.all ∧ Operation.find.name = "find" ∧
    ∃ e, ofQuery explainedLimit = .error e ∧ e.callIndex = some 2 ∧ e.offset = some 26 ∧
      (explainedLimit.cut 2).HasPlan ∧ IsLeast {j | ¬(explainedLimit.cut (j + 1)).HasPlan} 2 := by
  have hdrop : ∀ o ∈ Operation.all, o.name ≠ "drop" := by decide
  obtain ⟨-, hunknown, -⟩ := accepts_or_blames "users" ⟨"drop", [], ⟨9, 15⟩⟩ []
  obtain ⟨-, -, hrefused⟩ := accepts_or_blames "users" ⟨"find", [], ⟨9, 15⟩⟩
    [⟨"explain", [], ⟨16, 25⟩⟩, ⟨"limit", [.string "x"], ⟨26, 36⟩⟩]
  have he : ofQuery explainedLimit =
      .error (((notApplicable "limit" "explain() returns a document").atOffset 26).inCall 2) := rfl
  obtain ⟨i, c, r, -, hi, hoffset, -, -, -, hplan, hleast⟩ :=
    hrefused .find (Operation.mem_all _) rfl _ he
  obtain rfl : 2 = i := Option.some.inj hi
  exact ⟨⟨hdrop, hunknown hdrop⟩, Operation.mem_all _, rfl, _, he, rfl, rfl, hplan, hleast⟩

end

end Plan

end QueryShell
