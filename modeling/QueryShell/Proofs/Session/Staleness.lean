import QueryShell.Proofs.Session.History

/-!
# Stale outcomes

The outcomes of queries come back in any order, long after newer queries were
submitted and tabs were closed. A tab takes the outcome of its newest submission
and drops every other, and all that it looks at is the generation on the ticket.
That is enough, because generations count submissions: a ticket carries the
number of submissions that the tab had seen when it was issued
(`Reaches.generation_of_submitted`), so it is the tab's generation exactly as
long as no other submission follows.

The count is a natural number here. A counter of 64 bits tells the same tickets
apart as long as a tab has seen fewer than 2⁶⁴ submissions.

Whoever runs a query is told whether its outcome was still the current one
(`Event.told`). A run on a tab that is not open is told so before the store has
been asked anything.

## Main statements

* `Registry.Reaches.accepts_iff`: an outcome is accepted exactly while its
  submission is the newest.
* `Registry.Reaches.exists_told`: what a run is told, by what has happened since
  it was begun.
* `Registry.run_eq_endRun`, `Registry.told_run`: a run that nothing interrupts
  is its two requests, and is told its outcome.
* `Registry.newest_wins`: the whole law of a registry that any requests have led
  to.
-/

namespace QueryShell.Registry

open History

variable {r : Registry} {w : Workspace} {h later earlier : History} {t : TabId} {ticket : Ticket}
  {query : String} {o : Outcome} {e : Event}

/-! ## Deliveries -/

/-- A delivery is accepted iff its tab is open and its ticket is the newest of
the tab. -/
theorem deliver_eq_true_iff : (r.deliver ticket o).1 = true ↔
    ∃ tab, r.get? ticket.tab = some tab ∧ tab.generation = ticket.generation := by
  unfold deliver
  cases r.get? ticket.tab with
  | none => simp
  | some tab =>
    dsimp only
    split <;> simp [*]

theorem Change.eq_of_rejected {r' : Registry} (hc : Change r (.delivered ticket o false) r') :
    r' = r := by
  cases hc
  rfl

/-- **An outcome that is not accepted is dropped.** The registry is the same as
before, and not only the tab. -/
theorem deliver_eq_of_rejected (hfalse : (r.deliver ticket o).1 = false) :
    r.deliver ticket o = (false, r) := by
  have hc := change_deliver r ticket o
  rw [hfalse] at hc
  exact Prod.ext hfalse hc.eq_of_rejected

/-- A submission to an open tab gives out the next ticket and stores the
query. -/
theorem submit_of_get?_eq_some {tab : Tab} (htab : r.get? t = some tab) (query : String) :
    r.submit t query = .ok (⟨t, tab.generation + 1⟩,
      r.put t (some { tab with query, generation := tab.generation + 1 })) := by
  unfold submit
  rw [htab]

/-- **What a run is told** when it ends: its outcome, if the tab has accepted
it, and otherwise that the outcome is stale. -/
def Event.told : Event → RunOutcome
  | .delivered _ o true => .current o
  | _ => .stale

/-- The end of a run that is under way delivers the answer of the store with the
ticket of the run. -/
theorem perform_endRun {i : Nat} (hrun : w.run? i = some ticket) (answer : Except ShellError Result) :
    w.perform (.endRun i answer) =
      (.delivered ticket (.ofAnswer answer) (w.registry.deliver ticket (.ofAnswer answer)).1,
        ⟨(w.registry.deliver ticket (.ofAnswer answer)).2, w.runs.set i none⟩) := by
  unfold Workspace.perform
  dsimp only
  rw [hrun]

/-- What a run that is under way is told depends on whether its outcome is
accepted. -/
theorem told_endRun {i : Nat} (hrun : w.run? i = some ticket) (answer : Except ShellError Result) :
    (w.perform (.endRun i answer)).1.told =
      if (w.registry.deliver ticket (.ofAnswer answer)).1 then .current (.ofAnswer answer)
      else .stale := by
  rw [perform_endRun hrun]
  cases (w.registry.deliver ticket (.ofAnswer answer)).1 <;> rfl

section

variable {σ κ γ : Type} {tab : Tab} (htab : w.registry.get? t = some tab)
include htab

/-- A run that is begun on an open tab submits its query, and is then under way
behind all others. -/
theorem perform_beginRun (query : String) :
    w.perform (.beginRun t query) = (.submitted ⟨t, tab.generation + 1⟩ query,
      ⟨w.registry.put t (some { tab with query, generation := tab.generation + 1 }),
        w.runs ++ [some ⟨t, tab.generation + 1⟩]⟩) := by
  unfold Workspace.perform
  dsimp only
  rw [submit_of_get?_eq_some htab]

/-- A run that begins has the ticket of its own submission. -/
theorem run?_perform_beginRun (query : String) :
    (w.perform (.beginRun t query)).2.run? w.runs.length = some ⟨t, tab.generation + 1⟩ := by
  rw [perform_beginRun htab, Workspace.run?, List.getElem?_concat_length]
  rfl

/-- **A run that nothing interrupts is its two requests**: on an open tab, the
submission and, with the answer of the store, the end of the run. -/
theorem run_eq_endRun (store : Store σ κ γ) (query : String) (s : σ) :
    w.registry.run store t query s =
      let ended := (w.perform (.beginRun t query)).2.perform
        (.endRun w.runs.length (store.execute query s).1)
      (.ok ended.1.told, ended.2.registry, (store.execute query s).2) := by
  have hrun := run?_perform_beginRun htab query
  dsimp only
  rw [told_endRun hrun, perform_endRun hrun, perform_beginRun htab, run, submit_of_get?_eq_some htab]
  rfl

/-- Nothing newer is submitted to a tab as long as a run is not interrupted, so
that the run is told its outcome. -/
theorem told_run (query : String) (answer : Except ShellError Result) :
    ((w.perform (.beginRun t query)).2.perform (.endRun w.runs.length answer)).1.told =
      .current (.ofAnswer answer) := by
  rw [told_endRun (run?_perform_beginRun htab query), if_pos]
  rw [deliver_eq_true_iff, perform_beginRun htab]
  refine ⟨_, (get?_put (lt_length_of_get?_eq_some htab) _).trans (if_pos rfl), rfl⟩

end

/-! ## What generations count -/

/-- Whatever has happened last, the rest happened before. -/
theorem Reaches.exists_change (hr : Reaches (e :: h) w) :
    ∃ w₀, Reaches h w₀ ∧ Change w₀.registry e w.registry := by
  cases hr with
  | step hr q => exact ⟨_, hr, Workspace.perform_change _ q⟩

/-- A history has led from the beginning of it to where it stands. -/
theorem Reaches.of_append (hr : Reaches (later ++ h) w) : ∃ w₀, Reaches h w₀ := by
  induction later generalizing w with
  | nil => exact ⟨w, hr⟩
  | cons e later ih =>
    obtain ⟨w₀, hr₀, -⟩ := Reaches.exists_change hr
    exact ih hr₀

/-- The generation of an open tab counts its submissions. -/
theorem Reaches.generation_eq (hr : Reaches h w) {tab : Tab} (htab : w.registry.get? t = some tab) :
    tab.generation = (submissions t h).length := by
  rw [hr.get?_eq t, view?] at htab
  split at htab
  · cases htab
    rfl
  · cases htab

/-- **The ticket of a submission** carries its number among the submissions of
the tab, by induction on the history. Two submissions to a tab never have the
same ticket. -/
theorem Reaches.generation_of_submitted
    (hr : Reaches (later ++ .submitted ticket query :: earlier) w) :
    ticket.generation = (submissions ticket.tab earlier).length + 1 := by
  obtain ⟨w₁, hr₁⟩ := hr.of_append
  obtain ⟨w₀, hr₀, hc⟩ := hr₁.exists_change
  generalize w₁.registry = r' at hc
  cases hc with
  | submitted htab => exact congrArg (· + 1) (hr₀.generation_eq htab)

/-- **The ticket of an accepted outcome** carries the number of submissions that
the tab had seen when the outcome came. So it is the ticket of the newest of
them. -/
theorem Reaches.generation_of_accepted
    (hr : Reaches (later ++ .delivered ticket o true :: earlier) w) :
    ticket.generation = (submissions ticket.tab earlier).length := by
  obtain ⟨w₁, hr₁⟩ := hr.of_append
  obtain ⟨w₀, hr₀, hc⟩ := hr₁.exists_change
  generalize w₁.registry = r' at hc
  cases hc with
  | accepted htab hg => exact hg.symm.trans (hr₀.generation_eq htab)

/-- The submissions of a longer history are those of its two parts. -/
theorem submissions_append (t : TabId) (a b : History) :
    submissions t (a ++ b) = submissions t a ++ submissions t b :=
  List.filterMap_append

/-- The submissions of a tab, counted from one of them. -/
theorem length_submissions_of_submitted (later : History) (ticket : Ticket) (query : String)
    (earlier : History) :
    (submissions ticket.tab (later ++ .submitted ticket query :: earlier)).length =
      (submissions ticket.tab later).length + ((submissions ticket.tab earlier).length + 1) := by
  have hquery : (Event.submitted ticket query).query? ticket.tab = some query := if_pos rfl
  rw [submissions_append, submissions_cons, hquery, List.length_append, List.length_append]
  show _ + (1 + _) = _
  rw [Nat.add_comm 1]

/-! ## The newest submission -/

/-- **An outcome is accepted exactly while its submission is the newest** and
the tab is open. Whether the tab was used for anything else in the meantime
makes no difference. -/
theorem Reaches.accepts_iff (hr : Reaches (later ++ .submitted ticket query :: earlier) w)
    (o : Outcome) : (w.registry.deliver ticket o).1 = true ↔
      isOpen ticket.tab (later ++ .submitted ticket query :: earlier) = true ∧
        submissions ticket.tab later = [] := by
  have hissued := hr.generation_of_submitted
  have hcount := length_submissions_of_submitted later ticket query earlier
  rw [deliver_eq_true_iff, hr.get?_eq, view?]
  generalize later ++ .submitted ticket query :: earlier = h at hcount ⊢
  constructor
  · rintro ⟨tab, htab, hg⟩
    split at htab
    · next hopen =>
      cases htab
      change (submissions ticket.tab h).length = ticket.generation at hg
      exact ⟨hopen, List.eq_nil_of_length_eq_zero (by omega)⟩
    · cases htab
  · rintro ⟨hopen, hnone⟩
    rw [if_pos hopen]
    refine ⟨_, rfl, ?_⟩
    show (submissions ticket.tab h).length = ticket.generation
    rw [hcount, hnone, hissued, List.length_nil, Nat.zero_add]

/-- **What a run that is under way is told** when it ends: its outcome, exactly
while the tab is open and nothing newer was submitted to it. -/
theorem Reaches.exists_told (hr : Reaches h w) {i : Nat} (hrun : w.run? i = some ticket) :
    ∃ later query earlier, h = later ++ .submitted ticket query :: earlier ∧
      ∀ answer, (w.perform (.endRun i answer)).1.told =
        if isOpen ticket.tab h = true ∧ submissions ticket.tab later = [] then
          .current (.ofAnswer answer)
        else .stale := by
  obtain ⟨later, query, earlier, rfl⟩ := hr.exists_submitted hrun
  refine ⟨later, query, earlier, rfl, fun answer => ?_⟩
  rw [told_endRun hrun]
  exact ite_congr (propext (hr.accepts_iff _)) (fun _ => rfl) fun _ => rfl

/-- **After an accepted outcome** the tab accepts no other ticket until the next
submission. The same ticket may be delivered again. -/
theorem Reaches.eq_of_accepted (hr : Reaches (later ++ .delivered ticket o true :: earlier) w)
    (hnone : submissions ticket.tab later = []) {ticket' : Ticket} {o' : Outcome}
    (hmem : .delivered ticket' o' true ∈ later) (htab : ticket'.tab = ticket.tab) :
    ticket' = ticket := by
  obtain ⟨after, between, rfl⟩ := List.append_of_mem hmem
  have hgeneration := hr.generation_of_accepted
  rw [List.append_assoc, List.cons_append] at hr
  have hgeneration' := hr.generation_of_accepted
  -- nothing was submitted between the two, so both tickets carry one count
  rw [submissions_append, submissions_cons] at hnone
  have hbetween : submissions ticket.tab between = [] :=
    (List.append_eq_nil_iff.mp (List.append_eq_nil_iff.mp hnone).2).2
  have hdelivered : (Event.delivered ticket o true).query? ticket.tab = none := rfl
  rw [htab, submissions_append, submissions_cons, hbetween, hdelivered] at hgeneration'
  cases ticket
  cases ticket'
  exact Ticket.mk.injEq .. ▸ ⟨htab, hgeneration'.trans hgeneration.symm⟩

/-- As long as a tab has seen fewer than 2⁶⁴ submissions, a counter of 64 bits
tells its newest ticket from the others. -/
theorem Reaches.toUInt64_eq_iff (hr : Reaches (later ++ .submitted ticket query :: earlier) w)
    (hsmall : (submissions ticket.tab (later ++ .submitted ticket query :: earlier)).length < 2 ^ 64)
    {tab : Tab} (htab : w.registry.get? ticket.tab = some tab) :
    tab.generation.toUInt64 = ticket.generation.toUInt64 ↔ submissions ticket.tab later = [] := by
  have hissued := hr.generation_of_submitted
  have hcurrent := hr.generation_eq htab
  rw [length_submissions_of_submitted] at hcurrent hsmall
  have hwords : tab.generation.toUInt64 = ticket.generation.toUInt64 ↔
      tab.generation = ticket.generation := by
    rw [← UInt64.toNat_inj]
    show tab.generation % 2 ^ 64 = ticket.generation % 2 ^ 64 ↔ _
    rw [Nat.mod_eq_of_lt (hcurrent ▸ hsmall), Nat.mod_eq_of_lt (by omega)]
  rw [hwords, hcurrent, hissued, ← List.length_eq_zero_iff]
  omega

/-! ## Tabs that are not open -/

/-- **What is asked of a tab that is not open changes nothing**, and no run on
it asks the store. The tab may never have been opened, or it may have been
closed. -/
theorem unchanged_of_get?_eq_none (hnone : r.get? t = none) :
    r.closeTab t = (false, r) ∧
    r.snapshot t = .error (unknownTab t) ∧
    r.activeSchema t = .error (unknownTab t) ∧
    (∀ schema, r.selectSchema t schema = .error (unknownTab t)) ∧
    (∀ query, r.submit t query = .error (unknownTab t)) ∧
    (∀ generation o, r.deliver ⟨t, generation⟩ o = (false, r)) ∧
    ∀ {σ κ γ : Type} (store : Store σ κ γ) (query : String) (s : σ),
      r.run store t query s = (.error (unknownTab t), r, s) := by
  have hsubmit (query : String) : r.submit t query = .error (unknownTab t) := by
    unfold submit
    rw [hnone]
  refine ⟨?_, ?_, ?_, ?_, hsubmit, ?_, ?_⟩
  · unfold closeTab
    rw [put_none_of_get?_eq_none hnone, hnone]
    rfl
  · unfold snapshot
    rw [hnone]
  · unfold activeSchema snapshot
    rw [hnone]
    rfl
  · intro schema
    unfold selectSchema
    rw [hnone]
  · intro generation o
    unfold deliver
    rw [hnone]
  · intro σ κ γ store query s
    unfold run
    rw [hsubmit]

/-! ## The law of a registry -/

/-- **The newest submission wins.** Whatever requests have come in whatever
order, a tab's state is made of its last events; the outcome of a submission is
accepted exactly while the tab is open and nothing newer was submitted to it,
and then no other ticket is accepted until the next submission; and neither a
rejected delivery nor a request about a tab that is not open changes anything.

A run is a submission and, whatever comes between, a delivery with its own
ticket: it is told its outcome if that is accepted, and otherwise that the
outcome is stale. A run that nothing interrupts is these two requests one behind
the other, and its outcome is the current one. -/
theorem newest_wins {h : History} {w : Workspace} (hr : Reaches h w) :
    (∀ t tab, w.registry.get? t = some tab ↔ isOpen t h = true ∧
      tab.generation = (submissions t h).length ∧
      tab.query = (submissions t h).head?.getD "" ∧
      tab.schema = (selections t h).head?.join ∧
      tab.last = (acceptances t h).head?) ∧
    (∀ later ticket query earlier, h = later ++ .submitted ticket query :: earlier →
      (∀ o, (w.registry.deliver ticket o).1 = true ↔
        isOpen ticket.tab h = true ∧ submissions ticket.tab later = []) ∧
      (submissions ticket.tab later ≠ [] → ∀ o, w.registry.deliver ticket o = (false, w.registry)) ∧
      ((submissions ticket.tab h).length < 2 ^ 64 → ∀ tab, w.registry.get? ticket.tab = some tab →
        (tab.generation.toUInt64 = ticket.generation.toUInt64 ↔ submissions ticket.tab later = []))) ∧
    (∀ later ticket o earlier, h = later ++ .delivered ticket o true :: earlier →
      submissions ticket.tab later = [] → ∀ ticket' o', .delivered ticket' o' true ∈ later →
        ticket'.tab = ticket.tab → ticket' = ticket) ∧
    (∀ ticket o, (w.registry.deliver ticket o).1 = false →
      (w.registry.deliver ticket o).2 = w.registry) ∧
    (∀ i ticket, w.run? i = some ticket →
      ∃ later query earlier, h = later ++ .submitted ticket query :: earlier ∧
        ∀ answer, (w.perform (.endRun i answer)).1.told =
          if isOpen ticket.tab h = true ∧ submissions ticket.tab later = [] then
            .current (.ofAnswer answer)
          else .stale) ∧
    (∀ t tab, w.registry.get? t = some tab →
      ∀ {σ κ γ : Type} (store : Store σ κ γ) (query : String) (s : σ),
        let ended := (w.perform (.beginRun t query)).2.perform
          (.endRun w.runs.length (store.execute query s).1)
        w.registry.run store t query s =
          (.ok ended.1.told, ended.2.registry, (store.execute query s).2) ∧
        ended.1.told = .current (.ofAnswer (store.execute query s).1)) ∧
    ∀ t, isOpen t h = false →
      w.registry.closeTab t = (false, w.registry) ∧
      w.registry.snapshot t = .error (unknownTab t) ∧
      w.registry.activeSchema t = .error (unknownTab t) ∧
      (∀ schema, w.registry.selectSchema t schema = .error (unknownTab t)) ∧
      (∀ query, w.registry.submit t query = .error (unknownTab t)) ∧
      (∀ generation o, w.registry.deliver ⟨t, generation⟩ o = (false, w.registry)) ∧
      ∀ {σ κ γ : Type} (store : Store σ κ γ) (query : String) (s : σ),
        w.registry.run store t query s = (.error (unknownTab t), w.registry, s) := by
  refine ⟨fun t tab => ?_, ?_, ?_, fun ticket o hfalse => ?_, fun i ticket => hr.exists_told,
    fun t tab htab σ κ γ store query s => ⟨run_eq_endRun htab store query s, told_run htab query _⟩,
    fun t hclosed => ?_⟩
  · rw [hr.get?_eq]
    exact view?_eq_some_iff
  · rintro later ticket query earlier rfl
    refine ⟨hr.accepts_iff, fun hnewer o => deliver_eq_of_rejected ?_, fun hsmall tab => ?_⟩
    · exact Bool.eq_false_iff.mpr fun htrue => hnewer ((hr.accepts_iff o).mp htrue).2
    · exact hr.toUInt64_eq_iff hsmall
  · rintro later ticket o earlier rfl hnone ticket' o' hmem htab
    exact hr.eq_of_accepted hnone hmem htab
  · rw [deliver_eq_of_rejected hfalse]
  · refine unchanged_of_get?_eq_none ?_
    rw [hr.get?_eq, view?, hclosed]
    rfl

/-- Two runs on one tab, the newer of which has ended: the outcome of the older
comes too late, and its run is told that it is stale. -/
theorem newest_wins_two_runs : ∃ w, Reaches [.delivered ⟨⟨0⟩, 2⟩ (.failed "b") true,
      .submitted ⟨⟨0⟩, 2⟩ "db.b.find()", .submitted ⟨⟨0⟩, 1⟩ "db.a.find()", .opened ⟨0⟩] w ∧
    w.run? 0 = some ⟨⟨0⟩, 1⟩ ∧ (∀ o, w.registry.deliver ⟨⟨0⟩, 1⟩ o = (false, w.registry)) ∧
    ∀ answer, (w.perform (.endRun 0 answer)).1.told = .stale := by
  have hr := Reaches.start.step .openTab |>.step (.beginRun ⟨0⟩ "db.a.find()")
    |>.step (.beginRun ⟨0⟩ "db.b.find()") |>.step (.endRun 1 (.error (.generic "b")))
  have hlate := ((newest_wins hr).2.1 [.delivered ⟨⟨0⟩, 2⟩ (.failed "b") true,
    .submitted ⟨⟨0⟩, 2⟩ "db.b.find()"] ⟨⟨0⟩, 1⟩ "db.a.find()" [.opened ⟨0⟩] rfl).2.1
  have hdropped := hlate (List.cons_ne_nil _ _)
  refine ⟨_, hr, rfl, hdropped, fun answer => ?_⟩
  rw [told_endRun rfl, hdropped]
  rfl

end QueryShell.Registry
