import Mathlib.Data.List.Infix
import Mathlib.Logic.Function.Basic
import QueryShell.Proofs.Session.History

/-!
# Tabs do not see each other

All tabs live in one registry, and their clients take turns in any order. What a
client sees of its tab is nevertheless what it would see if nobody else were
there: each step reads and writes the entry of its own tab only, so that the
steps about other tabs can be taken out of a run, and two neighbouring steps
about different tabs can change places.

Such a statement compares two runs, so a name has to mean the same in both. An
identity of a tab is therefore handed in with the step that opens the tab
(`Registry.openAs`), whatever else was opened before, and runs of queries are
counted for each tab by itself. The registry's own way to open a tab is the case
of the identity behind all others (`Registry.openTab_eq_openAs`).

## Main statements

* `Registry.Desk.perform_congr`, `Registry.Desk.view_perform_of_ne`: a step
  reads and writes the entry of its own tab.
* `Registry.Desk.run_filter`: a run with the steps of the other tabs taken out.
* `Registry.tabs_isolated`: the whole law.
-/

namespace QueryShell.Registry

/-! ## Identities that are handed in -/

/-- Opens a tab under a given identity. Places of tabs that were never opened
stay empty. -/
def openAs (r : Registry) (t : TabId) : Registry :=
  put ⟨r.tabs ++ List.replicate (t.index + 1 - r.tabs.length) none⟩ t (some {})

section

variable {r r' : Registry} {t u : TabId}

/-- A place is made for the tab, and for those before it, where there was
none. -/
theorem length_openAs : (r.openAs t).tabs.length = max r.tabs.length (t.index + 1) := by
  rw [openAs, length_put, List.length_append, List.length_replicate]
  omega

/-- Opening a tab under an identity makes that tab new and leaves all others as
they are. -/
theorem get?_openAs : (r.openAs t).get? u = if t = u then some {} else r.get? u := by
  have hlt : t.index < (r.tabs ++ List.replicate (t.index + 1 - r.tabs.length) none).length := by
    rw [List.length_append, List.length_replicate]
    omega
  rw [openAs, get?_put hlt]
  split
  · rfl
  -- the places that were added are as empty as the text behind the end
  · show ((r.tabs ++ List.replicate _ none)[u.index]?).join = (r.tabs[u.index]?).join
    rw [List.getElem?_append]
    split
    · rfl
    · next hge =>
      rw [List.getElem?_eq_none (Nat.le_of_not_lt hge), List.getElem?_replicate]
      split <;> rfl

/-- A registry is the number of its places and what it shows of each tab. -/
theorem eq_of_get?_eq (hlen : r.tabs.length = r'.tabs.length) (h : ∀ t, r.get? t = r'.get? t) :
    r = r' := by
  obtain ⟨tabs⟩ := r
  obtain ⟨tabs'⟩ := r'
  refine congrArg Registry.mk (List.ext_getElem hlen fun i hi hi' => ?_)
  have hplace : (tabs[i]?).join = (tabs'[i]?).join := h ⟨i⟩
  rwa [List.getElem?_eq_getElem hi, List.getElem?_eq_getElem hi'] at hplace

/-- The registry opens a tab under the identity behind all others. -/
theorem openTab_eq_openAs (r : Registry) : r.openTab = (r.openTab.1, r.openAs r.openTab.1) := by
  refine Prod.ext rfl (eq_of_get?_eq ?_ fun u => ?_)
  · rw [length_openAs]
    show (r.tabs ++ [_]).length = max r.tabs.length (r.tabs.length + 1)
    rw [List.length_append, List.length_singleton]
    omega
  · rw [get?_openTab, get?_openAs]

end

/-! ## Steps about one tab -/

/-- **One step of a run**, which is about one tab. Opening a tab names the tab
here, so that a run without the steps about other tabs opens the same ones. -/
inductive Step where
  /-- Opens a tab under a fresh identity. -/
  | openTab (t : TabId)
  | closeTab (t : TabId)
  | snapshot (t : TabId)
  | selectSchema (t : TabId) (schema : Option Schema)
  | activeSchema (t : TabId)
  | submit (t : TabId) (query : String)
  /-- Delivers an answer. The ticket may be one that was never issued. -/
  | finish (ticket : Ticket) (answer : Except ShellError Result)
  /-- Begins a run, which submits its query. -/
  | beginRun (t : TabId) (query : String)
  /-- Ends the run of that number on the tab, which delivers the answer of the
  store. -/
  | endRun (t : TabId) (run : Nat) (answer : Except ShellError Result)

/-- The tab that a step is about. -/
def Step.tab : Step → TabId
  | openTab t | closeTab t | snapshot t | selectSchema t _ | activeSchema t | submit t _ => t
  | finish ticket _ => ticket.tab
  | beginRun t _ | endRun t _ _ => t

/-- How many places of the registry a step makes sure of. -/
def Step.places : Step → Nat
  | openTab t => t.index + 1
  | _ => 0

/-- **What the client of a step is told.** A snapshot is among the answers, so
that nothing of a tab can be seen in another way. -/
inductive Answer where
  | opened (t : TabId)
  | closed (wasOpen : Bool)
  | snapshot (answer : Except ShellError Tab)
  | selected (answer : Except ShellError Unit)
  | schema (answer : Except ShellError (Option Schema))
  | submitted (answer : Except ShellError Ticket)
  | finished (accepted : Bool)
  /-- Nothing is told about a run that is not under way. -/
  | ended (outcome : Option RunOutcome)

/-- A registry, and for each tab the runs that have begun on it, in their order.
A run that is under way holds the generation on its ticket. -/
structure Desk where
  registry : Registry := {}
  runs : TabId → List (Option Nat) := fun _ => []

namespace Desk

/-- The run of that number on a tab, if it is under way. -/
def run? (d : Desk) (t : TabId) (i : Nat) : Option Nat :=
  ((d.runs t)[i]?).join

/-- The answer and the desk after a step. -/
def perform (d : Desk) : Step → Answer × Desk
  | .openTab t => (.opened t, { d with registry := d.registry.openAs t })
  | .closeTab t =>
    let (wasOpen, r) := d.registry.closeTab t
    (.closed wasOpen, { d with registry := r })
  | .snapshot t => (.snapshot (d.registry.snapshot t), d)
  | .selectSchema t schema =>
    match d.registry.selectSchema t schema with
    | .ok r => (.selected (.ok ()), { d with registry := r })
    | .error e => (.selected (.error e), d)
  | .activeSchema t => (.schema (d.registry.activeSchema t), d)
  | .submit t query =>
    match d.registry.submit t query with
    | .ok (ticket, r) => (.submitted (.ok ticket), { d with registry := r })
    | .error e => (.submitted (.error e), d)
  | .finish ticket answer =>
    let (accepted, r) := d.registry.deliver ticket (Outcome.ofAnswer answer)
    (.finished accepted, { d with registry := r })
  | .beginRun t query =>
    match d.registry.submit t query with
    | .ok (ticket, r) =>
      (.submitted (.ok ticket),
        ⟨r, Function.update d.runs t (d.runs t ++ [some ticket.generation])⟩)
    | .error e => (.submitted (.error e), d)
  | .endRun t i answer =>
    match d.run? t i with
    | some generation =>
      let o := Outcome.ofAnswer answer
      let (accepted, r) := d.registry.deliver ⟨t, generation⟩ o
      (.ended (some (if accepted then .current o else .stale)),
        ⟨r, Function.update d.runs t ((d.runs t).set i none)⟩)
    | none => (.ended none, d)

/-- The steps with their answers, and the desk after all of them. -/
def run (d : Desk) : List Step → List (Step × Answer) × Desk
  | [] => ([], d)
  | s :: steps =>
    ((s, (d.perform s).1) :: ((d.perform s).2.run steps).1, ((d.perform s).2.run steps).2)

/-- All that there is about a tab. -/
def view (d : Desk) (t : TabId) : Option Tab × List (Option Nat) :=
  (d.registry.get? t, d.runs t)

end Desk

/-! ## A step stays with its tab -/

section

variable {r r' : Registry} {t u : TabId}

theorem Change.length_eq {e : Event} (hc : Change r e r') (he : ∀ t, e ≠ .opened t) :
    r'.tabs.length = r.tabs.length := by
  cases hc with
  | opened => exact absurd rfl (he _)
  | closed | submitted | selected | accepted => exact length_put _
  | rejected | nothing => rfl

/-- Closing a tab takes it away and leaves all others as they are. -/
theorem get?_closeTab : (r.closeTab t).2.get? u = if t = u then none else r.get? u := by
  have hc := (change_closeTab r t).get?_eq u
  rw [hc]
  show Event.act u (if (r.get? t).isSome then _ else _) _ = _
  split
  · rfl
  · next hclosed =>
    split
    · next ht =>
      rw [← ht]
      exact Option.not_isSome_iff_eq_none.mp hclosed
    · rfl

/-- A delivery sets the last outcome of its own tab if it is accepted, and
nothing else. -/
theorem get?_deliver (ticket : Ticket) (o : Outcome) : (r.deliver ticket o).2.get? u =
    if ticket.tab = u ∧ (r.deliver ticket o).1 = true
    then (r.get? u).map fun tab => { tab with last := some o } else r.get? u := by
  rw [(change_deliver r ticket o).get?_eq u]
  cases (r.deliver ticket o).1 <;> by_cases ht : ticket.tab = u <;> simp [Event.act, ht]

/-- Whether an outcome is accepted is up to the tab of its ticket. -/
theorem deliver_congr {ticket : Ticket} (h : r.get? ticket.tab = r'.get? ticket.tab) (o : Outcome) :
    (r.deliver ticket o).1 = (r'.deliver ticket o).1 := by
  unfold deliver
  rw [h]
  cases r'.get? ticket.tab with
  | none => rfl
  | some tab =>
    dsimp only
    split <;> rfl

/-- What a delivery leaves of its tab depends on nothing but that tab. -/
theorem get?_deliver_congr {ticket : Ticket} (h : r.get? ticket.tab = r'.get? ticket.tab)
    (o : Outcome) : (r.deliver ticket o).2.get? ticket.tab = (r'.deliver ticket o).2.get? ticket.tab := by
  rw [get?_deliver, get?_deliver, deliver_congr h, h]

/-- What a submission is answered and what it makes of a tab is up to that
tab. -/
theorem submit_cases (h : r.get? t = r'.get? t) (query : String) :
    (∃ e, r.submit t query = .error e ∧ r'.submit t query = .error e) ∨
    ∃ ticket r₁ r₁', r.submit t query = .ok (ticket, r₁) ∧ r'.submit t query = .ok (ticket, r₁') ∧
      r₁.get? t = r₁'.get? t := by
  cases htab : r'.get? t with
  | none =>
    rw [htab] at h
    unfold submit
    rw [h, htab]
    exact .inl ⟨_, rfl, rfl⟩
  | some tab =>
    rw [htab] at h
    unfold submit
    rw [h, htab]
    refine .inr ⟨_, _, _, rfl, rfl, ?_⟩
    rw [get?_put_some h fun tab => { tab with query, generation := tab.generation + 1 },
      get?_put_some htab fun tab => { tab with query, generation := tab.generation + 1 }, h, htab]

/-- A selection fails alike, or succeeds alike, in registries that have the same
state of the tab. -/
theorem selectSchema_cases (h : r.get? t = r'.get? t) (schema : Option Schema) :
    (∃ e, r.selectSchema t schema = .error e ∧ r'.selectSchema t schema = .error e) ∨
    ∃ r₁ r₁', r.selectSchema t schema = .ok r₁ ∧ r'.selectSchema t schema = .ok r₁' ∧
      r₁.get? t = r₁'.get? t := by
  cases htab : r'.get? t with
  | none =>
    rw [htab] at h
    unfold selectSchema
    rw [h, htab]
    exact .inl ⟨_, rfl, rfl⟩
  | some tab =>
    rw [htab] at h
    unfold selectSchema
    rw [h, htab]
    refine .inr ⟨_, _, rfl, rfl, ?_⟩
    rw [get?_put_some h fun tab => { tab with schema },
      get?_put_some htab fun tab => { tab with schema }, h, htab]

theorem get?_of_submit_of_ne {query : String} {ticket : Ticket}
    (h : r.submit t query = .ok (ticket, r')) (ht : t ≠ u) : r'.get? u = r.get? u := by
  unfold submit at h
  split at h
  · next htab =>
    cases h
    rw [get?_put (lt_length_of_get?_eq_some htab), if_neg ht]
  · cases h

/-- What is shown of a tab depends on nothing but that tab. -/
theorem snapshot_congr (h : r.get? t = r'.get? t) : r.snapshot t = r'.snapshot t := by
  unfold snapshot
  rw [h]

end

namespace Desk

variable {d d' : Desk} {s : Step} {t : TabId}

/-- **A step writes to no tab but its own**, whatever the state is. This is one
half of isolation; the other is that a step reads no other tab. -/
theorem view_perform_of_ne (h : s.tab ≠ t) : (d.perform s).2.view t = d.view t := by
  have hruns (x : List (Option Nat)) : Function.update d.runs s.tab x t = d.runs t :=
    Function.update_of_ne h.symm x d.runs
  cases s with
  | openTab u => exact Prod.ext (get?_openAs.trans (if_neg h)) rfl
  | closeTab u => exact Prod.ext (get?_closeTab.trans (if_neg h)) rfl
  | snapshot u | activeSchema u => rfl
  | selectSchema u schema =>
    unfold perform
    dsimp only
    split
    · next hr => exact Prod.ext (((change_of_selectSchema hr).get?_eq t).trans (if_neg h)) rfl
    · rfl
  | submit u query =>
    unfold perform
    dsimp only
    split
    · next hr => exact Prod.ext (get?_of_submit_of_ne hr h) rfl
    · rfl
  | finish ticket answer =>
    exact Prod.ext ((get?_deliver ticket _).trans (if_neg fun ht => h ht.1)) rfl
  | beginRun u query =>
    unfold perform
    dsimp only
    split
    · next hr => exact Prod.ext (get?_of_submit_of_ne hr h) (hruns _)
    · rfl
  | endRun u i answer =>
    unfold perform
    dsimp only
    split
    · exact Prod.ext ((get?_deliver _ _).trans (if_neg fun ht => h ht.1)) (hruns _)
    · rfl

/-- **A step reads no tab but its own**: where two desks agree about the tab,
the step is answered alike, and they agree about the tab again. -/
theorem perform_congr (h : d.view s.tab = d'.view s.tab) :
    (d.perform s).1 = (d'.perform s).1 ∧
      (d.perform s).2.view s.tab = (d'.perform s).2.view s.tab := by
  have htab : d.registry.get? s.tab = d'.registry.get? s.tab := congrArg Prod.fst h
  have hruns : d.runs s.tab = d'.runs s.tab := congrArg Prod.snd h
  have hupdate {x y : List (Option Nat)} (hxy : x = y) :
      Function.update d.runs s.tab x s.tab = Function.update d'.runs s.tab y s.tab := by
    rw [Function.update_self, Function.update_self, hxy]
  cases s with
  | openTab u =>
    refine ⟨rfl, Prod.ext ?_ hruns⟩
    show (d.registry.openAs u).get? u = (d'.registry.openAs u).get? u
    rw [get?_openAs, get?_openAs, if_pos rfl, if_pos rfl]
  | closeTab u =>
    refine ⟨congrArg (fun x : Option Tab => Answer.closed x.isSome) htab, Prod.ext ?_ hruns⟩
    show (d.registry.closeTab u).2.get? u = (d'.registry.closeTab u).2.get? u
    rw [get?_closeTab, get?_closeTab, if_pos rfl, if_pos rfl]
  | snapshot u => exact ⟨congrArg Answer.snapshot (snapshot_congr htab), h⟩
  | activeSchema u =>
    exact ⟨congrArg (fun x : Except ShellError Tab => Answer.schema (x.map Tab.schema))
      (snapshot_congr htab), h⟩
  | selectSchema u schema =>
    unfold perform
    rcases selectSchema_cases (t := u) htab schema with ⟨e, he, he'⟩ | ⟨r, r', hr, hr', hget⟩
    · dsimp only
      rw [he, he']
      exact ⟨rfl, h⟩
    · dsimp only
      rw [hr, hr']
      exact ⟨rfl, Prod.ext hget hruns⟩
  | submit u query =>
    unfold perform
    rcases submit_cases (t := u) htab query with ⟨e, he, he'⟩ | ⟨ticket, r, r', hr, hr', hget⟩
    · dsimp only
      rw [he, he']
      exact ⟨rfl, h⟩
    · dsimp only
      rw [hr, hr']
      exact ⟨rfl, Prod.ext hget hruns⟩
  | finish ticket answer =>
    exact ⟨congrArg Answer.finished (deliver_congr htab _),
      Prod.ext (get?_deliver_congr htab _) hruns⟩
  | beginRun u query =>
    unfold perform
    rcases submit_cases (t := u) htab query with ⟨e, he, he'⟩ | ⟨ticket, r, r', hr, hr', hget⟩
    · dsimp only
      rw [he, he']
      exact ⟨rfl, h⟩
    · dsimp only
      rw [hr, hr']
      exact ⟨rfl, Prod.ext hget (hupdate (congrArg (· ++ [some ticket.generation]) hruns))⟩
  | endRun u i answer =>
    have hrun : d.run? u i = d'.run? u i := congrArg (fun x : List (Option Nat) => (x[i]?).join) hruns
    unfold perform
    dsimp only
    rw [hrun]
    cases d'.run? u i with
    | none => exact ⟨rfl, h⟩
    | some generation =>
      have htab' : d.registry.get? (Ticket.mk u generation).tab =
          d'.registry.get? (Ticket.mk u generation).tab := htab
      dsimp only
      rw [deliver_congr htab']
      exact ⟨rfl, Prod.ext (get?_deliver_congr htab' _) (hupdate (congrArg (·.set i none) hruns))⟩

/-! ## Runs -/

/-- **A run with the steps of the other tabs taken out** gives the steps of the
tab the same answers, and leaves the tab in the same state. -/
theorem run_filter (h : d.view t = d'.view t) (steps : List Step) :
    ((d.run steps).1.filter fun p => p.1.tab = t) = (d'.run (steps.filter fun s => s.tab = t)).1 ∧
      (d.run steps).2.view t = (d'.run (steps.filter fun s => s.tab = t)).2.view t := by
  induction steps generalizing d d' with
  | nil => exact ⟨rfl, h⟩
  | cons s steps ih =>
    rw [run]
    by_cases hs : s.tab = t
    · subst hs
      obtain ⟨hanswer, hview⟩ := perform_congr h
      obtain ⟨hlog, hview'⟩ := ih hview
      rw [List.filter_cons_of_pos (by simp), List.filter_cons_of_pos (by simp), run, hanswer, hlog]
      exact ⟨rfl, hview'⟩
    · obtain ⟨hlog, hview⟩ := ih ((view_perform_of_ne hs).trans h)
      rw [List.filter_cons_of_neg (by simpa using hs), List.filter_cons_of_neg (by simpa using hs)]
      exact ⟨hlog, hview⟩

/-- A run of one list of steps behind another is the one run behind the
other. -/
theorem run_append (d : Desk) (pre post : List Step) : d.run (pre ++ post) =
    ((d.run pre).1 ++ ((d.run pre).2.run post).1, ((d.run pre).2.run post).2) := by
  induction pre generalizing d with
  | nil => rfl
  | cons s pre ih =>
    rw [List.cons_append, run, ih]
    rfl

/-! ## Neighbouring steps -/

/-- Only opening a tab adds places to a registry. -/
theorem length_perform (d : Desk) (s : Step) : (d.perform s).2.registry.tabs.length =
    max d.registry.tabs.length s.places := by
  have hmax : max d.registry.tabs.length 0 = d.registry.tabs.length := Nat.max_zero _
  have hkeep {e : Event} {r : Registry} (hc : Change d.registry e r) (he : ∀ t, e ≠ .opened t) :
      r.tabs.length = max d.registry.tabs.length 0 := (hc.length_eq he).trans hmax.symm
  cases s with
  | openTab t => exact length_openAs
  | closeTab t => exact (length_put none).trans hmax.symm
  | snapshot t | activeSchema t => exact hmax.symm
  | selectSchema t schema =>
    unfold perform
    dsimp only
    split
    · next hr => exact hkeep (change_of_selectSchema hr) (by simp)
    · exact hmax.symm
  | submit t query | beginRun t query =>
    unfold perform
    dsimp only
    split
    · next hr => exact hkeep (change_of_submit hr) (by simp)
    · exact hmax.symm
  | finish ticket answer => exact hkeep (change_deliver _ ticket _) (by simp)
  | endRun t i answer =>
    unfold perform
    dsimp only
    split
    · exact hkeep (change_deliver _ _ _) (by simp)
    · exact hmax.symm

/-- A desk is its registry's number of places and what there is about each
tab. -/
theorem eq_of_view_eq (hlen : d.registry.tabs.length = d'.registry.tabs.length)
    (h : ∀ t, d.view t = d'.view t) : d = d' := by
  obtain ⟨r, runs⟩ := d
  obtain ⟨r', runs'⟩ := d'
  have hr : r = r' := eq_of_get?_eq hlen fun t => congrArg Prod.fst (h t)
  have hruns : runs = runs' := funext fun t => congrArg Prod.snd (h t)
  rw [hr, hruns]

/-- **Two steps about different tabs commute**: each is answered alike before
and after the other, and the desk after both is the same. The places of the tabs
are the same too, and not only what is shown of them. -/
theorem perform_comm {a b : Step} (h : a.tab ≠ b.tab) (d : Desk) :
    ((d.perform b).2.perform a).1 = (d.perform a).1 ∧
      ((d.perform b).2.perform a).2 = ((d.perform a).2.perform b).2 := by
  have ha : (d.perform b).2.view a.tab = d.view a.tab := view_perform_of_ne h.symm
  have hb : (d.perform a).2.view b.tab = d.view b.tab := view_perform_of_ne h
  refine ⟨(perform_congr ha).1, eq_of_view_eq ?_ fun t => ?_⟩
  · simp only [length_perform]
    omega
  · by_cases hta : a.tab = t
    · subst hta
      rw [(perform_congr ha).2, view_perform_of_ne h.symm]
    · rw [view_perform_of_ne hta]
      by_cases htb : b.tab = t
      · subst htb
        rw [(perform_congr hb).2]
      · rw [view_perform_of_ne htb, view_perform_of_ne htb, view_perform_of_ne hta]

/-- **A run that nothing interrupts is its two steps**: it answers what the
second of them answers, or, if there is no tab to begin it on, what the first
does. -/
theorem run_eq_steps {σ κ γ : Type} (d : Desk) (store : Store σ κ γ) (t : TabId) (query : String)
    (s : σ) :
    (∃ e, d.perform (.beginRun t query) = (.submitted (.error e), d) ∧
      d.registry.run store t query s = (.error e, d.registry, s)) ∨
    ∃ o d', (d.perform (.beginRun t query)).2.perform
        (.endRun t (d.runs t).length (store.execute query s).1) = (.ended (some o), d') ∧
      d.registry.run store t query s = (.ok o, d'.registry, (store.execute query s).2) := by
  cases htab : d.registry.get? t with
  | none =>
    have hsubmit : d.registry.submit t query = .error (unknownTab t) := by
      unfold submit
      rw [htab]
    refine .inl ⟨unknownTab t, ?_, ?_⟩
    · rw [perform, hsubmit]
    · rw [Registry.run, hsubmit]
  | some tab =>
    obtain ⟨g, r, hsubmit⟩ : ∃ g r, d.registry.submit t query = .ok (⟨t, g⟩, r) := by
      unfold submit
      rw [htab]
      exact ⟨_, _, rfl⟩
    have hbegin : (d.perform (.beginRun t query)).2 =
        ⟨r, Function.update d.runs t (d.runs t ++ [some g])⟩ := by
      rw [perform, hsubmit]
    have hrun : run? ⟨r, Function.update d.runs t (d.runs t ++ [some g])⟩ t (d.runs t).length =
        some g := by
      rw [run?]
      dsimp only
      rw [Function.update_self, List.getElem?_concat_length]
      rfl
    refine .inr ⟨_, _, by rw [hbegin, perform, hrun], ?_⟩
    rw [Registry.run, hsubmit]
    rfl

end Desk

/-! ## The law of many tabs -/

/-- **Tabs are isolated.** From any state on, taking all steps about other tabs
out of a run changes neither the answers to the steps about the tab nor, at any
point, its snapshot. So two neighbouring steps about different tabs can change
places without a change to any answer or to what comes out in the end. The steps
are what the registry itself does: it opens a tab under an identity of its own
choice, and a run of a query is two steps. -/
theorem tabs_isolated (d : Desk) :
    (∀ steps t,
      ((d.run steps).1.filter fun p => p.1.tab = t) = (d.run (steps.filter fun s => s.tab = t)).1 ∧
      ∀ pre, pre <+: steps → (d.run pre).2.registry.snapshot t =
        (d.run (pre.filter fun s => s.tab = t)).2.registry.snapshot t) ∧
    (∀ pre a b post, a.tab ≠ b.tab →
      (d.run (pre ++ b :: a :: post)).2 = (d.run (pre ++ a :: b :: post)).2 ∧
      ∃ x y after,
        (d.run (pre ++ a :: b :: post)).1 = (d.run pre).1 ++ (a, x) :: (b, y) :: after ∧
        (d.run (pre ++ b :: a :: post)).1 = (d.run pre).1 ++ (b, y) :: (a, x) :: after) ∧
    d.registry.openTab = (d.registry.openTab.1, d.registry.openAs d.registry.openTab.1) ∧
    ∀ {σ κ γ : Type} (store : Store σ κ γ) t query (s : σ),
      (∃ e, d.perform (.beginRun t query) = (.submitted (.error e), d) ∧
        d.registry.run store t query s = (.error e, d.registry, s)) ∨
      ∃ o d', (d.perform (.beginRun t query)).2.perform
          (.endRun t (d.runs t).length (store.execute query s).1) = (.ended (some o), d') ∧
        d.registry.run store t query s = (.ok o, d'.registry, (store.execute query s).2) := by
  refine ⟨fun steps t => ⟨(Desk.run_filter rfl steps).1, fun pre _ => ?_⟩, fun pre a b post h => ?_,
    openTab_eq_openAs d.registry, fun store t query s => d.run_eq_steps store t query s⟩
  · exact snapshot_congr (congrArg Prod.fst (Desk.run_filter rfl pre).2)
  · obtain ⟨ha, hdesk⟩ := Desk.perform_comm h (d.run pre).2
    obtain ⟨hb, -⟩ := Desk.perform_comm h.symm (d.run pre).2
    simp only [Desk.run_append, Desk.run, ha, hb, hdesk]
    exact ⟨trivial, _, _, _, rfl, rfl⟩

/-- Two tabs, the second of which is opened, used and closed while a run on the
first is under way. -/
theorem tabs_isolated_late_run : (⟨0⟩ : TabId) ≠ ⟨1⟩ ∧
    (Desk.run {} ([.openTab ⟨0⟩, .beginRun ⟨0⟩ "db.a.find()"] ++ .openTab ⟨1⟩ ::
        .endRun ⟨0⟩ 0 (.error (.generic "late")) :: [.closeTab ⟨1⟩])).2 =
      (Desk.run {} ([.openTab ⟨0⟩, .beginRun ⟨0⟩ "db.a.find()"] ++
        .endRun ⟨0⟩ 0 (.error (.generic "late")) :: .openTab ⟨1⟩ :: [.closeTab ⟨1⟩])).2 ∧
    ((Desk.run {} [.openTab ⟨0⟩, .beginRun ⟨0⟩ "db.a.find()", .openTab ⟨1⟩,
        .endRun ⟨0⟩ 0 (.error (.generic "late")), .closeTab ⟨1⟩]).1.filter fun p => p.1.tab = ⟨0⟩) =
      [(.openTab ⟨0⟩, .opened ⟨0⟩),
        (.beginRun ⟨0⟩ "db.a.find()", .submitted (.ok ⟨⟨0⟩, 1⟩)),
        (.endRun ⟨0⟩ 0 (.error (.generic "late")), .ended (some (.current (.failed "late"))))] := by
  have hne : (⟨0⟩ : TabId) ≠ ⟨1⟩ := by decide
  refine ⟨hne, ((tabs_isolated {}).2.1 [.openTab ⟨0⟩, .beginRun ⟨0⟩ "db.a.find()"]
    (.endRun ⟨0⟩ 0 (.error (.generic "late"))) (.openTab ⟨1⟩) [.closeTab ⟨1⟩] hne).1, ?_⟩
  rw [((tabs_isolated {}).1 _ ⟨0⟩).1]
  rfl

end QueryShell.Registry
