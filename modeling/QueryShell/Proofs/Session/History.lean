import QueryShell.Session

/-!
# The history of a registry

Several clients share a registry, and their requests come in any order. A query
that is run is two requests: its submission, and, when the store is done with
it, the delivery of its outcome. Anything may happen between the two, so that a
list of `Request`s is an interleaving of any number of runs with everything else
that a registry can be asked for.

What a request comes to is an `Event`, and the events so far, the newest first,
are the history. A registry remembers of its history what the history says about
each tab, and nothing else: a tab is open if it was opened and not closed since,
and its state is made of the last events of each kind (`History.view?`).
Identities of tabs are never used twice, so the history of a tab begins when it
is opened.

## Main statements

* `Workspace.perform_change`: what one request can do.
* `Registry.Change.get?_eq`: one event changes one tab.
* `Reaches.get?_eq`: a registry shows of every tab what the history says about
  it.
-/

namespace QueryShell

namespace Registry

/-! ## Requests -/

/-- **What a client can ask of a registry.** A run is asked for in two parts,
its beginning and its end, and anything may be asked in between. -/
inductive Request where
  | openTab
  | closeTab (t : TabId)
  | submit (t : TabId) (query : String)
  /-- Delivers an answer. The ticket may be one that was never issued. -/
  | finish (ticket : Ticket) (answer : Except ShellError Result)
  | selectSchema (t : TabId) (schema : Option Schema)
  /-- Begins a run, which submits its query. -/
  | beginRun (t : TabId) (query : String)
  /-- Ends the run of that number, which delivers the answer of the store with
  its own ticket. -/
  | endRun (run : Nat) (answer : Except ShellError Result)

/-- **What a request has come to.** A request that is refused has come to
nothing, and leaves no trace but that. -/
inductive Event where
  | opened (t : TabId)
  | closed (t : TabId)
  | submitted (ticket : Ticket) (query : String)
  | selected (t : TabId) (schema : Option Schema)
  | delivered (ticket : Ticket) (o : Outcome) (accepted : Bool)
  /-- The request was about a tab that is not open, or about a run that is not
  under way. -/
  | nothing

/-- A registry and the runs that have begun on it, in their order. A run has the
ticket of its submission until it ends. -/
structure Workspace where
  registry : Registry := {}
  runs : List (Option Ticket) := []

namespace Workspace

/-- A run that is under way. -/
def run? (w : Workspace) (i : Nat) : Option Ticket :=
  (w.runs[i]?).join

/-- The event and the workspace after a request. -/
def perform (w : Workspace) : Request → Event × Workspace
  | .openTab =>
    let (t, r) := w.registry.openTab
    (.opened t, { w with registry := r })
  | .closeTab t =>
    let (wasOpen, r) := w.registry.closeTab t
    (if wasOpen then .closed t else .nothing, { w with registry := r })
  | .submit t query =>
    match w.registry.submit t query with
    | .ok (ticket, r) => (.submitted ticket query, { w with registry := r })
    | .error _ => (.nothing, w)
  | .finish ticket answer =>
    let o := Outcome.ofAnswer answer
    let (accepted, r) := w.registry.deliver ticket o
    (.delivered ticket o accepted, { w with registry := r })
  | .selectSchema t schema =>
    match w.registry.selectSchema t schema with
    | .ok r => (.selected t schema, { w with registry := r })
    | .error _ => (.nothing, w)
  | .beginRun t query =>
    match w.registry.submit t query with
    | .ok (ticket, r) => (.submitted ticket query, ⟨r, w.runs ++ [some ticket]⟩)
    | .error _ => (.nothing, w)
  | .endRun i answer =>
    match w.run? i with
    | some ticket =>
      let o := Outcome.ofAnswer answer
      let (accepted, r) := w.registry.deliver ticket o
      (.delivered ticket o accepted, ⟨r, w.runs.set i none⟩)
    | none => (.nothing, w)

end Workspace

/-! ## What one event changes -/

section

variable {r r' : Registry} {t u : TabId} {e : Event}

/-- An open tab has a place in the registry. -/
theorem lt_length_of_get?_eq_some {tab : Tab} (h : r.get? t = some tab) :
    t.index < r.tabs.length := by
  refine Nat.lt_of_not_le fun hle => ?_
  rw [get?, List.getElem?_eq_none hle] at h
  cases h

/-- Behind the places of the tabs that were opened there is no tab. -/
theorem get?_eq_none_of_length_le (h : r.tabs.length ≤ t.index) : r.get? t = none := by
  rw [get?, List.getElem?_eq_none h]
  rfl

/-- Replacing the state of a tab that was opened changes that tab and no
other. -/
theorem get?_put (ht : t.index < r.tabs.length) (x : Option Tab) :
    (r.put t x).get? u = if t = u then x else r.get? u := by
  unfold get? put
  rw [List.getElem?_set]
  by_cases h : t = u
  · rw [if_pos (congrArg TabId.index h), if_pos ht, if_pos h]
    rfl
  · have hindex : t.index ≠ u.index := fun hi => h (congrArg TabId.mk hi)
    rw [if_neg hindex, if_neg h]

/-- Changing the state of an open tab changes that tab and no other. -/
theorem get?_put_some {tab : Tab} (h : r.get? t = some tab) (f : Tab → Tab) :
    (r.put t (some (f tab))).get? u = if t = u then (r.get? u).map f else r.get? u := by
  rw [get?_put (lt_length_of_get?_eq_some h)]
  by_cases ht : t = u
  · rw [if_pos ht, if_pos ht, ← ht, h]
    rfl
  · rw [if_neg ht, if_neg ht]

/-- Replacing the state of a tab makes no new place. -/
theorem length_put (x : Option Tab) : (r.put t x).tabs.length = r.tabs.length :=
  List.length_set

/-- A tab that is not open can be taken away. -/
theorem put_none_of_get?_eq_none (h : r.get? t = none) : r.put t none = r := by
  unfold put
  refine congrArg Registry.mk (List.ext_getElem? fun i => ?_)
  rw [List.getElem?_set]
  split
  · next hi =>
    subst hi
    split
    · next hlt =>
      rw [get?, List.getElem?_eq_getElem hlt] at h
      rw [List.getElem?_eq_getElem hlt, show r.tabs[t.index] = none from h]
    · next hge => rw [List.getElem?_eq_none (Nat.le_of_not_lt hge)]
  · rfl

/-- A tab that was opened has the place behind all others, and is empty. -/
theorem get?_openTab : r.openTab.2.get? u = if r.openTab.1 = u then some {} else r.get? u := by
  show ((r.tabs ++ [some ({} : Tab)])[u.index]?).join = _
  by_cases h : r.openTab.1 = u
  · rw [if_pos h, ← h]
    show ((r.tabs ++ [some ({} : Tab)])[r.tabs.length]?).join = _
    rw [List.getElem?_concat_length]
    rfl
  · have hindex : u.index ≠ r.tabs.length := fun hi => h (congrArg TabId.mk hi.symm)
    rw [if_neg h, get?, List.getElem?_append]
    split
    · rfl
    · next hge =>
      rw [List.getElem?_eq_none (by rw [List.length_singleton]; omega),
        List.getElem?_eq_none (Nat.le_of_not_lt hge)]

/-- **What one event changes**, with everything that is checked before it can
happen. -/
inductive Change (r : Registry) : Event → Registry → Prop
  | opened : Change r (.opened r.openTab.1) r.openTab.2
  | closed {t : TabId} {tab : Tab} (h : r.get? t = some tab) :
    Change r (.closed t) (r.put t none)
  | submitted {t : TabId} {tab : Tab} (h : r.get? t = some tab) (query : String) :
    Change r (.submitted ⟨t, tab.generation + 1⟩ query)
      (r.put t (some { tab with query, generation := tab.generation + 1 }))
  | selected {t : TabId} {tab : Tab} (h : r.get? t = some tab) (schema : Option Schema) :
    Change r (.selected t schema) (r.put t (some { tab with schema }))
  | accepted {ticket : Ticket} {tab : Tab} (h : r.get? ticket.tab = some tab)
    (hg : tab.generation = ticket.generation) (o : Outcome) :
    Change r (.delivered ticket o true) (r.put ticket.tab (some { tab with last := some o }))
  | rejected {ticket : Ticket} (h : ∀ tab, r.get? ticket.tab = some tab →
    tab.generation ≠ ticket.generation) (o : Outcome) : Change r (.delivered ticket o false) r
  | nothing : Change r .nothing r

/-- A delivery is a change of the kind that its event says, whether it is
accepted or not. -/
theorem change_deliver (r : Registry) (ticket : Ticket) (o : Outcome) :
    Change r (.delivered ticket o (r.deliver ticket o).1) (r.deliver ticket o).2 := by
  unfold deliver
  split
  · next tab h =>
    split
    · next hg => exact .accepted h hg o
    · next hg =>
      refine .rejected (fun tab' h' => ?_) o
      rw [h] at h'
      cases h'
      exact hg
  · next h =>
    refine .rejected (fun tab' h' => ?_) o
    rw [h] at h'
    cases h'

/-- Closing a tab is an event if the tab was open, and changes nothing
otherwise. -/
theorem change_closeTab (r : Registry) (t : TabId) :
    Change r (if (r.closeTab t).1 then .closed t else .nothing) (r.closeTab t).2 := by
  show Change r (if (r.get? t).isSome then .closed t else .nothing) (r.put t none)
  cases h : r.get? t with
  | some tab => exact .closed h
  | none =>
    rw [put_none_of_get?_eq_none h]
    exact .nothing

/-- A submission that is taken changes its tab. -/
theorem change_of_submit {query : String} {ticket : Ticket}
    (h : r.submit t query = .ok (ticket, r')) : Change r (.submitted ticket query) r' := by
  unfold submit at h
  split at h
  · next htab =>
    cases h
    exact .submitted htab query
  · cases h

/-- A selection that is taken changes its tab. -/
theorem change_of_selectSchema {schema : Option Schema} (h : r.selectSchema t schema = .ok r') :
    Change r (.selected t schema) r' := by
  unfold selectSchema at h
  split at h
  · next htab =>
    cases h
    exact .selected htab schema
  · cases h

/-- **What one request can do.** The cases are those of `Change`; that nothing
else can happen is what every later proof rests on. -/
theorem Workspace.perform_change (w : Workspace) (q : Request) :
    Change w.registry (w.perform q).1 (w.perform q).2.registry := by
  cases q with
  | openTab => exact .opened
  | closeTab t => exact change_closeTab w.registry t
  | submit t query =>
    unfold perform
    dsimp only
    split
    · next h => exact change_of_submit h
    · exact .nothing
  | finish ticket answer => exact change_deliver w.registry ticket _
  | selectSchema t schema =>
    unfold perform
    dsimp only
    split
    · next h => exact change_of_selectSchema h
    · exact .nothing
  | beginRun t query =>
    unfold perform
    dsimp only
    split
    · next h => exact change_of_submit h
    · exact .nothing
  | endRun i answer =>
    unfold perform
    dsimp only
    split
    · next ticket _ => exact change_deliver w.registry ticket _
    · exact .nothing

/-- What an event makes of the state of a tab. -/
def Event.act (t : TabId) : Event → Option Tab → Option Tab
  | .opened t', x => if t' = t then some {} else x
  | .closed t', x => if t' = t then none else x
  | .submitted ticket query, x =>
    if ticket.tab = t then x.map fun tab => { tab with query, generation := tab.generation + 1 } else x
  | .selected t' schema, x => if t' = t then x.map fun tab => { tab with schema } else x
  | .delivered ticket o true, x =>
    if ticket.tab = t then x.map fun tab => { tab with last := some o } else x
  | .delivered _ _ false, x => x
  | .nothing, x => x

/-- **One event changes one tab**, and changes it as `act` says. So it is enough
to know the tab before the event. -/
theorem Change.get?_eq (h : Change r e r') (u : TabId) : r'.get? u = e.act u (r.get? u) := by
  cases h with
  | opened => exact get?_openTab
  | closed h => exact get?_put (lt_length_of_get?_eq_some h) none
  | submitted h query =>
    exact get?_put_some h fun tab => { tab with query, generation := tab.generation + 1 }
  | selected h schema => exact get?_put_some h fun tab => { tab with schema }
  | accepted h _ o => exact get?_put_some h fun tab => { tab with last := some o }
  | rejected => rfl
  | nothing => rfl

end

/-! ## What a history says -/

/-- The query that an event submits to a tab. -/
def Event.query? (t : TabId) : Event → Option String
  | .submitted ticket query => if ticket.tab = t then some query else none
  | _ => none

/-- The schema that an event selects for a tab. -/
def Event.schema? (t : TabId) : Event → Option (Option Schema)
  | .selected t' schema => if t' = t then some schema else none
  | _ => none

/-- The outcome that a tab accepts in an event. -/
def Event.outcome? (t : TabId) : Event → Option Outcome
  | .delivered ticket o true => if ticket.tab = t then some o else none
  | _ => none

/-- **What has happened to a registry**, the newest event first, so that one
more event stands at the front. -/
abbrev History := List Event

namespace History

/-- The tab was opened and not closed since. -/
def isOpen (t : TabId) : History → Bool
  | [] => false
  | .opened t' :: h => decide (t' = t) || isOpen t h
  | .closed t' :: h => !decide (t' = t) && isOpen t h
  | _ :: h => isOpen t h

/-- The texts that were submitted to a tab, the newest first. -/
def submissions (t : TabId) (h : History) : List String :=
  h.filterMap (Event.query? t)

/-- The schemas that were selected for a tab, the newest first. -/
def selections (t : TabId) (h : History) : List (Option Schema) :=
  h.filterMap (Event.schema? t)

/-- The outcomes that a tab has accepted, the newest first. -/
def acceptances (t : TabId) (h : History) : List Outcome :=
  h.filterMap (Event.outcome? t)

/-- **The state that the history gives a tab**: the last of each, and how many
were submitted. It is told without a registry, from the events alone. -/
def tab (t : TabId) (h : History) : Tab where
  query := (submissions t h).head?.getD ""
  schema := (selections t h).head?.join
  last := (acceptances t h).head?
  generation := (submissions t h).length

/-- What the history says about a tab: its state, if it is open. -/
def view? (t : TabId) (h : History) : Option Tab :=
  if isOpen t h then some (tab t h) else none

/-- Nothing has ever happened to the tab. -/
structure IsFresh (t : TabId) (h : History) : Prop where
  submissions : submissions t h = []
  selections : selections t h = []
  acceptances : acceptances t h = []

variable {t : TabId} {e : Event} {h : History}

/-- One more event adds its query, if it has one for the tab, in front of the
earlier ones. -/
theorem submissions_cons : submissions t (e :: h) = (e.query? t).toList ++ submissions t h := by
  unfold submissions
  rw [List.filterMap_cons]
  cases e.query? t <;> rfl

/-- One more event adds its schema, if it has one for the tab, in front of the
earlier ones. -/
theorem selections_cons : selections t (e :: h) = (e.schema? t).toList ++ selections t h := by
  unfold selections
  rw [List.filterMap_cons]
  cases e.schema? t <;> rfl

/-- One more event adds its outcome, if it has one for the tab, in front of the
earlier ones. -/
theorem acceptances_cons : acceptances t (e :: h) = (e.outcome? t).toList ++ acceptances t h := by
  unfold acceptances
  rw [List.filterMap_cons]
  cases e.outcome? t <;> rfl

/-- What a history shows of a tab is decided by five facts: the tab is open, and
its four fields are the number of its submissions and the last of its queries,
selections and outcomes. -/
theorem view?_eq_some_iff {x : Tab} : view? t h = some x ↔ isOpen t h = true ∧
    x.generation = (submissions t h).length ∧ x.query = (submissions t h).head?.getD "" ∧
    x.schema = (selections t h).head?.join ∧ x.last = (acceptances t h).head? := by
  unfold view?
  constructor
  · intro hx
    split at hx
    · next hopen =>
      cases hx
      exact ⟨hopen, rfl, rfl, rfl, rfl⟩
    · cases hx
  · rintro ⟨hopen, hgeneration, hquery, hschema, hlast⟩
    rw [if_pos hopen]
    cases x
    exact congrArg some (Tab.mk.injEq .. ▸ ⟨hquery.symm, hschema.symm, hlast.symm, hgeneration.symm⟩)

/-- What one more event adds to the state of a tab. -/
theorem tab_cons : tab t (e :: h) =
    { query := (e.query? t).getD (tab t h).query
      schema := (e.schema? t).getD (tab t h).schema
      last := (e.outcome? t).or (tab t h).last
      generation := (tab t h).generation + (e.query? t).toList.length } := by
  unfold tab
  rw [submissions_cons, selections_cons, acceptances_cons, List.length_append, Nat.add_comm]
  cases e.query? t <;> cases e.schema? t <;> cases e.outcome? t <;> rfl

/-- A tab to which nothing has happened is in the state of a new tab. -/
theorem IsFresh.tab_eq (hf : IsFresh t h) : tab t h = {} := by
  unfold tab
  rw [hf.submissions, hf.selections, hf.acceptances]
  rfl

/-- An event that is not about the tab leaves it untouched. -/
theorem IsFresh.cons (hf : IsFresh t h) (hquery : e.query? t = none) (hschema : e.schema? t = none)
    (houtcome : e.outcome? t = none) : IsFresh t (e :: h) where
  submissions := by rw [submissions_cons, hquery, hf.submissions]; rfl
  selections := by rw [selections_cons, hschema, hf.selections]; rfl
  acceptances := by rw [acceptances_cons, houtcome, hf.acceptances]; rfl

/-- **One more event** changes what the history says about a tab as it changes
the tab, if a tab is fresh when it is opened. -/
theorem view?_cons (hfresh : e = .opened t → IsFresh t h) :
    view? t (e :: h) = e.act t (view? t h) := by
  unfold view?
  rw [tab_cons]
  cases e with
  | opened t' =>
    by_cases ht : t' = t
    · rw [(hfresh (congrArg Event.opened ht)).tab_eq]
      simp [isOpen, Event.act, Event.query?, Event.schema?, Event.outcome?, ht]
    · simp [isOpen, Event.act, Event.query?, Event.schema?, Event.outcome?, ht]
  | closed t' =>
    by_cases ht : t' = t <;>
      simp [isOpen, Event.act, Event.query?, Event.schema?, Event.outcome?, ht]
  | submitted ticket query =>
    by_cases ht : ticket.tab = t <;> cases ho : isOpen t h <;>
      simp [isOpen, Event.act, Event.query?, Event.schema?, Event.outcome?, ht, ho]
  | selected t' schema =>
    by_cases ht : t' = t <;> cases ho : isOpen t h <;>
      simp [isOpen, Event.act, Event.query?, Event.schema?, Event.outcome?, ht, ho]
  | delivered ticket o accepted =>
    by_cases ht : ticket.tab = t <;> cases ho : isOpen t h <;> cases accepted <;>
      simp [isOpen, Event.act, Event.query?, Event.schema?, Event.outcome?, ht, ho]
  | nothing => rfl

end History

/-! ## A registry shows its history -/

open History

section

variable {r r' : Registry} {t : TabId} {e : Event} {h : History} {w : Workspace}

theorem Change.length_le (hc : Change r e r') : r.tabs.length ≤ r'.tabs.length := by
  cases hc with
  | opened =>
    show r.tabs.length ≤ (r.tabs ++ [_]).length
    rw [List.length_append]
    exact Nat.le_add_right _ _
  | closed | submitted | selected | accepted => exact Nat.le_of_eq (length_put _).symm
  | rejected | nothing => exact Nat.le_refl _

/-- A tab is opened at the place behind all others. -/
theorem Change.length_le_of_opened (hc : Change r (.opened t) r') : r.tabs.length ≤ t.index := by
  cases hc
  exact Nat.le_refl _

/-- An open tab is not one that is still to be opened. -/
theorem ne_of_get?_eq_some {u : TabId} {tab : Tab} (h : r.get? t = some tab)
    (hu : r.tabs.length ≤ u.index) : t ≠ u := by
  rintro rfl
  rw [get?_eq_none_of_length_le hu] at h
  cases h

/-- A tab that is still to be opened is fresh. -/
theorem Change.isFresh (hc : Change r e r') (ht : r.tabs.length ≤ t.index) (hf : IsFresh t h) :
    IsFresh t (e :: h) := by
  cases hc with
  | opened | closed | rejected | nothing => exact hf.cons rfl rfl rfl
  | submitted htab query => exact hf.cons (if_neg (ne_of_get?_eq_some htab ht)) rfl rfl
  | selected htab schema => exact hf.cons rfl (if_neg (ne_of_get?_eq_some htab ht)) rfl
  | accepted htab _ o => exact hf.cons rfl rfl (if_neg (ne_of_get?_eq_some htab ht))

/-- **The histories of a registry**, each with the workspace that it leads to:
it begins with no tab, and any request may come next. -/
inductive Reaches : History → Workspace → Prop
  | start : Reaches [] {}
  | step {h : History} {w : Workspace} (hr : Reaches h w) (q : Request) :
    Reaches ((w.perform q).1 :: h) (w.perform q).2

/-- **A run that is under way** was so before, or has just been begun. Its place
among the runs is never given to another one. -/
theorem Workspace.run?_perform (w : Workspace) (q : Request) {i : Nat} {ticket : Ticket}
    (h : (w.perform q).2.run? i = some ticket) :
    w.run? i = some ticket ∨ ∃ query, (w.perform q).1 = .submitted ticket query := by
  cases q with
  | openTab | closeTab t | finish ticket answer => exact .inl h
  | submit t query =>
    unfold perform at h
    dsimp only at h
    split at h <;> exact .inl h
  | selectSchema t schema =>
    unfold perform at h
    dsimp only at h
    split at h <;> exact .inl h
  | beginRun t query =>
    unfold perform at h ⊢
    dsimp only at h ⊢
    cases hsubmit : w.registry.submit t query with
    | error e =>
      rw [hsubmit] at h
      exact .inl h
    | ok issued =>
      rw [hsubmit] at h
      -- the new run has the place behind all others
      have hplace : ((w.runs ++ [some issued.1])[i]?).join = some ticket := h
      rw [List.getElem?_append] at hplace
      split at hplace
      · exact .inl hplace
      · cases hi : i - w.runs.length with
        | zero =>
          rw [hi] at hplace
          cases hplace
          exact .inr ⟨query, rfl⟩
        | succ n =>
          rw [hi] at hplace
          cases hplace
  | endRun j answer =>
    unfold perform at h
    dsimp only at h
    split at h
    · have hplace : ((w.runs.set j none)[i]?).join = some ticket := h
      rw [List.getElem?_set] at hplace
      split at hplace
      · split at hplace <;> cases hplace
      · exact .inl hplace
    · exact .inl h

/-- **Every run that is under way has submitted its query**, and its ticket is
that of the submission. The induction is on the history, whose newest request
may have begun the run. -/
theorem Reaches.exists_submitted (hr : Reaches h w) {i : Nat} {ticket : Ticket}
    (hrun : w.run? i = some ticket) :
    ∃ later query earlier, h = later ++ .submitted ticket query :: earlier := by
  induction hr with
  | start => cases hrun
  | @step h w hr q ih =>
    rcases w.run?_perform q hrun with hrun | ⟨query, he⟩
    · obtain ⟨later, query, earlier, rfl⟩ := ih hrun
      exact ⟨(w.perform q).1 :: later, query, earlier, rfl⟩
    · exact ⟨[], query, h, congrArg (· :: h) he⟩

/-- To a tab that has no place yet, nothing has ever happened. -/
theorem Reaches.isFresh (hr : Reaches h w) (ht : w.registry.tabs.length ≤ t.index) :
    IsFresh t h := by
  induction hr with
  | start => exact ⟨rfl, rfl, rfl⟩
  | @step h w hr q ih =>
    have hc := w.perform_change q
    have ht' : w.registry.tabs.length ≤ t.index := Nat.le_trans hc.length_le ht
    exact hc.isFresh ht' (ih ht')

/-- **A registry shows of every tab what the history says about it**, by
induction on the history. Of tabs that were never opened, it shows nothing. -/
theorem Reaches.get?_eq (hr : Reaches h w) (t : TabId) : w.registry.get? t = view? t h := by
  induction hr with
  | start => rfl
  | @step h w hr q ih =>
    have hc := w.perform_change q
    rw [hc.get?_eq, ih]
    exact (view?_cons fun he => hr.isFresh (he ▸ hc).length_le_of_opened).symm

end

end Registry

end QueryShell
