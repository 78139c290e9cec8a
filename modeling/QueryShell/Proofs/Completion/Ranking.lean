import Mathlib.Data.List.Nodup
import Mathlib.Data.List.Pairwise
import QueryShell.Completion.Suggestion

/-!
# The order of the suggestions

Candidates are ranked by a sort that takes the better fit first and leaves
candidates of one fit in the order of their table, and what is suggested is the
beginning of the ranked list. A sort by a key with a few values only is a
selection: the elements of the least key, then those of the next one, and so on,
each time in the order in which they stood (`mergeSort_eq_flatMap`). Read in
this way the ranking says what comes before what, and in particular that what
has been typed in full comes first and is not cut off.

## Main statements

* `mergeSort_eq_flatMap`: a stable sort by a key is a selection key by key.
* `Completion.Candidate.isTable_forSlot`: which table a slot has.
* `Completion.Candidate.ranked_eq`: the ranked candidates, group by group.
* `Completion.complete_ranks`: what is suggested, in which order.
-/

namespace QueryShell

/-! ## Sorting by a key -/

section

variable {α : Type} {l : List α}

/-- Comparison by a key is transitive, in the Boolean form in which
`List.mergeSort` asks for it. -/
theorem decide_key_trans (k : α → Nat) (x y z : α) (hxy : decide (k x ≤ k y) = true)
    (hyz : decide (k y ≤ k z) = true) : decide (k x ≤ k z) = true :=
  decide_eq_true (Nat.le_trans (of_decide_eq_true hxy) (of_decide_eq_true hyz))

/-- Comparison by a key is total, in the Boolean form in which `List.mergeSort`
asks for it. -/
theorem decide_key_total (k : α → Nat) (x y : α) :
    (decide (k x ≤ k y) || decide (k y ≤ k x)) = true := by
  simpa using Nat.le_total (k x) (k y)

/-- Sorting by a key leaves the elements of one key as they stood. -/
theorem filter_mergeSort (k : α → Nat) (l : List α) (i : Nat) :
    (l.mergeSort fun x y => decide (k x ≤ k y)).filter (k · = i) = l.filter (k · = i) := by
  have hone : (l.filter (k · = i)).Pairwise fun x y => decide (k x ≤ k y) = true := by
    refine List.pairwise_of_forall_mem_list fun x hx y hy => decide_eq_true (Nat.le_of_eq ?_)
    rw [of_decide_eq_true (List.mem_filter.mp hx).2, of_decide_eq_true (List.mem_filter.mp hy).2]
  -- they are still there in their order, and there are no more of them
  have hsub := (List.sublist_mergeSort (decide_key_trans k) (decide_key_total k) hone
    List.filter_sublist).filter (k · = i)
  rw [List.filter_filter] at hsub
  simp only [Bool.and_self] at hsub
  exact (hsub.eq_of_length (((List.mergeSort_perm _ _).filter _).length_eq.symm)).symm

/-- In a list that is sorted by a key, what has the greatest key stands at
the end. -/
theorem filter_lt_append_filter_eq {k : α → Nat} {n : Nat} (h : l.Pairwise fun x y => k x ≤ k y)
    (hn : ∀ x ∈ l, k x ≤ n) : l.filter (k · < n) ++ l.filter (k · = n) = l := by
  induction l with
  | nil => rfl
  | cons x l ih =>
    obtain ⟨hx, hl⟩ := List.pairwise_cons.mp h
    obtain ⟨hxn, hln⟩ := List.forall_mem_cons.mp hn
    rcases Nat.lt_or_eq_of_le hxn with hlt | heq
    · rw [List.filter_cons_of_pos (by simpa using hlt),
        List.filter_cons_of_neg (by simpa using Nat.ne_of_lt hlt), List.cons_append, ih hl hln]
    · have hrest : ∀ y ∈ l, k y = n := fun y hy => Nat.le_antisymm (hln y hy) (heq ▸ hx y hy)
      have hfront : l.filter (k · < n) = [] := List.filter_eq_nil_iff.mpr fun y hy => by
        simp [hrest y hy]
      rw [hfront, List.nil_append] at ih
      rw [List.filter_cons_of_neg (by simp [heq]), List.filter_cons_of_pos (by simpa using heq), hfront,
        List.nil_append, ih hl hln]

/-- A list that is sorted by a key is made of the elements of each key in
turn. -/
theorem eq_flatMap_filter_of_pairwise {k : α → Nat} {n : Nat} (h : l.Pairwise fun x y => k x ≤ k y)
    (hn : ∀ x ∈ l, k x < n) : l = (List.range n).flatMap fun i => l.filter (k · = i) := by
  induction n generalizing l with
  | zero => exact List.eq_nil_iff_forall_not_mem.mpr fun x hx => absurd (hn x hx) (Nat.not_lt_zero _)
  | succ n ih =>
    have hbefore := ih (h.filter (k · < n)) fun x hx => of_decide_eq_true (List.mem_filter.mp hx).2
    have hgroup : ∀ i ∈ List.range n,
        (l.filter (k · < n)).filter (k · = i) = l.filter (k · = i) := by
      intro i hi
      rw [List.filter_filter]
      refine List.filter_congr fun x _ => ?_
      have hlt := List.mem_range.mp hi
      by_cases hx : k x = i <;> simp [hx, hlt]
    rw [List.flatMap_congr hgroup] at hbefore
    rw [List.range_succ, List.flatMap_append, ← hbefore, List.flatMap_singleton]
    exact (filter_lt_append_filter_eq h fun x hx => Nat.le_of_lt_succ (hn x hx)).symm

/-- **A stable sort by a key is a selection**, key by key. With three keys this
is the order of the suggestions, told without a sort. -/
theorem mergeSort_eq_flatMap {k : α → Nat} {n : Nat} (hn : ∀ x ∈ l, k x < n) :
    (l.mergeSort fun x y => decide (k x ≤ k y)) =
      (List.range n).flatMap fun i => l.filter (k · = i) := by
  have hsorted : (l.mergeSort fun x y => decide (k x ≤ k y)).Pairwise fun x y => k x ≤ k y :=
    (List.pairwise_mergeSort (decide_key_trans k) (decide_key_total k) l).imp of_decide_eq_true
  rw [eq_flatMap_filter_of_pairwise hsorted fun x hx => hn x (List.mem_mergeSort.mp hx)]
  exact List.flatMap_congr fun i _ => filter_mergeSort k l i

end

namespace Completion

open Text

/-! ## The fits -/

/-- **The label begins with what has been typed if case is ignored.** Both are
lowered as whole texts, and not character by character, which makes a difference
for a final sigma. -/
def BeginsFolded (typed : List Char) (label : String) : Prop :=
  (lower (String.ofList typed)).toList <+: (lower label).toList

instance (typed : List Char) (label : String) : Decidable (BeginsFolded typed label) :=
  inferInstanceAs (Decidable (_ <+: _))

namespace Candidate

variable {typed : List Char} {label : String} {cs : List Candidate} {x : Candidate}

/-- A candidate fits exactly when what was typed is its whole label. -/
theorem fit?_eq_exact_iff : fit? typed label = some .exact ↔ label.toList = typed := by
  unfold fit?
  split_ifs <;> simp_all

/-- A candidate fits at its beginning when its label begins with what was typed
and goes on after it. -/
theorem fit?_eq_initial_iff :
    fit? typed label = some .initial ↔ label.toList ≠ typed ∧ typed <+: label.toList := by
  unfold fit?
  split_ifs <;> simp_all

/-- A candidate fits up to case when only the lowered label begins with what was
typed in lower case. -/
theorem fit?_eq_folded_iff :
    fit? typed label = some .folded ↔ ¬typed <+: label.toList ∧ BeginsFolded typed label := by
  unfold fit? BeginsFolded
  split_ifs <;> simp_all

/-- A candidate fits in some way iff its label begins with what was typed, as it
stands or up to case. -/
theorem isSome_fit?_iff :
    (fit? typed label).isSome = true ↔ typed <+: label.toList ∨ BeginsFolded typed label := by
  unfold fit? BeginsFolded
  split_ifs <;> simp_all

theorem Fit.rank_lt (f : Fit) : f.rank < 3 := by
  cases f <;> decide

/-- Two ways of fitting have two ranks, so that a block of one rank is a block
of one fit. -/
theorem Fit.rank_inj {f g : Fit} : f.rank = g.rank → f = g := by
  cases f <;> cases g <;> decide

/-- The candidates that fit, each behind its fit, in the order of the table. -/
def fitting (typed : List Char) (cs : List Candidate) : List (Fit × Candidate) :=
  cs.filterMap fun c => (fit? typed c.label).map fun f => (f, c)

/-- Forgetting how they fit, the fitting candidates are the candidates that fit,
in their order. -/
theorem map_snd_fitting (typed : List Char) (cs : List Candidate) :
    (fitting typed cs).map Prod.snd = cs.filter fun c => (fit? typed c.label).isSome := by
  induction cs with
  | nil => rfl
  | cons c cs ih =>
    rw [fitting] at ih ⊢
    cases hfit : fit? typed c.label with
    | none => simp [hfit, ih]
    | some f => simp [hfit, ih]

/-- The fitting candidates of one rank are the candidates with that fit, in
their order. -/
theorem map_snd_filter_fitting (typed : List Char) (cs : List Candidate) (f : Fit) :
    ((fitting typed cs).filter (·.1.rank = f.rank)).map Prod.snd =
      cs.filter fun c => fit? typed c.label = some f := by
  induction cs with
  | nil => rfl
  | cons c cs ih =>
    rw [fitting] at ih ⊢
    cases hfit : fit? typed c.label with
    | none => simp [hfit, ih]
    | some g =>
      by_cases hg : g = f
      · simp [hfit, hg, ih]
      · have hrank : g.rank ≠ f.rank := fun h => hg (Fit.rank_inj h)
        simp [hfit, hg, hrank, ih]

/-! ## The ranked candidates -/

/-- Where something was typed, ranking sorts the fitting candidates by the rank
of their fit. (Where nothing was typed, all candidates are kept as they
come.) -/
theorem ranked_of_ne_nil (htyped : typed ≠ []) (cs : List Candidate) : ranked typed cs =
    ((fitting typed cs).mergeSort fun x y => decide (x.1.rank ≤ y.1.rank)).map Prod.snd := by
  rw [ranked, if_neg (by simpa using htyped), fitting]

/-- **The ranked candidates**: those that have been typed in full, then those
that begin with what has been typed, then those that do if case is ignored, and
in each group the order of the table. -/
theorem ranked_eq (htyped : typed ≠ []) (cs : List Candidate) : ranked typed cs =
    cs.filter (fun x => x.label.toList = typed) ++
      cs.filter (fun x => x.label.toList ≠ typed ∧ typed <+: x.label.toList) ++
      cs.filter (fun x => ¬typed <+: x.label.toList ∧ BeginsFolded typed x.label) := by
  have hgroups := mergeSort_eq_flatMap (k := fun y : Fit × Candidate => y.1.rank)
    fun y (_ : y ∈ fitting typed cs) => y.1.rank_lt
  have hexact := map_snd_filter_fitting typed cs .exact
  have hinitial := map_snd_filter_fitting typed cs .initial
  have hfolded := map_snd_filter_fitting typed cs .folded
  simp only [fit?_eq_exact_iff] at hexact
  simp only [fit?_eq_initial_iff] at hinitial
  simp only [fit?_eq_folded_iff] at hfolded
  rw [ranked_of_ne_nil htyped, hgroups, ← hexact, ← hinitial, ← hfolded, ← List.map_append,
    ← List.map_append, show List.range 3 = [0] ++ [1] ++ [2] from rfl, List.flatMap_append,
    List.flatMap_append, List.flatMap_singleton, List.flatMap_singleton, List.flatMap_singleton]
  rfl

/-- No candidate that fits is lost, and none is repeated. -/
theorem ranked_perm (typed : List Char) (cs : List Candidate) : (ranked typed cs).Perm
    (cs.filter fun x => typed <+: x.label.toList ∨ BeginsFolded typed x.label) := by
  by_cases htyped : typed = []
  · have hall : ∀ x ∈ cs, decide (typed <+: x.label.toList ∨ BeginsFolded typed x.label) = true :=
      fun x _ => decide_eq_true (.inl (htyped ▸ List.nil_prefix))
    rw [ranked, if_pos (by simpa using htyped), List.filter_eq_self.mpr hall]
  · have hfits : (fun x : Candidate => decide (typed <+: x.label.toList ∨ BeginsFolded typed x.label)) =
        fun x => (fit? typed x.label).isSome := by
      funext x
      rw [Bool.eq_iff_iff, decide_eq_true_iff, isSome_fit?_iff]
    rw [ranked_of_ne_nil htyped, hfits, ← map_snd_fitting]
    exact (List.mergeSort_perm _ _).map Prod.snd

/-- Ranking keeps a candidate iff it is there and its label begins with what was
typed, as it stands or up to case. It neither adds a candidate nor loses one. -/
theorem mem_ranked_iff : x ∈ ranked typed cs ↔
    x ∈ cs ∧ (typed <+: x.label.toList ∨ BeginsFolded typed x.label) := by
  rw [(ranked_perm typed cs).mem_iff, List.mem_filter, decide_eq_true_iff]

/-! ## Tables -/

/-- **The table of a slot.** Collections are offered as they are listed.
Operations, modifiers and stages have a table each. For an operator there are
those of queries and, behind them, the accumulators. The fields are those that
the schema has, in its order, and without a schema there are none. -/
inductive IsTable (collections : List String) (schema : Option Schema) : Slot → List Candidate → Prop
  | collection : IsTable collections schema .collection (collections.map ofCollection)
  | method : IsTable collections schema .method (Entry.methods.map (ofEntry .method))
  | modifier : IsTable collections schema .modifier (Entry.modifiers.map (ofEntry .method))
  | stage :
    IsTable collections schema .stage (Entry.aggregationStages.map (ofEntry .aggregationStage))
  | operator : IsTable collections schema .operator
    (Entry.queryOperators.map (ofEntry .queryOperator) ++ Entry.accumulators.map ofAccumulator)
  | fields {reference : Bool} {s : Schema} (h : schema = some s) :
    IsTable collections schema (.field reference) (s.fields.map (ofField s.collection reference))
  | noFields {reference : Bool} (h : schema = none) :
    IsTable collections schema (.field reference) []

/-- Whatever slot there is, what fits into it is its table. -/
theorem isTable_forSlot (collections : List String) (schema : Option Schema) (slot : Slot) :
    IsTable collections schema slot (forSlot collections schema slot) := by
  cases slot with
  | collection => exact .collection
  | method => exact .method
  | modifier => exact .modifier
  | stage => exact .stage
  | operator => exact .operator
  | field reference =>
    cases schema with
    | none => exact .noFields rfl
    | some s => exact .fields rfl

/-- The candidates of a table are told apart by their labels. -/
theorem IsTable.eq_of_label_eq {collections : List String} {schema : Option Schema} {slot : Slot}
    {table : List Candidate} (ht : IsTable collections schema slot table) {x y : Candidate}
    (hx : x ∈ table) (hy : y ∈ table) (h : x.label = y.label) : x = y := by
  have hnodup : ∀ cs : List Candidate, (cs.map Candidate.label).Nodup → x ∈ cs → y ∈ cs → x = y :=
    fun cs hcs hx hy => List.inj_on_of_nodup_map hcs hx hy h
  cases ht with
  | collection =>
    obtain ⟨name, -, rfl⟩ := List.mem_map.mp hx
    obtain ⟨name', -, rfl⟩ := List.mem_map.mp hy
    exact congrArg ofCollection h
  | method | modifier | stage | operator => exact hnodup _ (by decide) hx hy
  | fields =>
    obtain ⟨path, -, rfl⟩ := List.mem_map.mp hx
    obtain ⟨path', -, rfl⟩ := List.mem_map.mp hy
    exact congrArg (ofField _ _) h
  | noFields => cases hx

end Candidate

/-- **What has been typed in full is not cut off**, as long as anything is
suggested at all. It is ranked first, and two candidates of one table that have
the same label are the same. -/
theorem mem_take_candidates {e : Completer} {schema : Option Schema} {c : Context} {x : Candidate}
    (htyped : c.typed ≠ []) (hx : x ∈ Candidate.forSlot e.collections schema c.slot)
    (hlabel : x.label.toList = c.typed) {m : Nat} (hm : 0 < m) :
    x ∈ (e.candidates schema c).take m := by
  have hfilter : x ∈ (Candidate.forSlot e.collections schema c.slot).filter
      (fun y => y.label.toList = c.typed) :=
    List.mem_filter.mpr ⟨hx, decide_eq_true hlabel⟩
  rw [Completer.candidates, Candidate.ranked_eq htyped]
  -- the first of the candidates with this label is `x`
  obtain ⟨y, ys, hys⟩ := List.exists_cons_of_ne_nil (List.ne_nil_of_mem hfilter)
  have hy := List.mem_filter.mp (hys ▸ List.mem_cons_self : y ∈ _)
  have hxy : x = y := (Candidate.isTable_forSlot ..).eq_of_label_eq hx hy.1
    (String.toList_injective (hlabel.trans (of_decide_eq_true hy.2).symm))
  obtain ⟨n, rfl⟩ := Nat.exists_eq_succ_of_ne_zero (Nat.ne_of_gt hm)
  rw [hys, hxy]
  exact List.mem_cons_self

/-- **What is suggested, in which order.** What fits a context is the table of
its slot. It is ranked, and the beginning of the ranked list is suggested. With
nothing typed the ranked list is the table. Otherwise it begins with what has
been typed in full, then has the candidates that begin with what has been typed,
and then those that do if case is ignored; each candidate that fits is there
once, in the first group that it belongs to, and the groups are in the order of
the table. -/
theorem complete_ranks (e : Completer) (schema : Option Schema) (c : Context) :
    let table := Candidate.forSlot e.collections schema c.slot
    Candidate.IsTable e.collections schema c.slot table ∧
    (∀ text cursor, contextOf (takeBytes cursor text) schema.isSome = some c →
      (e.complete text cursor schema).map Suggestion.candidate =
        (e.candidates schema c).take e.maxSuggestions) ∧
    (c.typed = [] → e.candidates schema c = table) ∧
    (c.typed ≠ [] →
      e.candidates schema c =
        table.filter (fun x => x.label.toList = c.typed) ++
          table.filter (fun x => x.label.toList ≠ c.typed ∧ c.typed <+: x.label.toList) ++
          table.filter (fun x => ¬c.typed <+: x.label.toList ∧ BeginsFolded c.typed x.label) ∧
      (e.candidates schema c).Perm
        (table.filter fun x => c.typed <+: x.label.toList ∨ BeginsFolded c.typed x.label) ∧
      ∀ x ∈ table, x.label.toList = c.typed → 0 < e.maxSuggestions →
        x ∈ (e.candidates schema c).take e.maxSuggestions) := by
  intro table
  refine ⟨Candidate.isTable_forSlot .., fun text cursor hc => ?_, fun htyped => ?_, fun htyped =>
    ⟨Candidate.ranked_eq htyped table, Candidate.ranked_perm c.typed table,
      fun x hx hlabel hm => mem_take_candidates htyped hx hlabel hm⟩⟩
  · rw [Completer.map_candidate_complete, hc]
  · rw [Completer.candidates, Candidate.ranked, if_pos (by simpa using htyped)]

/-- A name typed in full that begins another one as well, and one more if case
is ignored, where two are suggested at most: the third is cut off. -/
theorem complete_ranks_users :
    let e : Completer := ⟨["Users2", "users_archive", "orders", "users"], 2⟩
    contextOf (takeBytes 8 "db.users".toList) false = some ⟨.collection, "users".toList⟩ ∧
      e.candidates none ⟨.collection, "users".toList⟩ =
        [.ofCollection "users", .ofCollection "users_archive", .ofCollection "Users2"] ∧
      (e.complete "db.users".toList 8 none).map Suggestion.candidate =
        [.ofCollection "users", .ofCollection "users_archive"] ∧
      Candidate.ofCollection "users" ∈
        (e.candidates none ⟨.collection, "users".toList⟩).take e.maxSuggestions := by
  intro e
  have hc : contextOf (takeBytes 8 "db.users".toList) false = some ⟨.collection, "users".toList⟩ := by
    decide +kernel
  obtain ⟨-, hsuggested, -, htyped⟩ := complete_ranks e none ⟨.collection, "users".toList⟩
  obtain ⟨horder, -, hexact⟩ := htyped (by decide)
  have hcandidates : e.candidates none ⟨.collection, "users".toList⟩ =
      [.ofCollection "users", .ofCollection "users_archive", .ofCollection "Users2"] := by
    rw [horder]
    decide +kernel
  refine ⟨hc, hcandidates, ?_, hexact (.ofCollection "users") (by decide) (by decide) (by decide)⟩
  rw [hsuggested "db.users".toList 8 hc, hcandidates]
  rfl

end Completion

end QueryShell
