import Mathlib.Data.Finset.Card
import Mathlib.Data.List.Induction
import QueryShell.Entries

/-!
# What insertions leave

A map that is made by insertions is known from them: its keys are those that
were inserted, each once and in the order of their first insertions, and the
value of a key is that of its last insertion. `Entries.LeftBy` says so. An empty
map is left by no insertions, and one more insertion into a map is one more at
the end of those that it was left by, so that every map that `Entries.ofList`
makes is left by its pairs.

A map with distinct keys is left by its own entries. Where entries are inserted
into another map one after the other, none of them is merged or moved then.

## Main statements

* `Entries.leftBy_ofList`: what any insertions leave.
* `Entries.ofList_of_nodup`: a map is made again from its own entries.
-/

namespace QueryShell.Entries

variable {α : Type} {es : Entries α} {ps : List (String × α)}

/-- The last pair of a list is put in last, on top of all others. -/
theorem ofList_concat (ps : List (String × α)) (p : String × α) :
    ofList (ps ++ [p]) = insert p.1 p.2 (ofList ps) :=
  List.foldl_concat ..

/-! ## The entries -/

/-- An entry behind an insertion is the new one or was there before. -/
theorem mem_insert {key : String} {value : α} {p : String × α} (h : p ∈ insert key value es) :
    p = (key, value) ∨ p ∈ es := by
  induction es with
  | nil => exact .inl (List.mem_singleton.mp h)
  | cons e rest ih =>
    obtain ⟨k, v⟩ := e
    rw [insert] at h
    split at h
    · rcases List.mem_cons.mp h with h | h
      · exact .inl h
      · exact .inr (List.mem_cons_of_mem _ h)
    · rcases List.mem_cons.mp h with h | h
      · exact .inr (h ▸ List.mem_cons_self)
      · exact (ih h).imp_right (List.mem_cons_of_mem _)

/-- A map has no entries but those that were put in. -/
theorem mem_of_mem_ofList {p : String × α} (h : p ∈ ofList ps) : p ∈ ps := by
  induction ps using List.reverseRecOn with
  | nil => exact h
  | append_singleton ps q ih =>
    rw [ofList_concat] at h
    rcases mem_insert h with h | h
    · exact List.mem_append_right ps (List.mem_singleton.mpr h)
    · exact List.mem_append_left [q] (ih h)

theorem insert_of_not_mem {key : String} (h : key ∉ keys es) (value : α) :
    insert key value es = es ++ [(key, value)] := by
  induction es with
  | nil => rfl
  | cons e rest ih =>
    obtain ⟨k, v⟩ := e
    rw [keys_cons, List.mem_cons, not_or] at h
    rw [insert, if_neg (Ne.symm h.1), ih h.2, List.cons_append]

/-- Entries with distinct keys are the map made of them. -/
theorem ofList_of_nodup (h : (keys es).Nodup) : ofList es = es := by
  induction es using List.reverseRecOn with
  | nil => rfl
  | append_singleton es e ih =>
    rw [keys, List.map_append, List.nodup_append] at h
    have hnot : e.1 ∉ keys es := fun hmem => h.2.2 _ hmem _ (by simp) rfl
    rw [ofList_concat, ih h.1, insert_of_not_mem hnot]

/-! ## The insertions -/

/-- **The map is what the insertions leave** that are made one after the other,
beginning with an empty map. -/
structure LeftBy (es : Entries α) (ps : List (String × α)) : Prop where
  /-- No key is there twice. -/
  nodup : (keys es).Nodup
  /-- The keys are those that were inserted. -/
  mem_iff : ∀ k, k ∈ keys es ↔ k ∈ keys ps
  /-- They are in the order of their first insertions. -/
  ordered : (keys es).Pairwise fun k l => (keys ps).idxOf k < (keys ps).idxOf l
  /-- The value of a key is that of its last insertion. -/
  get?_eq : ∀ k, get? k es = ps.reverse.lookup k
  /-- A key that was never inserted has none, and no other. -/
  get?_eq_none_iff : ∀ k, get? k es = none ↔ k ∉ keys ps
  /-- There are as many entries as keys that were inserted. -/
  length_eq : es.length = (keys ps).toFinset.card
  /-- Inserting the entries once more makes the same map. -/
  ofList_eq : ofList es = es

/-- The keys, their order and their values say the rest. -/
theorem leftBy_of (hmem : ∀ k, k ∈ keys es ↔ k ∈ keys ps)
    (hord : (keys es).Pairwise fun k l => (keys ps).idxOf k < (keys ps).idxOf l)
    (hget : ∀ k, get? k es = ps.reverse.lookup k) : LeftBy es ps := by
  have hnodup : (keys es).Nodup := hord.imp fun hlt heq =>
    Nat.ne_of_lt hlt (congrArg (List.idxOf · (keys ps)) heq)
  refine ⟨hnodup, hmem, hord, hget, fun k => ?_, ?_, ofList_of_nodup hnodup⟩
  · rw [hget, List.lookup_eq_none_iff, keys, List.mem_map, not_exists]
    simp only [List.mem_reverse, not_and]
    exact forall₂_congr fun p _ => bne_iff_ne.trans ne_comm
  · have hset : (keys ps).toFinset = (keys es).toFinset := by
      ext k
      rw [List.mem_toFinset, List.mem_toFinset, hmem]
    rw [hset, List.toFinset_card_of_nodup hnodup, keys, List.length_map]

theorem leftBy_nil : LeftBy ([] : Entries α) [] :=
  leftBy_of (fun _ => Iff.rfl) .nil fun _ => rfl

/-- One more insertion does not come before a first one. -/
theorem LeftBy.idxOf_concat (h : LeftBy es ps) {k : String} (hk : k ∈ keys es) (key : String) :
    (keys ps ++ [key]).idxOf k = (keys ps).idxOf k :=
  List.idxOf_append_of_mem ((h.mem_iff k).mp hk)

/-- A new key is inserted for the first time after all others. -/
theorem LeftBy.idxOf_lt_idxOf_new (h : LeftBy es ps) {key : String} (hnew : key ∉ keys es) {k : String}
    (hk : k ∈ keys es) : (keys ps ++ [key]).idxOf k < (keys ps ++ [key]).idxOf key := by
  have hnew' : key ∉ keys ps := fun hmem => hnew ((h.mem_iff key).mpr hmem)
  rw [h.idxOf_concat hk, List.idxOf_append_of_notMem hnew', List.idxOf_cons_self, Nat.add_zero]
  exact List.idxOf_lt_length_of_mem ((h.mem_iff k).mp hk)

/-- **One more insertion** is one more at the end. A key that is there keeps its
place and gets the value; a new key goes behind all others, which is also where
its first insertion is. -/
theorem LeftBy.insert (h : LeftBy es ps) (key : String) (value : α) :
    LeftBy (insert key value es) (ps ++ [(key, value)]) := by
  have hkeys : keys (ps ++ [(key, value)]) = keys ps ++ [key] := List.map_append
  have hold : (keys es).Pairwise fun k l =>
      (keys ps ++ [key]).idxOf k < (keys ps ++ [key]).idxOf l :=
    h.ordered.imp_of_mem fun hk hl hlt => by rwa [h.idxOf_concat hk, h.idxOf_concat hl]
  refine leftBy_of (fun k => ?_) ?_ fun k => ?_
  · rw [keys_insert, hkeys, List.mem_append, List.mem_singleton, ← h.mem_iff]
    split
    · next hmem => exact ⟨.inl, fun hk => hk.elim id fun e => e ▸ hmem⟩
    · rw [List.mem_append, List.mem_singleton]
  · rw [keys_insert, hkeys]
    split
    · exact hold
    · next hnew =>
      refine List.pairwise_append.mpr ⟨hold, List.pairwise_singleton _ _, fun k hk l hl => ?_⟩
      rw [List.mem_singleton.mp hl]
      exact h.idxOf_lt_idxOf_new hnew hk
  · rw [get?_insert, h.get?_eq, List.reverse_append, List.reverse_singleton, List.singleton_append,
      List.lookup_cons]
    by_cases hk : k = key
    · simp [hk]
    · simp [hk, beq_false_of_ne hk]

/-- **What any insertions leave**, whatever keys are repeated among them. The
induction is on the list from its end, where the last insertion is. -/
theorem leftBy_ofList (ps : List (String × α)) : LeftBy (ofList ps) ps := by
  induction ps using List.reverseRecOn with
  | nil => exact leftBy_nil
  | append_singleton ps p ih =>
    rw [ofList_concat]
    exact ih.insert p.1 p.2

end QueryShell.Entries
