/-!
# Distinct elements in order

`firstSeen` keeps the first of several equal elements of a list and drops the
others. It reads the list from the front and only appends, so that more elements
at the end do not change what was kept before.

## Main statements

* `mem_firstSeen`: no element is lost.
* `nodup_firstSeen`: no element is there twice.
* `firstSeen_eq_eraseDups`: what is kept are the first occurrences.
* `prefix_foldl_addNew`: elements are only appended.
-/

namespace QueryShell

variable {α : Type} [DecidableEq α]

/-- Appends an element that is not there yet. -/
def addNew (xs : List α) (x : α) : List α :=
  if x ∈ xs then xs else xs ++ [x]

/-- The distinct elements in the order in which they are first seen. -/
def firstSeen (xs : List α) : List α :=
  xs.foldl addNew []

theorem mem_addNew {xs : List α} {x y : α} : y ∈ addNew xs x ↔ y ∈ xs ∨ y = x := by
  unfold addNew
  split
  · next h => exact ⟨Or.inl, fun h' => h'.elim id fun e => e ▸ h⟩
  · simp

theorem nodup_addNew {xs : List α} {x : α} (h : xs.Nodup) : (addNew xs x).Nodup := by
  unfold addNew
  split
  · exact h
  · next hx =>
    refine List.nodup_append.mpr ⟨h, by simp, fun a ha b hb => ?_⟩
    rw [List.mem_singleton.mp hb]
    exact fun e => hx (e ▸ ha)

theorem mem_foldl_addNew {xs ys : List α} {y : α} :
    y ∈ xs.foldl addNew ys ↔ y ∈ ys ∨ y ∈ xs := by
  induction xs generalizing ys with
  | nil => simp
  | cons x xs ih => simp [ih, mem_addNew, or_assoc]

theorem nodup_foldl_addNew {xs ys : List α} (h : ys.Nodup) : (xs.foldl addNew ys).Nodup := by
  induction xs generalizing ys with
  | nil => exact h
  | cons x xs ih => exact ih (nodup_addNew h)

theorem addNew_of_mem {xs : List α} {x : α} (h : x ∈ xs) : addNew xs x = xs :=
  if_pos h

theorem prefix_addNew (xs : List α) (x : α) : xs <+: addNew xs x := by
  unfold addNew
  split
  · exact List.prefix_refl xs
  · exact List.prefix_append xs [x]

theorem prefix_foldl_addNew (xs ys : List α) : ys <+: xs.foldl addNew ys := by
  induction xs generalizing ys with
  | nil => exact List.prefix_refl ys
  | cons x xs ih => exact (prefix_addNew ys x).trans (ih _)

/-- Elements that are there already change nothing. -/
theorem foldl_addNew_of_subset {xs ys : List α} (h : ∀ x ∈ xs, x ∈ ys) : xs.foldl addNew ys = ys := by
  induction xs with
  | nil => rfl
  | cons x xs ih =>
    obtain ⟨hx, hxs⟩ := List.forall_mem_cons.mp h
    rw [List.foldl_cons, addNew_of_mem hx, ih hxs]

/-- Elements that are dropped from a list would be dropped later too. -/
theorem foldl_addNew_foldl (xs ys zs : List α) :
    (xs.foldl addNew zs).foldl addNew ys = xs.foldl addNew (zs.foldl addNew ys) := by
  induction xs generalizing zs with
  | nil => rfl
  | cons x xs ih =>
    rw [List.foldl_cons, List.foldl_cons, ih]
    congr 1
    by_cases hx : x ∈ zs
    · rw [addNew_of_mem hx, addNew_of_mem (mem_foldl_addNew.mpr (.inr hx))]
    · rw [addNew, if_neg hx, List.foldl_append]
      rfl

theorem mem_firstSeen {xs : List α} {y : α} : y ∈ firstSeen xs ↔ y ∈ xs := by
  simp [firstSeen, mem_foldl_addNew]

theorem nodup_firstSeen (xs : List α) : (firstSeen xs).Nodup :=
  nodup_foldl_addNew List.nodup_nil

theorem firstSeen_append (xs ys : List α) :
    firstSeen (xs ++ ys) = ys.foldl addNew (firstSeen xs) :=
  List.foldl_append

/-- The lists may be cleared one by one before they are put together. -/
theorem firstSeen_flatMap_firstSeen {β : Type} (f : β → List α) (bs : List β) :
    firstSeen (bs.flatMap fun b => firstSeen (f b)) = firstSeen (bs.flatMap f) := by
  suffices h : ∀ zs, (bs.flatMap fun b => firstSeen (f b)).foldl addNew zs =
      (bs.flatMap f).foldl addNew zs from h []
  intro zs
  induction bs generalizing zs with
  | nil => rfl
  | cons b bs ih =>
    rw [List.flatMap_cons, List.flatMap_cons, List.foldl_append, List.foldl_append, ih, firstSeen,
      foldl_addNew_foldl]
    rfl

theorem eraseDups_concat (xs : List α) (x : α) :
    (xs ++ [x]).eraseDups = addNew xs.eraseDups x := by
  rw [List.eraseDups_append, addNew]
  by_cases h : x ∈ xs <;> simp [List.removeAll, List.eraseDups_cons, h]

/-- **What is kept are the first occurrences.** -/
theorem firstSeen_eq_eraseDups (xs : List α) : firstSeen xs = xs.eraseDups := by
  suffices h : ∀ ys zs : List α, ys.foldl addNew zs.eraseDups = (zs ++ ys).eraseDups from h xs []
  intro ys
  induction ys with
  | nil => simp
  | cons y ys ih =>
    intro zs
    rw [List.foldl_cons, ← eraseDups_concat, ih, List.append_assoc, List.singleton_append]

end QueryShell
