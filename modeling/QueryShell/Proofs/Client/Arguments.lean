import Mathlib.Data.List.Forall2
import QueryShell.Proofs.Client.Recording
import QueryShell.Proofs.Outcome

/-!
# Which arguments an operation takes

Every operation has a shape that its arguments must have: so many of them, each
an object, an array of objects, or a name. `Request.HasShape` says for each
operation which shape this is. The arguments are looked at one after the
other, by a few helpers that the operations share, and a request is only made
when all of them are right.

What is made is a request and not yet a call. So the client hears nothing of
arguments of another shape, and an operation that writes has not written half of
anything when its arguments are refused.

## Main statements

* `Request.exists_read_iff`: a request is made just of arguments of the right
  shape.
* `Client.invoke_checks_first`: no client is asked anything before the arguments
  are known to be right.
-/

namespace QueryShell

open List (Forall₂)

/-! ## Shapes -/

namespace Literal

/-- The literal is an object, which makes the document. -/
inductive Denotes : Literal → Document → Prop
  | object (entries : List (String × Literal)) : Denotes (.object entries) (toDocument entries)

/-- The literal is an object. -/
def IsObject (v : Literal) : Prop := ∃ d, v.Denotes d

/-- An array of objects. -/
def IsObjects (v : Literal) : Prop := ∃ items, v = .array items ∧ ∀ x ∈ items, x.IsObject

theorem isObject_object (entries : List (String × Literal)) : IsObject (object entries) :=
  ⟨_, .object entries⟩

theorem isObject_iff {v : Literal} : v.IsObject ↔ ∃ entries, v = object entries := by
  constructor
  · rintro ⟨_, ⟨entries⟩⟩
    exact ⟨entries, rfl⟩
  · rintro ⟨entries, rfl⟩
    exact isObject_object entries

/-- An array is no object, so that the two forms of an update and of a pipeline
are told apart. -/
theorem not_isObject_array (items : List Literal) : ¬IsObject (array items) := by
  rintro ⟨_, ⟨⟩⟩

/-- Literals make documents exactly if each of them is an object. -/
theorem exists_forall₂_denotes_iff {xs : List Literal} :
    (∃ ds, Forall₂ Denotes xs ds) ↔ ∀ x ∈ xs, x.IsObject := by
  induction xs with
  | nil => simp
  | cons x xs ih =>
    rw [List.forall_mem_cons, ← ih]
    constructor
    · rintro ⟨_, h⟩
      obtain ⟨d, ds, hd, hds, -⟩ := List.forall₂_cons_left_iff.mp h
      exact ⟨⟨d, hd⟩, ds, hds⟩
    · rintro ⟨⟨_, hd⟩, _, hds⟩
      exact ⟨_, .cons hd hds⟩

end Literal

namespace Request

/-- No more than `n` arguments, each an object. -/
def AtMostObjects (n : Nat) (args : List Literal) : Prop :=
  args.length ≤ n ∧ ∀ x ∈ args, x.IsObject

/-- **The shape of the arguments that an operation takes.** It is said of the
list of arguments alone, without a reader: how many there may be, which of them
have to be objects, and what a pipeline, an update and the name of a field look
like. -/
def HasShape : Operation → List Literal → Prop
  | .find, args | .findOne, args => AtMostObjects 2 args
  | .insertOne, args | .deleteOne, args | .deleteMany, args => ∃ d, args = [d] ∧ d.IsObject
  | .insertMany, args => ∃ ds, args = [.array ds] ∧ ds ≠ [] ∧ ∀ d ∈ ds, d.IsObject
  | .updateOne, args | .updateMany, args =>
    ∃ filter change options, args = filter :: change :: options ∧ filter.IsObject ∧
      (change.IsObject ∨ change.IsObjects) ∧ AtMostObjects 1 options
  | .aggregate, args =>
    args = [] ∨
      (∃ stages options, args = stages :: options ∧ stages.IsObjects ∧ AtMostObjects 1 options) ∨
        ∀ stage ∈ args, stage.IsObject
  | .countDocuments, args => AtMostObjects 1 args
  | .distinct, args => ∃ field options, args = .string field :: options ∧ AtMostObjects 1 options

/-! ## Arguments by their position -/

section

variable {what : String} {args : List Literal}

/-- A check in front of a step that it does not change. -/
theorem exists_bind_eq_ok_iff {ε α β : Type} {x : Except ε α} {next : α → Except ε β} {p : Prop}
    (h : ∀ a, (∃ b, next a = .ok b) ↔ p) :
    (∃ b, x >>= next = .ok b) ↔ (∃ a, x = .ok a) ∧ p := by
  cases x with
  | error e => simp [bind, Except.bind]
  | ok a => simpa [bind, Except.bind] using h a

theorem exists_ok_iff {ε α : Type} {a : α} : (∃ b, (.ok a : Except ε α) = .ok b) ↔ True := by
  simp

/-- **The number of arguments** is checked from above only; what is missing is
missed by the readers of the arguments. -/
theorem exists_checkArity_iff {n : Nat} : (∃ u, checkArity n args = .ok u) ↔ args.length ≤ n := by
  unfold checkArity
  split <;> simp <;> omega

/-- An argument that may be missing has to be an object where it is there. -/
theorem exists_object?_iff {arg : Option Literal} :
    (∃ d, object? what arg = .ok d) ↔ ∀ x ∈ arg, x.IsObject := by
  cases arg with
  | none => simp [object?]
  | some x => cases x <;> simp [object?, Literal.isObject_iff]

/-- An argument that is needed has to be there and to be an object. -/
theorem exists_object_iff {arg : Option Literal} :
    (∃ d, object what arg = .ok d) ↔ ∃ x ∈ arg, x.IsObject := by
  cases arg with
  | none => simp [object, object?, bind, Except.bind]
  | some x => cases x <;> simp [object, object?, bind, Except.bind, Literal.isObject_iff]

/-- The document of an argument is the one that it denotes. -/
theorem object_eq_ok_iff {x : Literal} {d : Document} :
    object what (some x) = .ok d ↔ x.Denotes d := by
  constructor
  · intro h
    cases x with
    | object entries =>
      cases h
      exact .object entries
    | null | bool | number | string | regex | array => cases h
  · rintro ⟨entries⟩
    rfl

theorem exists_filterOf_iff {arg : Option Literal} :
    (∃ d, filterOf arg = .ok d) ↔ ∀ x ∈ arg, x.IsObject := by
  unfold filterOf
  rw [exists_bind_eq_ok_iff fun _ => exists_ok_iff, exists_object?_iff, and_true]

/-- The documents of an array are those of its items, in order. -/
theorem documentsOf_eq_ok_iff {items : List Literal} {ds : List Document} :
    documentsOf what items = .ok ds ↔ Forall₂ Literal.Denotes items ds := by
  induction items generalizing ds with
  | nil => simp [documentsOf, eq_comm]
  | cons item items ih =>
    by_cases hitem : item.IsObject
    · obtain ⟨entries, rfl⟩ := Literal.isObject_iff.mp hitem
      rw [documentsOf, bind_eq_ok, List.forall₂_cons_left_iff]
      constructor
      · rintro ⟨rest, hrest, h⟩
        cases h
        exact ⟨_, rest, .object entries, ih.mp hrest, rfl⟩
      · rintro ⟨_, rest, ⟨⟩, hrest, rfl⟩
        exact ⟨rest, ih.mpr hrest, rfl⟩
    · have herror : documentsOf what (item :: items) = .error (.notObjects what item) := by
        cases item with
        | object entries => exact absurd (Literal.isObject_object entries) hitem
        | null | bool | number | string | regex | array => rfl
      rw [herror]
      refine ⟨fun h => (nomatch h), fun h => ?_⟩
      obtain ⟨d, _, hd, -⟩ := List.forall₂_cons_left_iff.mp h
      exact absurd ⟨d, hd⟩ hitem

/-- The items of an array make documents exactly if they are objects. -/
theorem exists_documentsOf_iff {items : List Literal} :
    (∃ ds, documentsOf what items = .ok ds) ↔ ∀ x ∈ items, x.IsObject := by
  simp only [documentsOf_eq_ok_iff, Literal.exists_forall₂_denotes_iff]

/-- So are the documents of stages that are arguments of their own. -/
theorem stagesOf_eq_ok_iff {ds : List Document} :
    stagesOf args = .ok ds ↔ Forall₂ Literal.Denotes args ds := by
  induction args generalizing ds with
  | nil => simp [stagesOf, eq_comm]
  | cons arg args ih =>
    rw [stagesOf, bind_eq_ok, List.forall₂_cons_left_iff]
    constructor
    · rintro ⟨d, hd, h⟩
      obtain ⟨rest, hrest, h⟩ := bind_eq_ok.mp h
      cases h
      exact ⟨d, rest, object_eq_ok_iff.mp hd, ih.mp hrest, rfl⟩
    · rintro ⟨d, rest, hd, hrest, rfl⟩
      exact ⟨d, object_eq_ok_iff.mpr hd, bind_eq_ok.mpr ⟨rest, ih.mpr hrest, rfl⟩⟩

/-- An update is an object of operators or an array of stages. -/
theorem exists_updateOf_iff {arg : Option Literal} :
    (∃ u, updateOf arg = .ok u) ↔ ∃ x ∈ arg, x.IsObject ∨ x.IsObjects := by
  cases arg with
  | none => simp [updateOf]
  | some x =>
    cases x with
    | array items =>
      rw [updateOf, exists_bind_eq_ok_iff fun _ => exists_ok_iff, exists_documentsOf_iff]
      simp [Literal.IsObjects, Literal.not_isObject_array]
    | null | bool | number | string | regex | object =>
      simp [updateOf, Literal.isObject_iff, Literal.IsObjects]

/-- An array of documents is an array whose items denote them. -/
theorem documents_eq_ok_iff {arg : Option Literal} {ds : List Document} :
    documents what arg = .ok ds ↔
      ∃ items, arg = some (.array items) ∧ Forall₂ Literal.Denotes items ds := by
  cases arg with
  | none => simp [documents]
  | some x => cases x <;> simp [documents, documentsOf_eq_ok_iff]

/-- The name of a field is a string. -/
theorem exists_fieldName_iff {arg : Option Literal} :
    (∃ s, fieldName arg = .ok s) ↔ ∃ s, arg = some (.string s) := by
  cases arg with
  | none => simp [fieldName]
  | some x => cases x <;> simp [fieldName]

theorem pipelineOf_array (items : List Literal) :
    pipelineOf [.array items] = documentsOf "the pipeline" items := rfl

theorem pipelineOf_of_isObject (h : ∀ x ∈ args, x.IsObject) : pipelineOf args = stagesOf args := by
  unfold pipelineOf
  split
  · next items => exact absurd (h _ List.mem_cons_self) (Literal.not_isObject_array items)
  · next items _ => exact absurd (h _ List.mem_cons_self) (Literal.not_isObject_array items)
  · rfl

/-- **The three forms of a pipeline**: nothing, one array of objects with at
most one object behind it, or objects only. The forms overlap in no other way
than that nothing is also a list of objects. -/
theorem exists_pipelineOf_iff :
    (∃ ds, pipelineOf args = .ok ds) ↔ args = [] ∨
      (∃ stages options, args = stages :: options ∧ stages.IsObjects ∧ AtMostObjects 1 options) ∨
        ∀ stage ∈ args, stage.IsObject := by
  by_cases hargs : ∀ x ∈ args, x.IsObject
  · simp only [pipelineOf_of_isObject hargs, stagesOf_eq_ok_iff, Literal.exists_forall₂_denotes_iff]
    exact iff_of_true hargs (.inr (.inr hargs))
  · have hne : args ≠ [] := fun hnil => hargs (by simp [hnil])
    unfold pipelineOf
    split
    · next items =>
      simp [exists_documentsOf_iff, Literal.IsObjects, AtMostObjects, Literal.not_isObject_array]
    · next items entries =>
      simp [exists_documentsOf_iff, Literal.IsObjects, AtMostObjects, Literal.not_isObject_array,
        Literal.isObject_object]
    · next hone htwo =>
      simp only [stagesOf_eq_ok_iff, Literal.exists_forall₂_denotes_iff]
      refine iff_of_false hargs ?_
      rintro (hnil | ⟨_, options, rfl, ⟨items, rfl, -⟩, hlength, hoptions⟩ | hobjects)
      · exact hne hnil
      · -- an array with at most one object behind it is one of the first two cases
        rcases options with _ | ⟨option, _ | _⟩
        · exact hone items rfl
        · obtain ⟨entries, rfl⟩ := Literal.isObject_iff.mp (hoptions _ List.mem_cons_self)
          exact htwo items entries rfl
        · simp at hlength
      · exact hargs hobjects

end

/-! ## Requests -/

section

variable {o : Operation} {args : List Literal}

/-- At most one object is at most one argument, which is an object where it is
there. -/
theorem atMostObjects_one_iff :
    AtMostObjects 1 args ↔ args.length ≤ 1 ∧ ∀ x ∈ args[0]?, x.IsObject := by
  rcases args with _ | ⟨x, _ | _⟩ <;> simp [AtMostObjects]

/-- At most two objects are at most two arguments, each of which is an
object where it is there. -/
theorem atMostObjects_two_iff :
    AtMostObjects 2 args ↔
      args.length ≤ 2 ∧ (∀ x ∈ args[0]?, x.IsObject) ∧ ∀ x ∈ args[1]?, x.IsObject := by
  rcases args with _ | ⟨x, _ | ⟨y, _ | _⟩⟩ <;> simp [AtMostObjects]

/-- Exactly one argument with a property is at most one, which is there and has
the property. -/
theorem exists_eq_singleton_iff {p : Literal → Prop} :
    (∃ d, args = [d] ∧ p d) ↔ args.length ≤ 1 ∧ ∃ x ∈ args[0]?, p x := by
  rcases args with _ | ⟨x, _ | _⟩ <;> simp

/-- An update has a filter, a change in one of its two forms, and at most one
object of options. -/
theorem exists_updateRequest_iff {scope : Scope} :
    (∃ r, updateRequest scope args = .ok r) ↔
      ∃ filter change options, args = filter :: change :: options ∧ filter.IsObject ∧
        (change.IsObject ∨ change.IsObjects) ∧ AtMostObjects 1 options := by
  rw [updateRequest, exists_bind_eq_ok_iff fun _ => exists_bind_eq_ok_iff fun _ =>
    exists_bind_eq_ok_iff fun _ => exists_bind_eq_ok_iff fun _ => exists_ok_iff,
    exists_checkArity_iff, exists_object_iff, exists_updateOf_iff, exists_object?_iff, and_true]
  rcases args with _ | ⟨filter, _ | ⟨change, options⟩⟩
  · simp
  · simp
  · have harity : (filter :: change :: options).length ≤ 3 ↔ options.length ≤ 1 := by
      rw [List.length_cons, List.length_cons]
      omega
    rw [harity]
    simp [atMostObjects_one_iff, and_left_comm]

theorem exists_deleteRequest_iff {scope : Scope} :
    (∃ r, deleteRequest scope args = .ok r) ↔ ∃ d, args = [d] ∧ d.IsObject := by
  rw [deleteRequest, exists_bind_eq_ok_iff fun _ => exists_bind_eq_ok_iff fun _ => exists_ok_iff,
    exists_checkArity_iff, exists_object_iff, and_true, exists_eq_singleton_iff]

/-- An insertion of several has one array of objects that is not empty. -/
theorem exists_insertMany_iff : (∃ r, read .insertMany args = .ok r) ↔
    ∃ ds, args = [.array ds] ∧ ds ≠ [] ∧ ∀ d ∈ ds, d.IsObject := by
  constructor
  · rintro ⟨r, h⟩
    rw [read] at h
    obtain ⟨_, harity, h⟩ := bind_eq_ok.mp h
    obtain ⟨ds, hds, h⟩ := bind_eq_ok.mp h
    obtain ⟨items, hitems, hdenotes⟩ := documents_eq_ok_iff.mp hds
    obtain ⟨_, rfl, rfl⟩ := exists_eq_singleton_iff.mpr
      ⟨exists_checkArity_iff.mp ⟨_, harity⟩, _, hitems, rfl⟩
    refine ⟨items, rfl, ?_, Literal.exists_forall₂_denotes_iff.mp ⟨ds, hdenotes⟩⟩
    rintro rfl
    cases hdenotes
    cases h
  · rintro ⟨items, rfl, hne, hobjects⟩
    obtain ⟨ds, hdenotes⟩ := Literal.exists_forall₂_denotes_iff.mpr hobjects
    refine ⟨.insertMany ds, ?_⟩
    rw [read]
    refine bind_eq_ok.mpr ⟨(), rfl, bind_eq_ok.mpr
      ⟨ds, documents_eq_ok_iff.mpr ⟨items, rfl, hdenotes⟩, if_neg ?_⟩⟩
    cases hdenotes with
    | nil => exact absurd rfl hne
    | cons => exact Bool.false_ne_true

/-- **A request is made just of arguments of the right shape.** Each operation
is looked at once, and the readers of its single arguments decide it
together. -/
theorem exists_read_iff : (∃ r, read o args = .ok r) ↔ HasShape o args := by
  cases o with
  | find | findOne =>
    rw [read, exists_bind_eq_ok_iff fun _ => exists_bind_eq_ok_iff fun _ =>
      exists_bind_eq_ok_iff fun _ => exists_ok_iff, exists_checkArity_iff, exists_filterOf_iff,
      exists_object?_iff, and_true]
    exact atMostObjects_two_iff.symm
  | insertOne =>
    rw [read, exists_bind_eq_ok_iff fun _ => exists_bind_eq_ok_iff fun _ => exists_ok_iff,
      exists_checkArity_iff, exists_object_iff, and_true]
    exact exists_eq_singleton_iff.symm
  | insertMany => exact exists_insertMany_iff
  | updateOne | updateMany => exact exists_updateRequest_iff
  | deleteOne | deleteMany => exact exists_deleteRequest_iff
  | aggregate =>
    rw [read, exists_bind_eq_ok_iff fun _ => exists_ok_iff, and_true]
    exact exists_pipelineOf_iff
  | countDocuments =>
    rw [read, exists_bind_eq_ok_iff fun _ => exists_bind_eq_ok_iff fun _ => exists_ok_iff,
      exists_checkArity_iff, exists_filterOf_iff, and_true]
    exact atMostObjects_one_iff.symm
  | distinct =>
    rw [read, exists_bind_eq_ok_iff fun _ => exists_bind_eq_ok_iff fun _ =>
      exists_bind_eq_ok_iff fun _ => exists_ok_iff, exists_checkArity_iff, exists_fieldName_iff,
      exists_filterOf_iff, and_true]
    unfold HasShape
    rcases args with _ | ⟨field, options⟩
    · simp
    · rw [List.length_cons, Nat.add_le_add_iff_right]
      simp [atMostObjects_one_iff, and_left_comm]

/-- Arguments of the right shape make a request. -/
theorem exists_ofArgs_of_hasShape (h : HasShape o args) : ∃ r, ofArgs o args = .ok r := by
  obtain ⟨r, hr⟩ := exists_read_iff.mpr h
  exact ⟨r, by rw [ofArgs, hr]⟩

/-- **Arguments of any other shape are refused** as invalid, whichever of the
readers has noticed. No other kind of error can come out of reading
arguments. -/
theorem exists_ofArgs_of_not_hasShape (h : ¬HasShape o args) :
    ∃ e, ofArgs o args = .error e ∧ e.kind = .invalidArgument := by
  cases hread : read o args with
  | ok r => exact absurd (exists_read_iff.mp ⟨r, hread⟩) h
  | error f => exact ⟨_, by rw [ofArgs, hread], rfl⟩

end

end Request

namespace Client

variable {σ : Type} (client : Client σ) {collection : String} {o : Operation} {args : List Literal}

theorem invoke_of_ofArgs_eq_ok {r : Request} (h : Request.ofArgs o args = .ok r) :
    client.invoke collection o args = r.perform client collection := by
  unfold invoke
  rw [h]

/-- Without a request the client is not asked anything. -/
theorem invoke_of_ofArgs_eq_error {e : QueryError} (h : Request.ofArgs o args = .error e) :
    client.invoke collection o args = .failQuery e := by
  unfold invoke
  rw [h]

/-- The pipeline of an aggregation is made of an array of objects or of the
objects themselves. -/
theorem invoke_aggregate {ds : List Document}
    (h : Request.pipelineOf args = .ok ds) :
    client.invoke collection .aggregate args =
      pure (.cursor { collection, source := .aggregate ds }) := by
  have hread : Request.ofArgs .aggregate args = .ok (.aggregate ds) := by
    unfold Request.ofArgs Request.read
    rw [h]
    rfl
  rw [client.invoke_of_ofArgs_eq_ok hread, Request.perform]

/-- **The arguments are checked before anything is asked.** Whatever the client
answers, an operation refuses its arguments by itself, and not with an error of
the client, just if they do not have its shape, and then the client has been
asked nothing. A pipeline is the same as an array and as arguments of their own.
The calls are those that a recorder notes without changing anything. -/
theorem invoke_checks_first (client : Client σ) (collection : String) (s : σ) :
    (∀ (o : Operation) (args : List Literal), ∃ log : List ClientExchange,
      client.recorded.invoke collection o args (s, []) =
        ((client.invoke collection o args s).1, (client.invoke collection o args s).2, log) ∧
      ((∃ e, (client.invoke collection o args s).1 = .error (.query e) ∧
        e.kind = .invalidArgument ∧ ∀ x ∈ log, x.error? ≠ some (.query e)) ↔
          ¬Request.HasShape o args) ∧
      (¬Request.HasShape o args → log = [])) ∧
    ∀ stages : List Literal, (∀ stage ∈ stages, stage.IsObject) →
      ∃ ds, Forall₂ Literal.Denotes stages ds ∧
        client.invoke collection .aggregate [.array stages] =
          pure (.cursor { collection, source := .aggregate ds }) ∧
        client.invoke collection .aggregate stages =
          pure (.cursor { collection, source := .aggregate ds }) := by
  refine ⟨fun o args => ?_, fun stages hstages => ?_⟩
  · by_cases hshape : Request.HasShape o args
    · obtain ⟨r, hr⟩ := Request.exists_ofArgs_of_hasShape hshape
      rw [client.invoke_of_ofArgs_eq_ok hr, client.recorded.invoke_of_ofArgs_eq_ok hr]
      refine ⟨_, r.perform_recorded client collection s [], ?_, fun h => absurd hshape h⟩
      refine iff_of_false ?_ (not_not_intro hshape)
      rintro ⟨e, he, -, hlog⟩
      -- an error of the request is that of its call
      obtain ⟨call, hcall⟩ := Request.exists_call?_of_error he
      refine hlog ⟨call, failure? (r.perform client collection s).1⟩ ?_ ?_
      · rw [hcall]
        exact List.mem_singleton_self _
      · rw [he]
        rfl
    · obtain ⟨e, he, hkind⟩ := Request.exists_ofArgs_of_not_hasShape hshape
      rw [client.invoke_of_ofArgs_eq_error he, client.recorded.invoke_of_ofArgs_eq_error he]
      exact ⟨[], rfl, iff_of_true ⟨e, rfl, hkind, by simp⟩ hshape, fun _ => rfl⟩
  · obtain ⟨ds, hds⟩ := Literal.exists_forall₂_denotes_iff.mpr hstages
    refine ⟨ds, hds, client.invoke_aggregate ?_, client.invoke_aggregate ?_⟩
    · rw [Request.pipelineOf_array, Request.documentsOf_eq_ok_iff]
      exact hds
    · rw [Request.pipelineOf_of_isObject hstages, Request.stagesOf_eq_ok_iff]
      exact hds

/-- An update whose options are no object, and a pipeline of one stage. -/
theorem invoke_checks_first_updateMany :
    (¬Request.HasShape .updateMany [.object [], .array [], .null] ∧
      ∃ log : List ClientExchange,
        idle.recorded.invoke "users" .updateMany [.object [], .array [], .null] ((), []) =
          ((idle.invoke "users" .updateMany [.object [], .array [], .null] ()).1,
            (idle.invoke "users" .updateMany [.object [], .array [], .null] ()).2, log) ∧
        log = []) ∧
    (∀ stage ∈ [Literal.object []], stage.IsObject) ∧
      idle.invoke "users" .aggregate [.array [.object []]] =
        idle.invoke "users" .aggregate [.object []] := by
  have hshape : ¬Request.HasShape .updateMany [.object [], .array [], .null] := by
    rintro ⟨_, _, _, ⟨⟩, -, -, -, hoptions⟩
    obtain ⟨_, ⟨⟩⟩ := hoptions _ List.mem_cons_self
  have hstages : ∀ stage ∈ [Literal.object []], stage.IsObject :=
    List.forall_mem_singleton.mpr (Literal.isObject_object [])
  obtain ⟨hinvoke, hpipeline⟩ := invoke_checks_first idle "users" ()
  obtain ⟨log, hlog, -, hnone⟩ := hinvoke .updateMany [.object [], .array [], .null]
  obtain ⟨ds, -, harray, hobjects⟩ := hpipeline _ hstages
  exact ⟨⟨hshape, log, hlog, hnone hshape⟩, hstages, harray.trans hobjects.symm⟩

end Client

end QueryShell
