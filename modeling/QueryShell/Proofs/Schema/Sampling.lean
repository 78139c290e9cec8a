import Mathlib.Data.List.Perm.Basic
import QueryShell.Proofs.Schema.Collector

/-!
# Sampling more documents

A schema is inferred from samples, and the more samples there are, the more
fields it has. Since the walk through the samples only appends
(`prefix_foldl_addNew`), no field changes its place when a sample is added
behind the others, so what was completed from fewer samples is still there and
in the same order. A sample that was seen before adds nothing.

Every sample could as well be walked through on its own: putting the paths of
the single documents together and dropping what is repeated gives the same
fields (`fields_infer`). So it does not matter in which order the samples are
drawn, other than for the order of the fields.

## Main statements

* `Schema.fields_infer`: the fields of several samples are those of each.
* `Schema.fields_infer_append`: what more samples add.
* `Schema.infer_appends`: the laws of sampling.
-/

namespace QueryShell.Schema

open Document

variable {collection : String}

/-- **The fields of several samples** are those of each of them, one sample
after the other, with repetitions left out. -/
theorem fields_infer (collection : String) (ds : List Document) :
    (infer collection ds).fields = firstSeen (ds.flatMap paths) :=
  (firstSeen_flatMap_firstSeen (pathsBelow "") ds).symm

/-- A field is inferred iff some sampled document has it as a path. -/
theorem mem_fields_infer {ds : List Document} {p : String} :
    p ∈ (infer collection ds).fields ↔ ∃ d ∈ ds, p ∈ paths d := by
  rw [fields_infer, mem_firstSeen, List.mem_flatMap]

/-- **More samples** append the fields that are new. What was inferred before is
never moved. -/
theorem fields_infer_append (ds ds' : List Document) :
    (infer collection (ds ++ ds')).fields =
      (ds'.flatMap (pathsBelow "")).foldl addNew (infer collection ds).fields := by
  rw [infer, infer, pathsOfAll, List.flatMap_append, firstSeen_append, pathsOfAll]

theorem nodup_fields_infer (ds : List Document) : (infer collection ds).fields.Nodup :=
  nodup_firstSeen _

/-- A sample that was seen before adds nothing. -/
theorem infer_concat_of_mem {ds : List Document} {d : Document} (h : d ∈ ds) :
    infer collection (ds ++ [d]) = infer collection ds := by
  refine congrArg (Schema.mk collection) ?_
  show (infer collection (ds ++ [d])).fields = (infer collection ds).fields
  rw [fields_infer_append]
  refine foldl_addNew_of_subset fun p hp => ?_
  rw [List.flatMap_singleton] at hp
  exact mem_fields_infer.mpr ⟨d, h, mem_firstSeen.mpr hp⟩

/-- The order of the samples matters for the order of the fields only. -/
theorem fields_infer_perm {ds ds' : List Document} (h : ds'.Perm ds) :
    (infer collection ds').fields.Perm (infer collection ds).fields := by
  refine (List.perm_ext_iff_of_nodup (nodup_fields_infer ds') (nodup_fields_infer ds)).mpr fun p => ?_
  simp only [mem_fields_infer, h.mem_iff]

/-- **Sampling more documents only appends.** The fields of some samples are the
first occurrences among the paths of the single documents, which one walk with
one set and one list collects as well. None of them is there twice, the fields
of the first of the samples are the first of the fields, a sample that was seen
before changes nothing, and other than for their order the fields do not depend
on the order of the samples. -/
theorem infer_appends (collection : String) (ds : List Document) :
    (infer collection ds).fields = (ds.flatMap paths).eraseDups ∧
    (infer collection ds).fields = (Collector.ofDocuments ds).paths ∧
    (infer collection ds).fields.Nodup ∧
    (∀ ds', ds' <+: ds → (infer collection ds').fields <+: (infer collection ds).fields) ∧
    (∀ d ∈ ds, infer collection (ds ++ [d]) = infer collection ds) ∧
    ∀ ds', ds'.Perm ds → (infer collection ds').fields.Perm (infer collection ds).fields := by
  refine ⟨?_, (Collector.paths_ofDocuments ds).symm, nodup_fields_infer ds, ?_,
    fun d hd => infer_concat_of_mem hd, fun ds' hds => fields_infer_perm hds⟩
  · rw [fields_infer, firstSeen_eq_eraseDups]
  · rintro ds' ⟨rest, rfl⟩
    rw [fields_infer_append]
    exact prefix_foldl_addNew _ _

/-- Two samples with a field `address` each, inside of which they have different
fields. -/
def addresses : List Document :=
  [[("name", .string "a"), ("address", .document [("city", .string "x")])],
    [("name", .string "b"), ("email", .string "e"), ("address", .document [("zip", .string "1")])]]

/-- A second document with one known field, one new field and one new path
inside a known field, a document that is sampled again, and the sample in
reverse. -/
theorem infer_appends_addresses :
    (infer "users" addresses).fields =
      ["name", "address", "address.city", "email", "address.zip"] ∧
    addresses.take 1 <+: addresses ∧
    (infer "users" (addresses.take 1)).fields <+: (infer "users" addresses).fields ∧
    addresses.head (by decide) ∈ addresses ∧
    infer "users" (addresses ++ [addresses.head (by decide)]) = infer "users" addresses ∧
    addresses.reverse.Perm addresses ∧
    (infer "users" addresses.reverse).fields.Perm (infer "users" addresses).fields := by
  obtain ⟨-, -, -, hprefix, hknown, hperm⟩ := infer_appends "users" addresses
  have htake : addresses.take 1 <+: addresses := List.take_prefix 1 addresses
  have hmem : addresses.head (by decide) ∈ addresses := List.head_mem _
  have hreverse : addresses.reverse.Perm addresses := List.reverse_perm addresses
  exact ⟨by decide +kernel, htake, hprefix _ htake, hmem, hknown _ hmem, hreverse, hperm _ hreverse⟩

end QueryShell.Schema
