import QueryShell.Bson.Json
import QueryShell.Literal.Json
import QueryShell.Proofs.Literal.Document

/-!
# Two ways from a literal to JSON

A literal is shown as JSON in two ways. What was read is shown by
`Literal.toJson`; what the store answers with is a document value and is
shown by `Bson.toJson`. A literal that goes into the store and comes back should
look the same, and it does: numbers are classified in the same way on both ways,
and the entries of an object stay in their order, since none of them are merged
on either.

Only the flags of a regular expression can be told apart. The store is given
them in alphabetical order, while the literal is shown with its flags as they
were written.

The two ways are compared for numbers that are finite and keys that are
distinct. What is read has no others, and the two ways part at a number that is
not finite, which JSON cannot write.

## Main statements

* `Literal.IsProper.sameUpToOptions`: the two JSON values differ at most in the
  order of flags.
* `Literal.IsProper.toJson_toBson_of_sorted`: they are the same if the flags are
  in order.
* `Literal.toJson_toBson`: both, for what can be read.
-/

namespace QueryShell

/-! ## Flags in JSON -/

/-- **The JSON values differ at most in the options of regular expressions**,
whose letters may stand in another order. Members of objects are in the same
order, and integers are told from other numbers. -/
inductive Json.SameUpToOptions : Json → Json → Prop
  | null : SameUpToOptions .null .null
  | bool (b : Bool) : SameUpToOptions (.bool b) (.bool b)
  | integer (n : Int) : SameUpToOptions (.integer n) (.integer n)
  | float (x : Double) : SameUpToOptions (.float x) (.float x)
  | string (s : String) : SameUpToOptions (.string s) (.string s)
  | regex (pattern : String) {options options' : String} (h : options'.toList.Perm options.toList) :
    SameUpToOptions (.object [("$regex", .string pattern), ("$options", .string options)])
      (.object [("$regex", .string pattern), ("$options", .string options')])
  | array {xs ys : List Json} (h : List.Forall₂ SameUpToOptions xs ys) :
    SameUpToOptions (.array xs) (.array ys)
  | object {ps qs : List (String × Json)} (hk : Entries.keys ps = Entries.keys qs)
    (h : List.Forall₂ SameUpToOptions (ps.map Prod.snd) (qs.map Prod.snd)) :
    SameUpToOptions (.object ps) (.object qs)

namespace Literal

/-- **The flags of every regular expression are in alphabetical order**, however
deep the expression stands. -/
inductive HasSortedFlags : Literal → Prop
  | null : HasSortedFlags null
  | bool (b : Bool) : HasSortedFlags (bool b)
  | number (x : Double) : HasSortedFlags (number x)
  | string (s : String) : HasSortedFlags (string s)
  | regex (pattern : String) {flags : String} (h : flags.toList.Pairwise (· ≤ ·)) :
    HasSortedFlags (regex pattern flags)
  | array {items : List Literal} (h : ∀ x ∈ items, HasSortedFlags x) : HasSortedFlags (array items)
  | object {entries : List (String × Literal)} (h : ∀ p ∈ entries, HasSortedFlags p.2) :
    HasSortedFlags (object entries)

/-- **A literal with finite numbers and distinct keys**, of whatever depth, and
with whatever patterns and flags. Every literal that was read is one, and others
are too. -/
inductive IsProper : Literal → Prop
  | null : IsProper null
  | bool (b : Bool) : IsProper (bool b)
  | number {x : Double} (h : x.isFinite = true) : IsProper (number x)
  | string (s : String) : IsProper (string s)
  | regex (pattern flags : String) : IsProper (regex pattern flags)
  | array {items : List Literal} (h : ∀ x ∈ items, IsProper x) : IsProper (array items)
  | object {entries : List (String × Literal)} (hk : (Entries.keys entries).Nodup)
    (h : ∀ p ∈ entries, IsProper p.2) : IsProper (object entries)

theorem Readable.isProper {n : Nat} {v : Literal} (h : Readable n v) : IsProper v := by
  induction h with
  | null => exact .null
  | bool b => exact .bool b
  | number hx => exact .number hx
  | string s => exact .string s
  | regex => exact .regex _ _
  | array _ ih => exact .array ih
  | object hk _ ih => exact .object hk ih

/-! ## The two ways, constructor by constructor -/

/-- Both ways classify a finite number alike. -/
theorem toJson_numberToBson {x : Double} (h : x.isFinite = true) :
    (numberToBson x).toJson = numberToJson x := by
  unfold numberToBson numberToJson
  cases x.integral? with
  | some n => rw [Bson.toJson]
  | none =>
    dsimp only
    rw [Bson.toJson, Bson.simpleDouble, if_pos h, if_pos h]

/-- As a document, a regular expression is shown with its flags sorted. -/
theorem toJson_toBson_regex (pattern flags : String) :
    (toBson (regex pattern flags)).toJson = .object [("$regex", .string pattern),
      ("$options", .string (String.ofList (sortChars flags.toList)))] := by
  rw [toBson, Bson.toJson]

theorem toJson_toBson_array (items : List Literal) :
    (toBson (array items)).toJson = .array (items.map fun x => x.toBson.toJson) := by
  rw [toBson, Bson.toJson, itemsToBson_eq_map, Bson.itemsToJson_eq_map, List.map_map]
  rfl

theorem keys_entriesToJson (es : List (String × Literal)) :
    Entries.keys (entriesToJson es) = Entries.keys es := by
  rw [entriesToJson_eq_map, Entries.keys, List.map_map]
  rfl

/-- Inserting entries one after the other merges none of them if their keys are
distinct. -/
theorem toJson_object {entries : List (String × Literal)} (h : (Entries.keys entries).Nodup) :
    toJson (object entries) = .object (entries.map fun e => (e.1, e.2.toJson)) := by
  rw [← keys_entriesToJson] at h
  rw [toJson, Entries.ofList_of_nodup h, entriesToJson_eq_map]

/-- None of them are merged on the way through the store either. -/
theorem toJson_toBson_object {entries : List (String × Literal)} (h : (Entries.keys entries).Nodup) :
    (toBson (object entries)).toJson = .object (entries.map fun e => (e.1, e.2.toBson.toJson)) := by
  rw [← keys_entriesToBson] at h
  rw [toBson, Entries.ofList_of_nodup h, Bson.toJson, entriesToBson_eq_map, Bson.entriesToJson_eq_map,
    List.map_map]
  rfl

/-! ## The two ways together -/

/-- **Both ways lead to the same JSON, up to the order of flags.** The way
through a document sorts them, and the direct way keeps them as they stand. -/
theorem IsProper.sameUpToOptions {v : Literal} (h : IsProper v) :
    Json.SameUpToOptions v.toJson v.toBson.toJson := by
  induction h with
  | null =>
    rw [toJson, toBson, Bson.toJson]
    exact .null
  | bool b =>
    rw [toJson, toBson, Bson.toJson]
    exact .bool b
  | @number x hx =>
    rw [toJson, toBson, toJson_numberToBson hx, numberToJson]
    split
    · exact .integer _
    · rw [if_pos hx]
      exact .float x
  | string s =>
    rw [toJson, toBson, Bson.toJson]
    exact .string s
  | regex pattern flags =>
    rw [toJson, toJson_toBson_regex]
    refine .regex pattern ?_
    rw [String.toList_ofList]
    exact perm_sortChars flags.toList
  | array _ ih =>
    rw [toJson, itemsToJson_eq_map, toJson_toBson_array]
    refine .array ?_
    rw [List.forall₂_map_left_iff, List.forall₂_map_right_iff, List.forall₂_same]
    exact ih
  | object hk _ ih =>
    rw [toJson_object hk, toJson_toBson_object hk]
    refine .object ?_ ?_
    · simp [Entries.keys]
    · rw [List.map_map, List.map_map, List.forall₂_map_left_iff, List.forall₂_map_right_iff,
        List.forall₂_same]
      exact ih

/-- **Both ways lead to the same JSON** if the flags are in order. Sorting
changes nothing then, and nothing else can differ. -/
theorem IsProper.toJson_toBson_of_sorted {v : Literal} (h : IsProper v) (hs : HasSortedFlags v) :
    v.toBson.toJson = v.toJson := by
  induction h with
  | null | bool | string => rw [toJson, toBson, Bson.toJson]
  | number hx => rw [toJson, toBson, toJson_numberToBson hx]
  | regex pattern flags =>
    cases hs with
    | regex _ hsorted =>
      rw [toJson, toJson_toBson_regex, sortChars_eq_insertionSort, hsorted.insertionSort_eq,
        String.ofList_toList]
  | array _ ih =>
    cases hs with
    | array hs =>
      rw [toJson, itemsToJson_eq_map, toJson_toBson_array]
      exact congrArg _ (List.map_congr_left fun x hx => ih x hx (hs x hx))
  | object hk _ ih =>
    cases hs with
    | object hs =>
      rw [toJson_object hk, toJson_toBson_object hk]
      exact congrArg _ (List.map_congr_left fun p hp => congrArg _ (ih p hp (hs p hp)))

/-- **The two JSON views of a literal agree.** They are the same for every
accepted literal whose flags are in order, member by member and with integers
told from other numbers. In whatever order its flags stand, they differ at most
in the order of these flags, and so they do for a literal that was not read, if
its numbers are finite and its keys distinct. -/
theorem toJson_toBson :
    (∀ (s : String) (vs : List Literal), parseList s = .ok vs → ∀ v ∈ vs,
      (v.HasSortedFlags → v.toBson.toJson = v.toJson) ∧
        Json.SameUpToOptions v.toJson v.toBson.toJson) ∧
    ∀ v : Literal, v.IsProper → Json.SameUpToOptions v.toJson v.toBson.toJson := by
  refine ⟨fun s vs h v hv => ?_, fun v hv => hv.sameUpToOptions⟩
  have hproper : v.IsProper := (readable_of_parseListAt h v hv).isProper
  exact ⟨hproper.toJson_toBson_of_sorted, hproper.sameUpToOptions⟩

/-- The text has flags in order and a negative zero; the other literal has flags
out of order. -/
theorem toJson_toBson_flags :
    (parseList "{ b: /x/im, a: [-0] }" =
        .ok [object [("b", regex "x" "im"), ("a", array [number ⟨0x8000000000000000⟩])]] ∧
      (toBson (object [("b", regex "x" "im"), ("a", array [number ⟨0x8000000000000000⟩])])).toJson =
        toJson (object [("b", regex "x" "im"), ("a", array [number ⟨0x8000000000000000⟩])])) ∧
    IsProper (regex "x" "mi") ∧
      Json.SameUpToOptions (toJson (regex "x" "mi")) (toBson (regex "x" "mi")).toJson := by
  have h : parseList "{ b: /x/im, a: [-0] }" =
      .ok [object [("b", regex "x" "im"), ("a", array [number ⟨0x8000000000000000⟩])]] := by
    have hflags : AreFlags "im" := flagFault?_nil_eq_none.mp (by decide +kernel)
    have hzero : IsNumeralOf "0" ⟨0⟩ := ⟨by cbv, by decide⟩
    have hb : DerivesValue (maxDepth - 1) [.regex "x" "im" true] (regex "x" "im") := .regex hflags
    have ha := DerivesValue.array (.single (.negated (n := maxDepth - 2) hzero))
    have hd := DerivesList.single (.object (.cons (.word "b") hb (.single (.word "a") ha)))
    exact parseListAt_of_kinds (by decide +kernel) (by decide) hd 0
  have hflags : HasSortedFlags
      (object [("b", regex "x" "im"), ("a", array [number ⟨0x8000000000000000⟩])]) := by
    refine .object (List.forall_mem_cons.mpr ⟨.regex _ (by decide), ?_⟩)
    exact List.forall_mem_singleton.mpr (.array (List.forall_mem_singleton.mpr (.number _)))
  exact ⟨⟨h, (toJson_toBson.1 _ _ h _ List.mem_cons_self).1 hflags⟩, .regex _ _,
    toJson_toBson.2 _ (.regex _ _)⟩

end Literal

end QueryShell
