import Mathlib.Data.List.Sort
import QueryShell.Literal.Document
import QueryShell.Proofs.Literal.RoundTrip
import QueryShell.Proofs.Number.Integral

/-!
# Literals on their way to the store

A literal that was read can be told from the document value that is made of it.
`Bson.toLiteral?` is the way back: it is defined on the kinds of values that
literals are made into, and takes a 64-bit integer for the double nearest to it.

Two things could be lost. A number may be made into an integer, and the double
nearest to that integer has to be the number again, to the bit; it is, since a
double stands for an integer of a magnitude below `2 ^ 53` only, and the
negative zero does not stand for any. The entries of an object are inserted into
a document, and keys that are the same would be merged; a literal that was read
has none. What is lost is the order of the flags of a regular expression, and
`SortsFlags` says that nothing else is.

## Main statements

* `Literal.numberToBson_eq_int64_iff`: which doubles are made into integers, and
  into which.
* `Literal.Readable.isKept`: what can be read is known from its document value,
  to the order of flags.
* `Literal.toLiteral?_toBson`: so is every accepted literal, and no integer is
  rounded or wrapped.
-/

namespace QueryShell

/-! ## The way back -/

namespace Bson

mutual

/-- The literal that a document value was made from. -/
def toLiteral? : Bson → Option Literal
  | null => some .null
  | boolean b => some (.bool b)
  | int64 n => some (.number (Double.ofInt n.toInt))
  | double x => some (.number x)
  | string s => some (.string s)
  | regex pattern options => some (.regex pattern options)
  | array items => (itemsToLiterals? items).map .array
  | document entries => (entriesToLiterals? entries).map .object
  | _ => none

/-- The literals that some document values were made from. -/
def itemsToLiterals? : List Bson → Option (List Literal)
  | [] => some []
  | x :: xs => do
    let v ← toLiteral? x
    let vs ← itemsToLiterals? xs
    some (v :: vs)

/-- The literals that some entries were made from, with their keys. -/
def entriesToLiterals? : List (String × Bson) → Option (List (String × Literal))
  | [] => some []
  | (key, x) :: es => do
    let v ← toLiteral? x
    let ps ← entriesToLiterals? es
    some ((key, v) :: ps)

end

end Bson

namespace Literal

/-- **The second literal is the first with the flags of its regular expressions
sorted**: numbers have the same bits, and objects have the same keys in the same
order. -/
inductive SortsFlags : Literal → Literal → Prop
  | null : SortsFlags null null
  | bool (b : Bool) : SortsFlags (bool b) (bool b)
  | number (x : Double) : SortsFlags (number x) (number x)
  | string (s : String) : SortsFlags (string s) (string s)
  | regex (pattern : String) {flags sorted : String} (hp : sorted.toList.Perm flags.toList)
    (hs : sorted.toList.Pairwise (· < ·)) : SortsFlags (regex pattern flags) (regex pattern sorted)
  | array {xs ys : List Literal} (h : List.Forall₂ SortsFlags xs ys) :
    SortsFlags (array xs) (array ys)
  | object {ps qs : List (String × Literal)} (hk : Entries.keys ps = Entries.keys qs)
    (h : List.Forall₂ SortsFlags (ps.map Prod.snd) (qs.map Prod.snd)) :
    SortsFlags (object ps) (object qs)

/-- The literal is known from its document value, to the order of flags. -/
def IsKept (v : Literal) : Prop := ∃ w, v.toBson.toLiteral? = some w ∧ SortsFlags v w

/-! ## Flags -/

/-- Flags are sorted by insertion. -/
theorem sortChars_eq_insertionSort (cs : List Char) : sortChars cs = cs.insertionSort (· ≤ ·) := by
  have hinsert (c : Char) (ds : List Char) : insertChar c ds = ds.orderedInsert (· ≤ ·) c := by
    induction ds with
    | nil => rfl
    | cons d ds ih => rw [insertChar, ih, List.orderedInsert]
  induction cs with
  | nil => rfl
  | cons c cs ih =>
    rw [List.insertionSort_cons, ← ih, ← hinsert]
    rfl

/-- Sorting loses no flag and adds none. -/
theorem perm_sortChars (cs : List Char) : (sortChars cs).Perm cs := by
  rw [sortChars_eq_insertionSort]
  exact List.perm_insertionSort _ _

theorem pairwise_sortChars {cs : List Char} (h : cs.Nodup) : (sortChars cs).Pairwise (· < ·) := by
  have hle : (sortChars cs).Pairwise (· ≤ ·) := by
    rw [sortChars_eq_insertionSort]
    exact List.pairwise_insertionSort _ _
  have hne : (sortChars cs).Nodup := (perm_sortChars cs).nodup_iff.mpr h
  exact (hle.and hne).imp fun h => lt_of_le_of_ne h.1 h.2

/-- A regular expression is known to the order of its flags, none of which
stands twice. -/
theorem isKept_regex (pattern : String) {flags : String} (hf : AreFlags flags) :
    IsKept (regex pattern flags) := by
  refine ⟨regex pattern (String.ofList (sortChars flags.toList)), ?_, .regex pattern ?_ ?_⟩
  · rw [toBson, Bson.toLiteral?]
  · rw [String.toList_ofList]
    exact perm_sortChars flags.toList
  · rw [String.toList_ofList]
    exact pairwise_sortChars hf.2

/-! ## Numbers -/

/-- **Which doubles are made into integers, and into which**: those whose value
is an integer of a magnitude below `2 ^ 53`, into that integer. The negative
zero stays a double. -/
theorem numberToBson_eq_int64_iff {x : Double} {m : Int64} :
    numberToBson x = .int64 m ↔
      x.isFinite = true ∧ ¬x.IsNegativeZero ∧ |x.value| < 2 ^ 53 ∧ x.value = m.toInt := by
  rw [← Double.integral?_eq_some_iff, numberToBson]
  cases x.integral? <;> simp

/-- **A number is known from its document value**, be it an integer there or a
double: an integer is taken only where it stands for the same bits. -/
theorem toLiteral?_numberToBson (x : Double) :
    (numberToBson x).toLiteral? = some (number x) := by
  unfold numberToBson
  split
  · next n h => rw [Bson.toLiteral?, Double.ofInt_of_integral? h]
  · rw [Bson.toLiteral?]

/-! ## Items and entries -/

/-- Items that are known one by one are known together. -/
theorem exists_itemsToLiterals? {xs : List Literal} (h : ∀ x ∈ xs, IsKept x) :
    ∃ ys, Bson.itemsToLiterals? (itemsToBson xs) = some ys ∧ List.Forall₂ SortsFlags xs ys := by
  induction xs with
  | nil => exact ⟨[], by rw [itemsToBson, Bson.itemsToLiterals?], .nil⟩
  | cons x xs ih =>
    obtain ⟨y, hy, hxy⟩ := h x List.mem_cons_self
    obtain ⟨ys, hys, hxys⟩ := ih fun z hz => h z (List.mem_cons_of_mem x hz)
    refine ⟨y :: ys, ?_, .cons hxy hxys⟩
    rw [itemsToBson, Bson.itemsToLiterals?, hy, hys]
    rfl

/-- The keys of the entries are those of the properties. -/
theorem keys_entriesToBson (ps : List (String × Literal)) :
    Entries.keys (entriesToBson ps) = Entries.keys ps := by
  induction ps with
  | nil =>
    rw [entriesToBson]
    rfl
  | cons p ps ih => rw [entriesToBson, Entries.keys_cons, Entries.keys_cons, ih]

/-- Entries whose values are known one by one are known together, under the same
keys in the same order. -/
theorem exists_entriesToLiterals? {ps : List (String × Literal)} (h : ∀ p ∈ ps, IsKept p.2) :
    ∃ qs, Bson.entriesToLiterals? (entriesToBson ps) = some qs ∧
      Entries.keys ps = Entries.keys qs ∧
        List.Forall₂ SortsFlags (ps.map Prod.snd) (qs.map Prod.snd) := by
  induction ps with
  | nil => exact ⟨[], by rw [entriesToBson, Bson.entriesToLiterals?], rfl, .nil⟩
  | cons p ps ih =>
    obtain ⟨w, hw, hpw⟩ := h p List.mem_cons_self
    obtain ⟨qs, hqs, hk, hpqs⟩ := ih fun q hq => h q (List.mem_cons_of_mem p hq)
    refine ⟨(p.1, w) :: qs, ?_, ?_, .cons hpw hpqs⟩
    · rw [entriesToBson, Bson.entriesToLiterals?, hw, hqs]
      rfl
    · rw [Entries.keys_cons, Entries.keys_cons, hk]

/-! ## Literals that were read -/

/-- **What can be read is known from its document value**, to the order of
flags. The induction is on what can be read, and its case of an object needs
that no key is there twice. -/
theorem Readable.isKept {n : Nat} {v : Literal} (h : Readable n v) : IsKept v := by
  induction h with
  | null => exact ⟨_, by rw [toBson, Bson.toLiteral?], .null⟩
  | bool b => exact ⟨_, by rw [toBson, Bson.toLiteral?], .bool b⟩
  | number _ => exact ⟨_, by rw [toBson, toLiteral?_numberToBson], .number _⟩
  | string s => exact ⟨_, by rw [toBson, Bson.toLiteral?], .string s⟩
  | regex _ hf => exact isKept_regex _ hf
  | array _ ih =>
    obtain ⟨ys, hys, hxys⟩ := exists_itemsToLiterals? ih
    refine ⟨_, ?_, .array hxys⟩
    rw [toBson, Bson.toLiteral?, hys]
    rfl
  | @object _ ps hk _ ih =>
    obtain ⟨qs, hqs, hkeys, hpqs⟩ := exists_entriesToLiterals? ih
    refine ⟨_, ?_, .object hkeys hpqs⟩
    -- the keys are distinct, so inserting the entries one after the other merges none of them
    rw [← keys_entriesToBson] at hk
    rw [toBson, Entries.ofList_of_nodup hk, Bson.toLiteral?, hqs]
    rfl

/-- **Nothing is lost on the way to the store.** An accepted literal is known
from its document value, with the bits of its numbers, the order of its keys,
and its flags, which are in alphabetical order now; and a number is made into an
integer just if its value is that integer, of a magnitude below `2 ^ 53`, and it
is not the negative zero, so that no integer is rounded, clamped or wrapped. -/
theorem toLiteral?_toBson :
    (∀ (s : String) (vs : List Literal), parseList s = .ok vs → ∀ v ∈ vs,
      ∃ w, v.toBson.toLiteral? = some w ∧ SortsFlags v w) ∧
    ∀ (x : Double) (m : Int64), numberToBson x = .int64 m ↔
      x.isFinite = true ∧ ¬x.IsNegativeZero ∧ |x.value| < 2 ^ 53 ∧ x.value = m.toInt :=
  ⟨fun _ _ h v hv => (readable_of_parseListAt h v hv).isKept,
    fun _ _ => numberToBson_eq_int64_iff⟩

/-- Flags that are not in order, and a negative zero inside of an array, which
is no integer: both are found again, the flags sorted. -/
theorem toLiteral?_toBson_flags :
    parseList "{ b: /x/mi, a: [-0] }" =
        .ok [object [("b", regex "x" "mi"), ("a", array [number ⟨0x8000000000000000⟩])]] ∧
      (∃ w, (toBson (object [("b", regex "x" "mi"),
          ("a", array [number ⟨0x8000000000000000⟩])])).toLiteral? = some w ∧
        SortsFlags (object [("b", regex "x" "mi"), ("a", array [number ⟨0x8000000000000000⟩])]) w) ∧
      (⟨0xC01C000000000000⟩ : Double).value = (-7 : Int64).toInt := by
  have hflags : AreFlags "mi" := flagFault?_nil_eq_none.mp (by decide +kernel)
  have hzero : IsNumeralOf "0" ⟨0⟩ := ⟨by cbv, by decide⟩
  have hb : DerivesValue (maxDepth - 1) [.regex "x" "mi" true] (regex "x" "mi") := .regex hflags
  have ha := DerivesValue.array (.single (.negated (n := maxDepth - 2) hzero))
  have hd := DerivesList.single (.object (.cons (.word "b") hb (.single (.word "a") ha)))
  have h : parseList "{ b: /x/mi, a: [-0] }" =
      .ok [object [("b", regex "x" "mi"), ("a", array [number ⟨0x8000000000000000⟩])]] :=
    parseListAt_of_kinds (by decide +kernel) (by decide) hd 0
  have hseven : numberToBson ⟨0xC01C000000000000⟩ = .int64 (-7) := by cbv
  exact ⟨h, toLiteral?_toBson.1 _ _ h _ List.mem_cons_self,
    ((toLiteral?_toBson.2 _ _).mp hseven).2.2.2⟩

end Literal

end QueryShell
