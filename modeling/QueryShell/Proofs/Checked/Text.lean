import QueryShell.Proofs.Text.Boundary
import QueryShell.Proofs.Token.Scan

/-!
# Operations that have a condition

The readers of this library take a text apart by recursion, and nothing can go
wrong on the way. A reader that works on positions has to keep to conditions: a
counter must not fall below zero, and a slice must have its ends in order and on
boundaries of the text. In `Checked` these operations are `none` where their
condition fails, and readers made from them are `none` as soon as one of their
steps is. That such a reader always answers `some` says that it keeps to all the
conditions on the way.

Some of these positions come from bytes. `utf8` has the bytes of a text, and
a class of ASCII characters can be read off them (`any_head?_utf8`,
`length_takeWhile_utf8`): no byte of a longer character looks like one of
the class. So a run of such bytes ends on a boundary.
-/

namespace QueryShell.Checked

open Text

/-! ## Differences and slices -/

/-- `a - b`, which must not fall below zero. -/
def sub (a b : Nat) : Option Nat :=
  if b ≤ a then some (a - b) else none

/-- A sum less its first part is the second, so that an offset behind a text is
told from one before it. -/
theorem sub_add_left (a b : Nat) : sub (a + b) a = some b := by
  rw [sub, if_pos (Nat.le_add_right a b), Nat.add_sub_cancel_left]

theorem sub_add_right (a b : Nat) : sub (a + b) b = some a := by
  rw [sub, if_pos (Nat.le_add_left b a), Nat.add_sub_cancel]

/-- The items of a list between two positions, which must be in order and within
the list. -/
def range {α : Type} (start stop : Nat) (xs : List α) : Option (List α) :=
  if start ≤ stop ∧ stop ≤ xs.length then some ((xs.take stop).drop start) else none

/-- What stands between two parts of a list can be taken by its positions. -/
theorem range_append {α : Type} (a b c : List α) :
    range a.length (a.length + b.length) (a ++ (b ++ c)) = some b := by
  have hlen : a.length + b.length = (a ++ b).length := List.length_append.symm
  rw [range, if_pos (by simp), hlen, ← List.append_assoc, List.take_left, List.drop_left]

/-- The text between two offsets, which must be in order and boundaries of the
text. -/
def slice (start stop : Nat) (cs : List Char) : Option (List Char) :=
  if start ≤ stop ∧ IsBoundary start cs ∧ IsBoundary stop cs then some (Text.slice start stop cs)
  else none

variable (a b c cs : List Char)

/-- **What stands between two parts of a text can be cut out**: both offsets are
in order and on boundaries, since they are lengths of initial parts. -/
theorem slice_append :
    slice (byteLength a) (byteLength a + byteLength b) (a ++ (b ++ c)) = some b := by
  have hstop : IsBoundary (byteLength a + byteLength b) (a ++ (b ++ c)) :=
    ⟨a ++ b, c, (List.append_assoc a b c).symm, byteLength_append a b⟩
  rw [slice, if_pos ⟨Nat.le_add_right _ _, isBoundary_byteLength a _, hstop⟩, Text.slice,
    dropBytes_byteLength, Nat.add_sub_cancel_left, takeBytes_byteLength]

/-- An initial part of a text can be cut out. -/
theorem slice_prefix : slice 0 (byteLength a) (a ++ b) = some a := by
  simpa using slice_append [] a b

/-- What follows an initial part of a text can be cut out up to the end. -/
theorem slice_suffix : slice (byteLength a) (byteLength (a ++ b)) (a ++ b) = some b := by
  simpa using slice_append a b []

example : slice 0 2 ['é', 'x'] = some ['é'] ∧ slice 0 1 ['é', 'x'] = none := by decide

/-! ## Characters with their offsets -/

/-- The characters of a text that begins at an offset, each with its own
offset. -/
def charIndices : (offset : Nat) → List Char → List (Nat × Char)
  | _, [] => []
  | offset, c :: cs => (offset, c) :: charIndices (offset + c.utf8Size) cs

/-- The characters of the second part of a text have the offsets that follow
those of the first. -/
theorem charIndices_append (offset : Nat) :
    charIndices offset (a ++ b) = charIndices offset a ++ charIndices (offset + byteLength a) b := by
  induction a generalizing offset with
  | nil => rfl
  | cons c a ih => simp [charIndices, ih, Nat.add_assoc]

/-! ## Bytes -/

/-- The bytes of a text. -/
def utf8 (cs : List Char) : List UInt8 :=
  cs.flatMap String.utf8EncodeChar

/-- The bytes of a text are as many as its characters take. -/
theorem length_utf8 : (utf8 cs).length = byteLength cs := by
  induction cs with
  | nil => rfl
  | cons c cs ih =>
    rw [byteLength_cons, ← ih, ← String.length_utf8EncodeChar, ← List.length_append]
    rfl

/-- The bytes of two texts stand one behind the other. -/
theorem utf8_append : utf8 (a ++ b) = utf8 a ++ utf8 b :=
  List.flatMap_append

/-- The bytes from an offset on are those of the text that begins there. -/
theorem drop_utf8 : (utf8 (a ++ b)).drop (byteLength a) = utf8 b := by
  rw [utf8_append, ← length_utf8, List.drop_left]

/-- The byte at an offset is the first one of the text that begins there. There
is none at the end. -/
theorem getElem?_utf8 : (utf8 (a ++ b))[byteLength a]? = (utf8 b).head? := by
  rw [← drop_utf8 a b, List.head?_drop]

/-- Whether a byte is an ASCII character of a class. -/
def byteIs (p : Char → Bool) (x : UInt8) : Bool :=
  p (Char.ofNat x.toNat)

section

variable {p : Char → Bool}

/-- The first byte of a character tells whether it is an ASCII character, and
which. -/
theorem utf8EncodeChar_eq_cons (c : Char) : ∃ x xs, String.utf8EncodeChar c = x :: xs ∧
    (c.toNat < 128 → x.toNat = c.toNat ∧ xs = []) ∧ (128 ≤ c.toNat → 128 ≤ x.toNat) := by
  have hc : c.val.toNat = c.toNat := rfl
  unfold String.utf8EncodeChar
  dsimp only
  rw [hc]
  split
  · refine ⟨_, _, rfl, fun _ => ⟨?_, rfl⟩, fun h => ?_⟩
    · rw [UInt8.toNat_ofNat']
      omega
    · omega
  split
  · refine ⟨_, _, rfl, fun h => by omega, fun _ => ?_⟩
    rw [UInt8.toNat_ofNat']
    omega
  split
  all_goals
    refine ⟨_, _, rfl, fun h => by omega, fun _ => ?_⟩
    rw [UInt8.toNat_ofNat']
    omega

/-- A byte outside ASCII is in no class of ASCII characters. -/
theorem byteIs_of_le (hp : ∀ c, p c = true → c.toNat < 128) {x : UInt8} (hx : 128 ≤ x.toNat) :
    byteIs p x = false := by
  have hlt := x.toNat_lt
  have hchar : (Char.ofNat x.toNat).toNat = x.toNat := by
    rw [Char.ofNat, dif_pos (Or.inl (by omega))]
    rfl
  refine Bool.eq_false_iff.mpr fun h => ?_
  have hascii := hp _ h
  omega

/-- A byte of a class is a character of the class, and a character of the class
is one byte. -/
theorem utf8_cons_cases (hp : ∀ c, p c = true → c.toNat < 128) (c : Char) (cs : List Char) :
    ∃ x xs, utf8 (c :: cs) = x :: xs ∧ byteIs p x = p c ∧
      (p c = true → c.utf8Size = 1 ∧ xs = utf8 cs) := by
  obtain ⟨x, xs, hx, hascii, hother⟩ := utf8EncodeChar_eq_cons c
  have hsize := String.length_utf8EncodeChar c
  refine ⟨x, xs ++ utf8 cs, by rw [utf8, List.flatMap_cons, hx]; rfl, ?_, fun hc => ?_⟩
  · rcases Nat.lt_or_ge c.toNat 128 with hc | hc
    · rw [byteIs, (hascii hc).1, Char.ofNat_toNat]
    · rw [byteIs_of_le hp (hother hc)]
      exact (Bool.eq_false_iff.mpr fun h => absurd (hp c h) (by omega)).symm
  · obtain rfl := (hascii (hp c hc)).2
    rw [hx] at hsize
    exact ⟨hsize.symm, rfl⟩

/-- **The class of a character can be read off its first byte.** This needs
a class of ASCII characters: the first byte of any other character is 128 or
more, and so in no such class. -/
theorem any_head?_utf8 (hp : ∀ c, p c = true → c.toNat < 128) :
    (utf8 cs).head?.any (byteIs p) = cs.head?.any p := by
  cases cs with
  | nil => rfl
  | cons c cs =>
    obtain ⟨x, xs, hcs, hx, -⟩ := utf8_cons_cases hp c cs
    rw [hcs]
    exact hx

/-- **A run of bytes of a class ends where the run of characters does.** Without
this a position that was found byte by byte could lie inside a character, where
nothing can be cut. -/
theorem length_takeWhile_utf8 (hp : ∀ c, p c = true → c.toNat < 128) :
    ((utf8 cs).takeWhile (byteIs p)).length = byteLength (cs.takeWhile p) := by
  induction cs with
  | nil => rfl
  | cons c cs ih =>
    obtain ⟨x, xs, hcs, hx, hc⟩ := utf8_cons_cases hp c cs
    rw [hcs, List.takeWhile_cons, List.takeWhile_cons, hx]
    split
    · next h =>
      obtain ⟨hsize, rfl⟩ := hc h
      rw [List.length_cons, ih, byteLength_cons, hsize, Nat.add_comm]
    · rfl

end

end QueryShell.Checked
