import QueryShell.Text.Offset

/-!
# Boundaries of a text

An offset is a boundary of a text if the text can be cut there, so that it lies
neither inside a character nor past the end. `Text.clamp` moves an offset back
to the greatest boundary before it and leaves the boundaries where they are,
which decides whether an offset is one.
-/

namespace QueryShell.Text

/-- Only the empty text has no bytes, as every character has at least one. -/
theorem byteLength_eq_zero_iff {cs : List Char} : byteLength cs = 0 ↔ cs = [] := by
  cases cs with
  | nil => simp
  | cons c cs => simp [Nat.ne_of_gt c.utf8Size_pos]

/-- What ends before a cut of the text lies in front of it. -/
theorem exists_eq_append_of_byteLength_le {a b x y : List Char} (h : a ++ b = x ++ y)
    (hle : byteLength x ≤ byteLength a) : ∃ z, a = x ++ z ∧ y = z ++ b := by
  rcases List.append_eq_append_iff.mp h with ⟨z, rfl, rfl⟩ | ⟨z, rfl, rfl⟩
  · rw [byteLength_append] at hle
    have hz : z = [] := byteLength_eq_zero_iff.mp (by omega)
    rw [hz]
    exact ⟨[], by simp, rfl⟩
  · exact ⟨z, rfl, rfl⟩

/-- The whole characters among the first bytes of a text take no more than these
bytes. -/
theorem byteLength_takeBytes_le (n : Nat) (cs : List Char) : byteLength (takeBytes n cs) ≤ n := by
  induction cs generalizing n with
  | nil => exact Nat.zero_le n
  | cons c cs ih =>
    unfold takeBytes
    split
    · have hrest := ih (n - c.utf8Size)
      rw [byteLength_cons]
      omega
    · exact Nat.zero_le n

/-- If the first part of a text fits into a number of bytes, then it is taken as
a whole, and what is left over is spent on the second part. -/
theorem takeBytes_append_of_le {a : List Char} {n : Nat} (h : byteLength a ≤ n) (b : List Char) :
    takeBytes n (a ++ b) = a ++ takeBytes (n - byteLength a) b := by
  induction a generalizing n with
  | nil => rfl
  | cons c a ih =>
    rw [byteLength_cons] at h
    rw [List.cons_append, takeBytes, if_pos (by omega), ih (by omega), byteLength_cons, Nat.sub_sub]
    rfl

/-- **The text can be cut at the offset**: what stands before it is made of
whole characters. Offsets count bytes, and one inside of a character is none. -/
def IsBoundary (n : Nat) (cs : List Char) : Prop :=
  ∃ a b, cs = a ++ b ∧ byteLength a = n

variable {n : Nat} {cs : List Char}

theorem isBoundary_byteLength (a b : List Char) : IsBoundary (byteLength a) (a ++ b) :=
  ⟨a, b, rfl, rfl⟩

theorem IsBoundary.le (h : IsBoundary n cs) : n ≤ byteLength cs := by
  obtain ⟨a, b, rfl, rfl⟩ := h
  rw [byteLength_append]
  exact Nat.le_add_right _ _

/-- **A cursor is moved onto a boundary**, the last one that is not behind
it. -/
theorem isBoundary_clamp (n : Nat) (cs : List Char) : IsBoundary (clamp n cs) cs :=
  ⟨takeBytes n cs, dropBytes n cs, (takeBytes_append_dropBytes n cs).symm, rfl⟩

/-- A cut at an offset is at the greatest boundary before it. -/
theorem IsBoundary.le_clamp {m : Nat} (h : IsBoundary m cs) (hm : m ≤ n) : m ≤ clamp n cs := by
  obtain ⟨a, b, rfl, rfl⟩ := h
  rw [clamp, takeBytes_append_of_le hm, byteLength_append]
  exact Nat.le_add_right _ _

/-- A cut at the boundary before an offset is the cut at the offset. -/
theorem takeBytes_clamp (n : Nat) (cs : List Char) : takeBytes (clamp n cs) cs = takeBytes n cs := by
  have hcut := takeBytes_byteLength (takeBytes n cs) (dropBytes n cs)
  rwa [takeBytes_append_dropBytes] at hcut

/-- What stands behind the cursor is the same as from the boundary on. -/
theorem dropBytes_clamp (n : Nat) (cs : List Char) : dropBytes (clamp n cs) cs = dropBytes n cs := by
  have hcut := dropBytes_byteLength (takeBytes n cs) (dropBytes n cs)
  rwa [takeBytes_append_dropBytes] at hcut

/-- The boundaries are the offsets that are not moved. -/
theorem isBoundary_iff : IsBoundary n cs ↔ clamp n cs = n := by
  refine ⟨?_, fun h => h ▸ isBoundary_clamp n cs⟩
  rintro ⟨a, b, rfl, rfl⟩
  rw [clamp, takeBytes_byteLength]

instance (n : Nat) (cs : List Char) : Decidable (IsBoundary n cs) :=
  decidable_of_iff _ isBoundary_iff.symm

end QueryShell.Text
