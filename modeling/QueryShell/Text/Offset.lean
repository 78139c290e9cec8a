/-!
# Byte offsets

Positions in a text are byte offsets into its UTF-8 form, while the text itself
is a list of characters. `Text.takeBytes` and `Text.dropBytes` cut a text at an
offset; an offset inside a character is moved back to where the character
starts, and one past the end to the end (`Text.clamp`), so that a cut never
splits a character.

## Main statements

* `Text.takeBytes_append_dropBytes`: the two halves of a cut are the text.
* `Text.byteLength_append`: offsets add up along a text.
-/

namespace QueryShell.Text

/-- The length of a text in bytes. -/
def byteLength : List Char → Nat
  | [] => 0
  | c :: cs => c.utf8Size + byteLength cs

@[simp] theorem byteLength_nil : byteLength [] = 0 := rfl

@[simp] theorem byteLength_cons (c : Char) (cs : List Char) :
    byteLength (c :: cs) = c.utf8Size + byteLength cs := rfl

@[simp] theorem byteLength_append (a b : List Char) :
    byteLength (a ++ b) = byteLength a + byteLength b := by
  induction a with
  | nil => simp
  | cons c cs ih => simp [ih, Nat.add_assoc]

/-- The characters that lie wholly within the first `n` bytes. -/
def takeBytes : Nat → List Char → List Char
  | _, [] => []
  | n, c :: cs => if c.utf8Size ≤ n then c :: takeBytes (n - c.utf8Size) cs else []

/-- What `takeBytes n` leaves. -/
def dropBytes : Nat → List Char → List Char
  | _, [] => []
  | n, c :: cs => if c.utf8Size ≤ n then dropBytes (n - c.utf8Size) cs else c :: cs

theorem takeBytes_append_dropBytes (n : Nat) (cs : List Char) :
    takeBytes n cs ++ dropBytes n cs = cs := by
  induction cs generalizing n with
  | nil => rfl
  | cons c cs ih =>
    simp only [takeBytes, dropBytes]
    split <;> simp [ih]

/-- A cut at the end of an initial part gives that part. -/
theorem takeBytes_byteLength (a b : List Char) : takeBytes (byteLength a) (a ++ b) = a := by
  induction a with
  | nil =>
    cases b with
    | nil => rfl
    | cons c b => simp [takeBytes, Nat.not_le.mpr c.utf8Size_pos]
  | cons c cs ih => simp [takeBytes, ih]

theorem dropBytes_byteLength (a b : List Char) : dropBytes (byteLength a) (a ++ b) = b := by
  induction a with
  | nil =>
    cases b with
    | nil => rfl
    | cons c b => simp [dropBytes, Nat.not_le.mpr c.utf8Size_pos]
  | cons c cs ih => simp [dropBytes, ih]

/-- The greatest character boundary at or before the offset `n`. -/
def clamp (n : Nat) (cs : List Char) : Nat :=
  byteLength (takeBytes n cs)

/-- The text between two offsets. -/
def slice (start stop : Nat) (cs : List Char) : List Char :=
  takeBytes (stop - start) (dropBytes start cs)

end QueryShell.Text
