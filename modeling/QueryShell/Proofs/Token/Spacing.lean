import QueryShell.Proofs.Token.Cut

/-!
# Blanks between tokens

Blanks can be put between the tokens of a text without changing what the tokens
are. The blanks to put into a text are given by a function `w` of the offset,
and `Text.insertBlanks w` puts `w n` at the offset `n`. Being a function of the
offset, this goes along with cutting the text: a part that nothing is put inside
of stays as it is, and the parts on both sides of it can be looked at on their
own (`Text.insertBlanks_append_append`).

A token that is not cut by the blanks has the same characters as before, but
what follows it need not begin as before. It does up to the next blank that was
put there, and reading a token neither depends on what stands behind a text that
has all its characters, nor on a blank and what follows it. So it is enough to
compare the texts up to that blank (`Text.exists_common_prefix`).

## Main statements

* `Token.map_kind_insertBlanks`: blanks between the tokens leave them what they
  are.
-/

namespace QueryShell

namespace Text

variable {w : Nat → List Char} {pos : Nat} {cs : List Char}

/-- **The text with blanks put into it**: `w n` in front of the character at
each offset `n`, and at the end. The text begins at `pos`. -/
def insertBlanks (w : Nat → List Char) (pos : Nat) : List Char → List Char
  | [] => w pos
  | c :: cs => w pos ++ c :: insertBlanks w (pos + c.utf8Size) cs

/-- A part that nothing is put into stays as it is. -/
theorem insertBlanks_append_of_eq_nil {m : List Char}
    (h : ∀ n, pos ≤ n → n < pos + byteLength m → w n = []) (b : List Char) :
    insertBlanks w pos (m ++ b) = m ++ insertBlanks w (pos + byteLength m) b := by
  induction m generalizing pos with
  | nil => rfl
  | cons c m ih =>
    have hpos := c.utf8Size_pos
    rw [byteLength_cons] at h
    rw [List.cons_append, insertBlanks, h pos (Nat.le_refl pos) (by omega),
      ih fun n hn hlt => h n (by omega) (by omega), byteLength_cons, Nat.add_assoc]
    rfl

/-- What nothing is put inside of stays as it is, behind what is put in front of
it. -/
theorem insertBlanks_append {m : List Char} (hne : m ≠ [])
    (h : ∀ n, pos < n → n < pos + byteLength m → w n = []) (b : List Char) :
    insertBlanks w pos (m ++ b) = w pos ++ (m ++ insertBlanks w (pos + byteLength m) b) := by
  cases m with
  | nil => exact absurd rfl hne
  | cons c m =>
    have hpos := c.utf8Size_pos
    rw [byteLength_cons] at h
    rw [List.cons_append, insertBlanks,
      insertBlanks_append_of_eq_nil fun n hn hlt => h n (by omega) (by omega), byteLength_cons,
      Nat.add_assoc]
    rfl

/-- **Blanks are put into the parts of a text on their own**, around a part that
nothing is put inside of. The offsets of the last part are counted from the
beginning of the text, as before. -/
theorem insertBlanks_append_append {m : List Char} (hne : m ≠ []) (a : List Char)
    (h : ∀ n, pos + byteLength a < n → n < pos + byteLength a + byteLength m → w n = [])
    (b : List Char) : insertBlanks w pos (a ++ (m ++ b)) =
      insertBlanks w pos a ++ (m ++ insertBlanks w (pos + byteLength a + byteLength m) b) := by
  induction a generalizing pos with
  | nil => exact insertBlanks_append hne h b
  | cons c a ih =>
    rw [byteLength_cons, ← Nat.add_assoc] at h ⊢
    rw [List.cons_append, insertBlanks, ih h, insertBlanks, List.append_assoc, List.cons_append]

/-- Nothing can be put inside of a single character. -/
theorem insertBlanks_append_cons (w : Nat → List Char) (pos : Nat) (a : List Char) (c : Char)
    (b : List Char) : insertBlanks w pos (a ++ c :: b) =
      insertBlanks w pos a ++ c :: insertBlanks w (pos + byteLength a + c.utf8Size) b := by
  induction a generalizing pos with
  | nil => rfl
  | cons d a ih =>
    rw [List.cons_append, insertBlanks, ih, insertBlanks, List.append_assoc, List.cons_append,
      byteLength_cons, ← Nat.add_assoc]

/-- A property of the blanks and of the characters of a text. -/
theorem forall_mem_insertBlanks {p : Char → Bool} (hw : ∀ n, ∀ c ∈ w n, p c = true)
    (hcs : ∀ c ∈ cs, p c = true) (pos : Nat) : ∀ c ∈ insertBlanks w pos cs, p c = true := by
  induction cs generalizing pos with
  | nil => exact hw pos
  | cons c cs ih =>
    obtain ⟨hc, hcs⟩ := List.forall_mem_cons.mp hcs
    exact List.forall_mem_append.mpr ⟨hw pos, List.forall_mem_cons.mpr ⟨hc, ih hcs _⟩⟩

/-- **Blanks leave a text as it is up to the first of them.** From there on the
new text begins with a blank, or is at its end, and no token goes on over
either. -/
theorem exists_common_prefix (hw : ∀ n, ∀ c ∈ w n, isBlank c = true) (pos : Nat) (cs : List Char) :
    ∃ y z z', cs = y ++ z ∧ insertBlanks w pos cs = y ++ z' ∧ ∀ c ∈ z'.head?, isBlank c = true := by
  induction cs generalizing pos with
  | nil => exact ⟨[], [], w pos, rfl, rfl, fun c hc => hw pos c (List.mem_of_mem_head? hc)⟩
  | cons c cs ih =>
    cases hpos : w pos with
    | nil =>
      obtain ⟨y, z, z', rfl, hspaced, hz'⟩ := ih (pos + c.utf8Size)
      exact ⟨c :: y, z, z', rfl, by rw [insertBlanks, hpos, hspaced]; rfl, hz'⟩
    | cons d v =>
      refine ⟨[], c :: cs, insertBlanks w pos (c :: cs), rfl, rfl, fun e he => ?_⟩
      rw [insertBlanks, hpos] at he
      cases he
      exact hw pos d (by rw [hpos]; exact List.mem_cons_self)

end Text

open Text

namespace Token

variable {w : Nat → List Char} {pos : Nat} {r : Bool} {cs : List Char}

/-- **No blanks inside the tokens**: nothing is put at an offset inside the span
of one of them. At both ends of a token blanks may be put. -/
def Spares (w : Nat → List Char) (ts : List Token) : Prop :=
  ∀ t ∈ ts, ∀ n, t.span.start < n → n < t.span.stop → w n = []

/-- A token reads the same if blanks are put behind it. -/
theorem read_insertBlanks (hw : ∀ n, ∀ c ∈ w n, isBlank c = true) {c : Char} {text : List Char}
    (htext : (Lexeme.read r c cs).text = c :: text)
    (hclosed : (Lexeme.read r c cs).kind.isUnclosed = false) (pos : Nat) :
    Lexeme.read r c (text ++ insertBlanks w pos (Lexeme.read r c cs).rest) =
      ⟨(Lexeme.read r c cs).kind, c :: text, insertBlanks w pos (Lexeme.read r c cs).rest⟩ := by
  obtain ⟨y, z, z', hrest, hspaced, hz'⟩ := exists_common_prefix hw pos (Lexeme.read r c cs).rest
  obtain ⟨x, rfl, rfl, hread⟩ := Lexeme.exists_read_eq_followedBy hrest
  rw [hspaced]
  rw [hread] at htext hclosed ⊢
  -- the token and the text up to the blank are all that the token is read from
  have hx : text ++ (Lexeme.read r c x).rest = x := by
    have hparts := Lexeme.text_append_rest r c x
    rw [show (Lexeme.read r c x).text = c :: text from htext] at hparts
    exact (List.cons.inj hparts).2
  have hcontinues : HeadNot Lexeme.continues z' := fun d hd => Lexeme.continues_of_isBlank (hz' d hd)
  rw [← List.append_assoc, hx, Lexeme.read_append_of_headNot hcontinues hclosed, ← htext]
  rfl

/-- **Blanks between the tokens leave them what they are.** The tokens must be
closed: a literal that is left open would take the blanks behind it in. -/
theorem map_kind_insertBlanks (hw : ∀ n, ∀ c ∈ w n, isBlank c = true)
    (hclosed : ∀ t ∈ tokenizeFrom pos r cs, t.isUnclosed = false)
    (hspares : Spares w (tokenizeFrom pos r cs)) (pos' : Nat) :
    (tokenizeFrom pos' r (insertBlanks w pos cs)).map kind = (tokenizeFrom pos r cs).map kind := by
  fun_induction tokenizeFrom pos r cs generalizing pos' with
  | case1 pos r =>
    have hblank := tokenizeFrom_blanks (hw pos) pos' r []
    rw [List.append_nil] at hblank
    rw [insertBlanks, hblank, tokenizeFrom_nil]
    rfl
  | case2 pos r c cs hc ih =>
    rw [insertBlanks, tokenizeFrom_blanks (hw pos), tokenizeFrom_blank hc, ih hclosed hspares]
  | case3 pos r c cs hc x stop ih =>
    obtain ⟨hx, hclosed⟩ := List.forall_mem_cons.mp hclosed
    obtain ⟨hinside, hspares⟩ := List.forall_mem_cons.mp hspares
    obtain ⟨text, htext, -⟩ := Lexeme.exists_text_eq_cons r c cs
    have hspaced : insertBlanks w pos (c :: cs) = w pos ++ c :: (text ++ insertBlanks w stop x.rest) := by
      rw [← Lexeme.text_append_rest r c cs, insertBlanks_append (Lexeme.text_ne_nil r c cs) hinside]
      exact congrArg (fun y => w pos ++ (y ++ insertBlanks w stop x.rest)) htext
    rw [hspaced, tokenizeFrom_blanks (hw pos), tokenizeFrom_cons (by simpa using hc),
      read_insertBlanks hw htext hx]
    dsimp only
    rw [List.map_cons, List.map_cons, ih hclosed hspares]

end Token

end QueryShell
