import QueryShell.Literal.Basic
import QueryShell.Proofs.Number.Parts

/-!
# JSON texts

A JSON text is a value with blanks around it. The relations below are the
grammar of such texts over characters, and say at once which literal a text
stands for: a number is the double nearest to its decimal, an object keeps the
first position and the last value of a repeated key, and a string is a sequence
of characters, each written as it stands, by a letter behind a backslash, or by
its code in hexadecimal digits.

A code has four digits, so a character beyond the first 65536 needs two of them,
a surrogate pair. What a pair stands for is the one matter that readers of JSON
get wrong, and a parameter of the grammar (`PairReading`): with `joined` the
relations are those of JSON, with `absent` they derive the JSON texts without
any pair, and with `kept` they derive all JSON texts, but a pair stands for the
twelve characters that it is written with.

As in the grammar of arguments, the number that the relations carry is how many
more brackets may be open around what is inside.
-/

namespace QueryShell.JsonGrammar

/-! ## Blanks and numbers -/

/-- **The four blanks of JSON**: the space, the tabulator and the two characters
that end a line. -/
def IsBlanks (w : List Char) : Prop :=
  ∀ c ∈ w, c = ' ' ∨ c = '\t' ∨ c = '\n' ∨ c = '\r'

/-- **The whole part of a number** has no zero in front. -/
inductive Whole : List Char → Prop
  | zero : Whole ['0']
  | digits {d : Char} {ds : List Char} (hd : d.isDigit = true) (hne : d ≠ '0')
    (hds : ∀ c ∈ ds, c.isDigit = true) : Whole (d :: ds)

/-- **The text of a number**, with the double nearest to it, which has to be
finite. Fraction and exponent are those of any numeral; what JSON forbids is a
zero in front of other digits. -/
inductive Number : List Char → Double → Prop
  | mk {negative : Bool} {whole fraction ds exponent : List Char} {e : Int}
    (hw : Whole whole) (hf : Numeral.Fraction fraction ds) (he : Numeral.Exponent exponent e)
    (hx : (Double.ofDecimal negative (Numeral.value (whole ++ ds)) (e - ds.length)).isFinite = true) :
    Number ((if negative then ['-'] else []) ++ (whole ++ (fraction ++ exponent)))
      (Double.ofDecimal negative (Numeral.value (whole ++ ds)) (e - ds.length))

/-! ## Strings -/

/-- **What a surrogate pair stands for.** JSON joins the two escapes into one
character. To keep them is the other reading, and to have none is the condition
under which the two agree. -/
inductive PairReading where
  /-- There is no pair in the text. -/
  | absent
  /-- A pair stands for one character. -/
  | joined
  /-- A pair stands for the characters that it is written with. -/
  | kept

/-- The letters that stand behind a backslash, with the characters that they
stand for. -/
def letters : List (Char × Char) :=
  [('"', '"'), ('\\', '\\'), ('/', '/'), ('b', '\x08'), ('f', '\x0c'), ('n', '\n'), ('r', '\r'),
    ('t', '\t')]

/-- The hexadecimal digits with their values. -/
def hexDigits : List (Char × Nat) :=
  "0123456789abcdef".toList.zipIdx ++ "0123456789ABCDEF".toList.zipIdx

/-- **Four hexadecimal digits**, with the number that they stand for. -/
inductive Code : List Char → Nat → Prop
  | mk {a b c d : Char} {i j k l : Nat} (ha : (a, i) ∈ hexDigits) (hb : (b, j) ∈ hexDigits)
    (hc : (c, k) ∈ hexDigits) (hd : (d, l) ∈ hexDigits) :
    Code [a, b, c, d] (((i * 16 + j) * 16 + k) * 16 + l)

/-- **A pair of escapes** that together name a character beyond the first 65536.
Neither half names a character on its own. -/
inductive Pair : List Char → Char → Prop
  | mk {high low : List Char} {m n : Nat} {x : Char} (hhigh : Code high m) (hlow : Code low n)
    (hm : 0xD800 ≤ m ∧ m < 0xDC00) (hn : 0xDC00 ≤ n ∧ n < 0xE000)
    (hx : x.toNat = 0x10000 + (m - 0xD800) * 0x400 + (n - 0xDC00)) :
    Pair ('\\' :: 'u' :: (high ++ '\\' :: 'u' :: low)) x

/-- **One character of a string**, with what it stands for. A control character
cannot stand for itself, and a half of a pair cannot stand alone. -/
inductive Piece (p : PairReading) : List Char → List Char → Prop
  | plain {c : Char} (hc : 0x20 ≤ c.toNat) (hquote : c ≠ '"') (hslash : c ≠ '\\') : Piece p [c] [c]
  | letter {e c : Char} (h : (e, c) ∈ letters) : Piece p ['\\', e] [c]
  | code {ds : List Char} {x : Char} (h : Code ds x.toNat) : Piece p ('\\' :: 'u' :: ds) [x]
  | joined {t : List Char} {x : Char} (hp : p = .joined) (h : Pair t x) : Piece p t [x]
  | kept {t : List Char} {x : Char} (hp : p = .kept) (h : Pair t x) : Piece p t t

/-- **The inside of a string**, with what it stands for. -/
inductive Inside (p : PairReading) : List Char → List Char → Prop
  | nil : Inside p [] []
  | cons {t m ts ms : List Char} (h : Piece p t m) (hs : Inside p ts ms) :
    Inside p (t ++ ts) (m ++ ms)

/-- **A string**, with what it stands for. -/
inductive Quoted (p : PairReading) : List Char → String → Prop
  | mk {t m : List Char} (h : Inside p t m) : Quoted p ('"' :: (t ++ ['"'])) (String.ofList m)

/-! ## Values -/

mutual

/-- **A value**, with the literal that it stands for. -/
inductive Value (p : PairReading) : Nat → List Char → Literal → Prop
  | null {n : Nat} : Value p n ['n', 'u', 'l', 'l'] .null
  | true {n : Nat} : Value p n ['t', 'r', 'u', 'e'] (.bool Bool.true)
  | false {n : Nat} : Value p n ['f', 'a', 'l', 's', 'e'] (.bool Bool.false)
  | number {n : Nat} {t : List Char} {x : Double} (h : Number t x) : Value p n t (.number x)
  | string {n : Nat} {t : List Char} {s : String} (h : Quoted p t s) : Value p n t (.string s)
  | noElements {n : Nat} {w : List Char} (hw : IsBlanks w) :
    Value p (n + 1) ('[' :: (w ++ [']'])) (.array [])
  | array {n : Nat} {t : List Char} {xs : List Literal} (h : Elements p n t xs) :
    Value p (n + 1) ('[' :: (t ++ [']'])) (.array xs)
  | noMembers {n : Nat} {w : List Char} (hw : IsBlanks w) :
    Value p (n + 1) ('{' :: (w ++ ['}'])) (.object [])
  | object {n : Nat} {t : List Char} {ps : List (String × Literal)} (h : Members p n t ps) :
    Value p (n + 1) ('{' :: (t ++ ['}'])) (.object (Entries.ofList ps))

/-- **Values with commas between them**, and blanks around each. -/
inductive Elements (p : PairReading) : Nat → List Char → List Literal → Prop
  | single {n : Nat} {w t w' : List Char} {x : Literal} (hw : IsBlanks w) (h : Value p n t x)
    (hw' : IsBlanks w') : Elements p n (w ++ (t ++ w')) [x]
  | cons {n : Nat} {w t w' ts : List Char} {x : Literal} {xs : List Literal} (hw : IsBlanks w)
    (h : Value p n t x) (hw' : IsBlanks w') (hs : Elements p n ts xs) :
    Elements p n (w ++ (t ++ (w' ++ ',' :: ts))) (x :: xs)

/-- **Members with commas between them**: a string, a colon and a value, and
blanks around each. -/
inductive Members (p : PairReading) : Nat → List Char → List (String × Literal) → Prop
  | single {n : Nat} {w k w₁ w₂ t w' : List Char} {key : String} {x : Literal} (hw : IsBlanks w)
    (hk : Quoted p k key) (hw₁ : IsBlanks w₁) (hw₂ : IsBlanks w₂) (h : Value p n t x)
    (hw' : IsBlanks w') : Members p n (w ++ (k ++ (w₁ ++ ':' :: (w₂ ++ (t ++ w'))))) [(key, x)]
  | cons {n : Nat} {w k w₁ w₂ t w' ts : List Char} {key : String} {x : Literal}
    {ps : List (String × Literal)} (hw : IsBlanks w) (hk : Quoted p k key) (hw₁ : IsBlanks w₁)
    (hw₂ : IsBlanks w₂) (h : Value p n t x) (hw' : IsBlanks w') (hs : Members p n ts ps) :
    Members p n (w ++ (k ++ (w₁ ++ ':' :: (w₂ ++ (t ++ (w' ++ ',' :: ts)))))) ((key, x) :: ps)

end

/-- **A JSON text** nested at most `n` deep, with the literal that it stands
for. Blanks may stand on both sides of the value. -/
inductive Derives (p : PairReading) (n : Nat) : List Char → Literal → Prop
  | mk {w t w' : List Char} {x : Literal} (hw : IsBlanks w) (h : Value p n t x) (hw' : IsBlanks w') :
    Derives p n (w ++ (t ++ w')) x

/-! ## Pairs that are kept -/

variable {p : PairReading}

/-- A piece is a piece where pairs are kept, and stands for the same if it is no
pair. -/
theorem Piece.exists_kept {t m : List Char} (h : Piece p t m) :
    ∃ m', Piece .kept t m' ∧ (p = .absent → m' = m) := by
  cases h with
  | plain hc hquote hslash => exact ⟨_, .plain hc hquote hslash, fun _ => rfl⟩
  | letter h => exact ⟨_, .letter h, fun _ => rfl⟩
  | code h => exact ⟨_, .code h, fun _ => rfl⟩
  | joined hp h => exact ⟨_, .kept rfl h, fun ha => by rw [hp] at ha; cases ha⟩
  | kept _ h => exact ⟨_, .kept rfl h, fun _ => rfl⟩

/-- The inside of a string is one in which pairs are kept, and stands for the
same if it has no pair. -/
theorem Inside.exists_kept {t m : List Char} (h : Inside p t m) :
    ∃ m', Inside .kept t m' ∧ (p = .absent → m' = m) := by
  induction h with
  | nil => exact ⟨[], .nil, fun _ => rfl⟩
  | cons h _ ih =>
    obtain ⟨m, hm, heq⟩ := h.exists_kept
    obtain ⟨ms, hms, heqs⟩ := ih
    exact ⟨m ++ ms, .cons hm hms, fun ha => by rw [heq ha, heqs ha]⟩

/-- A string is one in which pairs are kept, and stands for the same if it has
no pair. -/
theorem Quoted.exists_kept {t : List Char} {s : String} (h : Quoted p t s) :
    ∃ s', Quoted .kept t s' ∧ (p = .absent → s' = s) := by
  obtain ⟨h⟩ := h
  obtain ⟨m, hm, heq⟩ := h.exists_kept
  exact ⟨_, .mk hm, fun ha => by rw [heq ha]⟩

mutual

/-- **Every JSON text is one in which pairs are kept**, and stands for the same
if it has no pair. -/
theorem Value.exists_kept {n : Nat} {t : List Char} {x : Literal} :
    Value p n t x → ∃ x', Value .kept n t x' ∧ (p = .absent → x' = x)
  | .null => ⟨_, .null, fun _ => rfl⟩
  | .true => ⟨_, .true, fun _ => rfl⟩
  | .false => ⟨_, .false, fun _ => rfl⟩
  | .number h => ⟨_, .number h, fun _ => rfl⟩
  | .string h =>
    let ⟨_, hs, heq⟩ := h.exists_kept
    ⟨_, .string hs, fun ha => by rw [heq ha]⟩
  | .noElements hw => ⟨_, .noElements hw, fun _ => rfl⟩
  | .array h =>
    let ⟨_, hxs, heq⟩ := h.exists_kept
    ⟨_, .array hxs, fun ha => by rw [heq ha]⟩
  | .noMembers hw => ⟨_, .noMembers hw, fun _ => rfl⟩
  | .object h =>
    let ⟨_, hps, heq⟩ := h.exists_kept
    ⟨_, .object hps, fun ha => by rw [heq ha]⟩

/-- Elements are elements in which pairs are kept, and stand for the same if
they have no pair. -/
theorem Elements.exists_kept {n : Nat} {t : List Char} {xs : List Literal} :
    Elements p n t xs → ∃ xs', Elements .kept n t xs' ∧ (p = .absent → xs' = xs)
  | .single hw h hw' =>
    let ⟨_, hx, heq⟩ := h.exists_kept
    ⟨_, .single hw hx hw', fun ha => by rw [heq ha]⟩
  | .cons hw h hw' hs =>
    let ⟨_, hx, heq⟩ := h.exists_kept
    let ⟨_, hxs, heqs⟩ := hs.exists_kept
    ⟨_, .cons hw hx hw' hxs, fun ha => by rw [heq ha, heqs ha]⟩

/-- Members are members in which pairs are kept, keys included, and stand for
the same if they have no pair. -/
theorem Members.exists_kept {n : Nat} {t : List Char} {ps : List (String × Literal)} :
    Members p n t ps → ∃ ps', Members .kept n t ps' ∧ (p = .absent → ps' = ps)
  | .single hw hk hw₁ hw₂ h hw' =>
    let ⟨_, hkey, heqk⟩ := hk.exists_kept
    let ⟨_, hx, heq⟩ := h.exists_kept
    ⟨_, .single hw hkey hw₁ hw₂ hx hw', fun ha => by rw [heqk ha, heq ha]⟩
  | .cons hw hk hw₁ hw₂ h hw' hs =>
    let ⟨_, hkey, heqk⟩ := hk.exists_kept
    let ⟨_, hx, heq⟩ := h.exists_kept
    let ⟨_, hps, heqs⟩ := hs.exists_kept
    ⟨_, .cons hw hkey hw₁ hw₂ hx hw' hps, fun ha => by rw [heqk ha, heq ha, heqs ha]⟩

end

/-- Blanks around a value do not matter for its pairs. -/
theorem Derives.exists_kept {n : Nat} {t : List Char} {x : Literal} (h : Derives p n t x) :
    ∃ x', Derives .kept n t x' ∧ (p = .absent → x' = x) := by
  obtain ⟨hw, h, hw'⟩ := h
  obtain ⟨x', hx', heq⟩ := h.exists_kept
  exact ⟨x', .mk hw hx' hw', heq⟩

end QueryShell.JsonGrammar
