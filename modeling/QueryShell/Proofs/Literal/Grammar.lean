import QueryShell.Literal.Parser

/-!
# The grammar of argument texts

The arguments of a call are a list of literals, and which lists of tokens are
one is a matter of a closed grammar:

* a list is empty, or literals with commas between them and perhaps one more
  comma at the end;
* a literal is `true`, `false` or `null`, a string between plain quotes, a
  numeral with or without a minus, a regular expression, a list between square
  brackets, or properties between braces;
* a property is a key, a colon and a literal, and a key is a word, a string or a
  numeral.

The relations below say so and say at once what each phrase stands for. The
number that they carry is how many more brackets may be open around what is
inside: a derivation from `n` nests arrays and objects at most `n` deep.

No rule has a place for a name as a value, for a parenthesis, a point, a
semicolon, a string between grave accents, or an operator other than the minus
of a numeral. `IsForeign` collects these, and `DerivesList.not_isForeign` says
that none of them stands anywhere in a list of literals.
-/

namespace QueryShell.Literal

/-- **The numeral stands for a double**: the double nearest to it, which is
finite. -/
def IsNumeralOf (text : String) (x : Double) : Prop :=
  Double.ofNumeral? text.toList = some x ∧ x.isFinite = true

/-- **The letters are flags**: each is one of `regexFlags`, and none is there
twice. Their order is free, and it is kept. -/
def AreFlags (flags : String) : Prop :=
  (∀ c ∈ flags.toList, c ∈ regexFlags) ∧ flags.toList.Nodup

/-- The quotes that a literal string can stand between. -/
def IsPlainQuote (quote : Char) : Prop :=
  quote = '\'' ∨ quote = '"'

/-- **A token that is a key**, with the key. A numeral is the key that its
double is written as, so that `1.0` and `1` are one key. -/
inductive DerivesKey : TokenKind → String → Prop
  | word (name : String) : DerivesKey (.ident name) name
  | db : DerivesKey .db "db"
  | string {value : String} {quote : Char} {closed : Bool} (h : IsPlainQuote quote) :
    DerivesKey (.string value quote closed) value
  | number {text : String} {x : Double} (h : IsNumeralOf text x) :
    DerivesKey (.number text) (String.ofList (numberChars x))

mutual

/-- **The tokens of a literal**, with the literal. The index bounds how deep
arrays and objects are nested, and is one less inside of each. -/
inductive DerivesValue : Nat → List TokenKind → Literal → Prop
  | true {n : Nat} : DerivesValue n [.ident "true"] (bool Bool.true)
  | false {n : Nat} : DerivesValue n [.ident "false"] (bool Bool.false)
  | null {n : Nat} : DerivesValue n [.ident "null"] null
  | string {n : Nat} {value : String} {quote : Char} {closed : Bool} (h : IsPlainQuote quote) :
    DerivesValue n [.string value quote closed] (string value)
  | number {n : Nat} {text : String} {x : Double} (h : IsNumeralOf text x) :
    DerivesValue n [.number text] (number x)
  | negated {n : Nat} {text : String} {x : Double} (h : IsNumeralOf text x) :
    DerivesValue n [.operator '-', .number text] (number x.neg)
  | regex {n : Nat} {pattern flags : String} {closed : Bool} (h : AreFlags flags) :
    DerivesValue n [.regex pattern flags closed] (regex pattern flags)
  | array {n : Nat} {ks : List TokenKind} {xs : List Literal} (h : DerivesList n ks xs) :
    DerivesValue (n + 1) (.opener .square :: ks ++ [.closer .square]) (array xs)
  | object {n : Nat} {ks : List TokenKind} {ps : List (String × Literal)}
    (h : DerivesProperties n ks ps) :
    DerivesValue (n + 1) (.opener .brace :: ks ++ [.closer .brace]) (object (Entries.ofList ps))

/-- **The tokens of a list of literals**, with the literals. After a comma the
list goes on with another literal or ends. -/
inductive DerivesList : Nat → List TokenKind → List Literal → Prop
  | nil {n : Nat} : DerivesList n [] []
  | single {n : Nat} {ks : List TokenKind} {x : Literal} (h : DerivesValue n ks x) :
    DerivesList n ks [x]
  | cons {n : Nat} {ks ls : List TokenKind} {x : Literal} {xs : List Literal}
    (h : DerivesValue n ks x) (hs : DerivesList n ls xs) :
    DerivesList n (ks ++ .comma :: ls) (x :: xs)

/-- **The tokens of the properties of an object**, with the keys and the
literals. Repeated keys are listed as they are written; the object keeps one
entry for each. -/
inductive DerivesProperties : Nat → List TokenKind → List (String × Literal) → Prop
  | nil {n : Nat} : DerivesProperties n [] []
  | single {n : Nat} {k : TokenKind} {key : String} {ks : List TokenKind} {x : Literal}
    (hk : DerivesKey k key) (h : DerivesValue n ks x) :
    DerivesProperties n (k :: .colon :: ks) [(key, x)]
  | cons {n : Nat} {k : TokenKind} {key : String} {ks ls : List TokenKind} {x : Literal}
    {ps : List (String × Literal)} (hk : DerivesKey k key) (h : DerivesValue n ks x)
    (hs : DerivesProperties n ls ps) :
    DerivesProperties n (k :: .colon :: ks ++ .comma :: ls) ((key, x) :: ps)

end

/-! ## What the grammar has no place for -/

/-- **A token that no literal has in its place**, between the tokens `prev` and
`next`: a parenthesis, a point, a semicolon, a character of no token, a string
between grave accents, an operator that is not the minus of a numeral, or a name
that is neither a key nor one of the three words. -/
def IsForeign (prev : Option TokenKind) (k : TokenKind) (next : Option TokenKind) : Prop :=
  match k with
  | .opener .paren | .closer .paren | .dot | .semicolon | .unknown _ => True
  | .string _ quote _ => ¬IsPlainQuote quote
  | .operator c => c ≠ '-' ∨ ∀ text, next ≠ some (.number text)
  | .ident name => name ∉ ["true", "false", "null"] ∧ ¬IsKeyPlace prev next
  | .db => ¬IsKeyPlace prev next
  | _ => False
where
  /-- Between a brace or a comma and a colon. -/
  IsKeyPlace (prev next : Option TokenKind) : Prop :=
    (prev = some (.opener .brace) ∨ prev = some .comma) ∧ next = some .colon

/-- A key is in its place behind a brace or a comma and before a colon. -/
theorem DerivesKey.not_isForeign {k : TokenKind} {key : String} (h : DerivesKey k key)
    {prev : Option TokenKind} (hprev : prev = some (.opener .brace) ∨ prev = some .comma) :
    ¬IsForeign prev k (some .colon) := by
  cases h with
  | word name => exact fun h => h.2 ⟨hprev, rfl⟩
  | db => exact fun h => h ⟨hprev, rfl⟩
  | string hq => exact fun h => h hq
  | number _ => exact fun h => h

/-- No token of the list is foreign where it stands, behind the token `prev`. -/
def NoForeign (prev : Option TokenKind) : List TokenKind → Prop
  | [] => True
  | k :: ks => ¬IsForeign prev k ks.head? ∧ NoForeign (some k) ks

mutual

/-- A literal brings no foreign token, whatever stands on its two sides. -/
theorem DerivesValue.noForeign {n : Nat} {ks : List TokenKind} {x : Literal} :
    DerivesValue n ks x → ∀ {ls : List TokenKind}, (∀ p, NoForeign p ls) →
      ∀ prev, NoForeign prev (ks ++ ls)
  | .true, _, hls, _ => ⟨fun h => h.1 (by simp), hls _⟩
  | .false, _, hls, _ => ⟨fun h => h.1 (by simp), hls _⟩
  | .null, _, hls, _ => ⟨fun h => h.1 (by simp), hls _⟩
  | .string h, _, hls, _ => ⟨fun hq => hq h, hls _⟩
  | .number _, _, hls, _ => ⟨fun h => h, hls _⟩
  | .negated _, _, hls, _ => ⟨fun h => h.elim (fun h => h rfl) fun h => h _ rfl, fun h => h, hls _⟩
  | .regex _, _, hls, _ => ⟨fun h => h, hls _⟩
  | .array h, ls, hls, prev => by
    have hclose : ∀ p, NoForeign p (.closer .square :: ls) :=
      fun _ => ⟨fun h => h, hls _⟩
    simp only [List.cons_append, List.append_assoc]
    exact ⟨fun h => h, h.noForeign hclose _⟩
  | .object h, ls, hls, prev => by
    have hclose : ∀ p, NoForeign p (.closer .brace :: ls) :=
      fun _ => ⟨fun h => h, hls _⟩
    simp only [List.cons_append, List.append_assoc]
    exact ⟨fun h => h, h.noForeign (.inl rfl) hclose⟩

/-- A list brings no foreign token, whatever stands in front of it. -/
theorem DerivesList.noForeign {n : Nat} {ks : List TokenKind} {xs : List Literal} :
    DerivesList n ks xs → ∀ {ls : List TokenKind}, (∀ p, NoForeign p ls) →
      ∀ prev, NoForeign prev (ks ++ ls)
  | .nil, _, hls, prev => hls prev
  | .single h, _, hls, prev => h.noForeign hls prev
  | .cons h hs, ls, hls, prev => by
    have hcomma : ∀ p, NoForeign p (.comma :: (_ ++ ls)) :=
      fun _ => ⟨fun h => h, hs.noForeign hls _⟩
    rw [List.append_assoc]
    exact h.noForeign hcomma prev

/-- Properties bring no foreign token behind a brace or a comma, where a name is
a key. -/
theorem DerivesProperties.noForeign {n : Nat} {ks : List TokenKind}
    {ps : List (String × Literal)} :
    DerivesProperties n ks ps → ∀ {ls : List TokenKind} {prev : Option TokenKind},
      (prev = some (.opener .brace) ∨ prev = some .comma) → (∀ p, NoForeign p ls) →
        NoForeign prev (ks ++ ls)
  | .nil, _, prev, _, hls => hls prev
  | .single hk h, _, _, hprev, hls =>
    ⟨hk.not_isForeign hprev, fun h => h, h.noForeign hls _⟩
  | .cons hk h hs, ls, _, hprev, hls => by
    have hcomma : ∀ p, NoForeign p (.comma :: (_ ++ ls)) :=
      fun _ => ⟨fun h => h, hs.noForeign (.inr rfl) hls⟩
    simp only [List.cons_append, List.append_assoc]
    exact ⟨hk.not_isForeign hprev, fun h => h, h.noForeign hcomma _⟩

end

/-- No token of a list without foreign tokens is foreign between its own
neighbours. -/
theorem NoForeign.not_isForeign {prev : Option TokenKind} {pre : List TokenKind} {k : TokenKind}
    {post : List TokenKind} (h : NoForeign prev (pre ++ k :: post)) :
    ¬IsForeign (pre.getLast?.or prev) k post.head? := by
  induction pre generalizing prev with
  | nil => exact h.1
  | cons l pre ih =>
    have hlast : (l :: pre).getLast?.or prev = pre.getLast?.or (some l) := by
      rw [List.getLast?_cons]
      cases pre.getLast? <;> rfl
    rw [hlast]
    exact ih h.2

/-- **No foreign token in a list of literals**, at whatever depth. The
neighbours of the token are needed to tell, since a name is foreign or not by
what stands around it. -/
theorem DerivesList.not_isForeign {n : Nat} {xs : List Literal} {pre : List TokenKind}
    {k : TokenKind} {post : List TokenKind} (h : DerivesList n (pre ++ k :: post) xs) :
    ¬IsForeign pre.getLast? k post.head? := by
  have hnil : ∀ p, NoForeign p [] := fun _ => trivial
  have hks : NoForeign none (pre ++ k :: post) := by
    simpa using h.noForeign hnil none
  simpa using hks.not_isForeign

end QueryShell.Literal
