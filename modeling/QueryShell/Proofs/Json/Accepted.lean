import QueryShell.Proofs.Json.Grammar
import QueryShell.Proofs.Literal.RoundTrip

/-!
# JSON texts are arguments

The literals of a call contain those of JSON: every JSON text is accepted as one
argument. The scanner of tokens was not made from the grammar of JSON, though.
It reads a minus and its numeral as two tokens, takes more for blanks, and has
escapes of its own, so each piece of a JSON text is followed to the token that
it is read as.

A string is read as what it stands for, with one exception: the scanner takes
each escape by itself, and half of a surrogate pair names no character. Both
halves then stay in the string as they were written. This is the only
difference, so that the reading of a JSON text is the one with
`PairReading.kept`.

## Main statements

* `JsonGrammar.Piece.readQuoted_eq`: how one character of a string is read.
* `JsonGrammar.Value.isSpelt`: a value is spelt in tokens that its literal
  derives from.
* `JsonGrammar.parseList_json`: what a JSON text is accepted as.
-/

namespace QueryShell

/-! ## Signs -/

namespace Double

/-- The double nearest to a decimal with a minus is the other one with the sign
changed. -/
theorem ofDecimal_true (digits : Nat) (exponent : Int) :
    ofDecimal true digits exponent = (ofDecimal false digits exponent).neg := by
  rw [ofDecimal_eq_ofRatio, ofDecimal_eq_ofRatio, ofRatio, ofRatio, neg_eq,
    isNegative_ofMagnitude false (nearestBits_lt _ _),
    magnitudeBits_ofMagnitude false (nearestBits_lt _ _)]
  rfl

end Double

namespace JsonGrammar

open Lexeme Text Token

/-! ## Numbers -/

/-- The whole part of a JSON number has a digit at least. -/
theorem Whole.ne_nil {w : List Char} (h : Whole w) : w ≠ [] := by
  cases h <;> exact List.cons_ne_nil _ _

/-- The whole part of a JSON number has nothing but digits. -/
theorem Whole.isDigit {w : List Char} (h : Whole w) : ∀ c ∈ w, c.isDigit = true := by
  cases h with
  | zero => exact List.forall_mem_singleton.mpr rfl
  | digits hd _ hds => exact List.forall_mem_cons.mpr ⟨hd, hds⟩

/-! ## Strings -/

section

variable {ds t m cs : List Char} {n : Nat}

/-- The scanner reads every hexadecimal digit of the grammar as its value. -/
theorem hexDigit?_of_mem {c : Char} {i : Nat} (h : (c, i) ∈ hexDigits) : hexDigit? c = some i := by
  have hall : ∀ x ∈ hexDigits, hexDigit? x.1 = some x.2 := by decide
  exact hall _ h

theorem plain_of_mem {c : Char} {i : Nat} (h : (c, i) ∈ hexDigits) : c ≠ '"' ∧ c ≠ '\\' := by
  have hall : ∀ x ∈ hexDigits, x.1 ≠ '"' ∧ x.1 ≠ '\\' := by decide
  exact hall _ h

/-- The escapes of the grammar that are one letter are read as the characters
that the grammar has for them. -/
theorem readQuoted_letter {e c : Char} (h : (e, c) ∈ letters) (cs : List Char) :
    readQuoted '"' ('\\' :: e :: cs) = (readQuoted '"' cs).push [c] ['\\', e] := by
  have hall : ∀ x ∈ letters, x.1 ≠ 'u' ∧ unescape x.1 = x.2 := by decide
  obtain ⟨hu, hc⟩ := hall _ h
  rw [readQuoted_escape (by decide) hu]
  exact congrArg (fun c => (readQuoted '"' cs).push [c] ['\\', e]) hc

/-- Four digits that name a character are read as the character. -/
theorem Code.readQuoted_eq {x : Char} (h : Code ds x.toNat) (cs : List Char) :
    readQuoted '"' ('\\' :: 'u' :: (ds ++ cs)) =
      (readQuoted '"' cs).push [x] ('\\' :: 'u' :: ds) := by
  generalize hn : x.toNat = n at h
  obtain ⟨ha, hb, hc, hd⟩ := h
  refine readQuoted_code (by decide) ?_ cs
  simp only [charOfHex?, hexDigit?_of_mem ha, hexDigit?_of_mem hb, hexDigit?_of_mem hc,
    hexDigit?_of_mem hd, bind, Option.bind]
  rw [← hn, charOfCode?, if_pos, Char.ofNat_toNat]
  have hvalid := x.valid
  exact hvalid

/-- Four digits that name half of a pair stay as they are written. -/
theorem Code.readQuoted_half (h : Code ds n) (hn : 0xD800 ≤ n ∧ n < 0xE000) (cs : List Char) :
    readQuoted '"' ('\\' :: 'u' :: (ds ++ cs)) =
      (readQuoted '"' cs).push ('\\' :: 'u' :: ds) ('\\' :: 'u' :: ds) := by
  obtain @⟨a, b, c, d, _, _, _, _, ha, hb, hc, hd⟩ := h
  have hnone : charOfHex? a b c d = none := by
    simp only [charOfHex?, hexDigit?_of_mem ha, hexDigit?_of_mem hb, hexDigit?_of_mem hc,
      hexDigit?_of_mem hd, bind, Option.bind]
    exact if_neg (by omega)
  simp only [List.cons_append, List.nil_append]
  rw [readQuoted_noCode (by decide) fun _ _ _ _ _ he => by cases he; exact hnone]
  rw [readQuoted_plain (plain_of_mem ha).1 (plain_of_mem ha).2,
    readQuoted_plain (plain_of_mem hb).1 (plain_of_mem hb).2,
    readQuoted_plain (plain_of_mem hc).1 (plain_of_mem hc).2,
    readQuoted_plain (plain_of_mem hd).1 (plain_of_mem hd).2]
  rfl

/-- **One character of a string is read** as what it stands for where pairs are
kept. Each way to write a character is one way of the scanner: the character
itself, an escaped letter, or an escape with four digits. -/
theorem Piece.readQuoted_eq (h : Piece .kept t m) (cs : List Char) :
    readQuoted '"' (t ++ cs) = (readQuoted '"' cs).push m t := by
  cases h with
  | plain _ hquote hslash => exact readQuoted_plain hquote hslash cs
  | letter h => exact readQuoted_letter h cs
  | code h => exact h.readQuoted_eq cs
  | joined hp _ => cases hp
  | kept _ h =>
    obtain ⟨hhigh, hlow, hm, hn, -⟩ := h
    simp only [List.cons_append, List.append_assoc]
    rw [hhigh.readQuoted_half (by omega), hlow.readQuoted_half (by omega)]
    simp [Lexeme.Quoted.push]

/-- **What the grammar has between two quotes is read as the text that it
means**, by induction on the derivation, one case for a character, an escape, a
code and the halves of a pair. -/
theorem Inside.readQuoted_eq (h : Inside .kept t m) (cs : List Char) :
    readQuoted '"' (t ++ '"' :: cs) = ⟨m, t ++ ['"'], cs, true⟩ := by
  induction h with
  | nil => exact readQuoted_quote cs
  | cons h _ ih =>
    rw [List.append_assoc, h.readQuoted_eq, ih]
    simp [Lexeme.Quoted.push]

/-- **A string is read as one token**, by induction on the characters inside.
The quote that ends it is the first that is not escaped. -/
theorem Quoted.kinds_eq {s : String} (h : Quoted .kept t s) (r : Bool) (cs : List Char) :
    kinds r (t ++ cs) = .string s '"' true :: kinds false cs := by
  obtain ⟨h⟩ := h
  rename_i t m
  have hread : read r '"' (t ++ '"' :: cs) =
      ⟨.string (String.ofList m) '"' true, '"' :: (t ++ ['"']), cs⟩ := by
    rw [Lexeme.read, if_pos (by decide), h.readQuoted_eq]
  rw [List.cons_append, List.append_assoc, List.singleton_append, kinds_of_read (by decide) hread]
  rfl

end

/-! ## Values -/

/-- **The text is spelt in tokens with `D`**, wherever a value may begin and
whatever follows. That the text may stand anywhere is what lets the parts of an
array or of an object be put together. -/
def IsSpelt (D : List TokenKind → Prop) (t : List Char) : Prop :=
  ∃ ks r, D ks ∧ (∀ k ∈ ks, k.isUnclosed = false) ∧
    ∀ cs, HeadNot continues cs → kinds true (t ++ cs) = ks ++ kinds r cs

section

variable {D D₁ D₂ : List TokenKind → Prop} {t t₁ t₂ w w' : List Char} {n : Nat}

/-- The blanks of the grammar are among those of the scanner. -/
theorem IsBlanks.isBlank (hw : IsBlanks w) : ∀ c ∈ w, Text.isBlank c = true := by
  intro c hc
  rcases hw c hc with rfl | rfl | rfl | rfl <;> rfl

/-- Blanks in front of a text that continues no token continue none either. -/
theorem headNot_continues_append (hw : IsBlanks w) {cs : List Char} (hcs : HeadNot continues cs) :
    HeadNot continues (w ++ cs) := by
  cases w with
  | nil => exact hcs
  | cons c w =>
    refine headNot_cons.mpr ?_
    rcases hw c List.mem_cons_self with rfl | rfl | rfl | rfl <;> decide

theorem isSpelt_blanks (hw : IsBlanks w) (h : D []) : IsSpelt D w :=
  ⟨[], true, h, by simp, fun cs _ => kinds_blanks hw.isBlank true cs⟩

theorem IsSpelt.surround (hw : IsBlanks w) (h : IsSpelt D t) (hw' : IsBlanks w') :
    IsSpelt D (w ++ (t ++ w')) := by
  obtain ⟨ks, r, hd, hclosed, hks⟩ := h
  refine ⟨ks, r, hd, hclosed, fun cs hcs => ?_⟩
  rw [List.append_assoc, List.append_assoc, kinds_blanks hw.isBlank,
    hks _ (headNot_continues_append hw' hcs), kinds_blanks hw'.isBlank]

/-- Tokens that are spelt with a property are spelt with every weaker one. -/
theorem IsSpelt.mono (h : IsSpelt D t) (hD : ∀ ks, D ks → D₁ ks) : IsSpelt D₁ t := by
  obtain ⟨ks, r, hd, hks⟩ := h
  exact ⟨ks, r, hD ks hd, hks⟩

/-- Two texts with a comma or a colon between them. -/
theorem IsSpelt.join {m : Char} (hm : m = ',' ∨ m = ':') (h₁ : IsSpelt D₁ t₁) (h₂ : IsSpelt D₂ t₂)
    (h : ∀ ks ls, D₁ ks → D₂ ls → D (ks ++ punctuation m :: ls)) : IsSpelt D (t₁ ++ m :: t₂) := by
  obtain ⟨ks, _, hd₁, hclosed₁, hks⟩ := h₁
  obtain ⟨ls, r, hd₂, hclosed₂, hls⟩ := h₂
  have hregex : (punctuation m).allowsRegex = true := by rcases hm with rfl | rfl <;> rfl
  have hmark : m ∈ marks := by rcases hm with rfl | rfl <;> decide
  have hhead : continues m = false := by rcases hm with rfl | rfl <;> decide
  refine ⟨_, r, h ks ls hd₁ hd₂, ?_, fun cs hcs => ?_⟩
  · exact List.forall_mem_append.mpr
      ⟨hclosed₁, List.forall_mem_cons.mpr ⟨punctuation_isUnclosed m, hclosed₂⟩⟩
  · rw [List.append_assoc, List.cons_append, hks _ (headNot_cons.mpr hhead), kinds_mark hmark,
      hregex, hls cs hcs, List.append_assoc, List.cons_append]

theorem IsSpelt.enclose {b : Bracket} (hb : b ≠ .paren) (h₁ : IsSpelt D₁ t)
    (h : ∀ ks, D₁ ks → D (.opener b :: ks ++ [.closer b])) :
    IsSpelt D (b.opener :: (t ++ [b.closer])) := by
  obtain ⟨ks, r, hd, hclosed, hks⟩ := h₁
  refine ⟨_, false, h ks hd, ?_, fun cs _ => ?_⟩
  · exact List.forall_mem_append.mpr
      ⟨List.forall_mem_cons.mpr ⟨rfl, hclosed⟩, List.forall_mem_singleton.mpr rfl⟩
  · have hopen : b.opener ∈ marks ∧ punctuation b.opener = .opener b := by cases b <;> decide
    have hclose : b.closer ∈ marks ∧ punctuation b.closer = .closer b ∧
        continues b.closer = false := by
      cases b <;> decide
    rw [List.cons_append, List.append_assoc, List.singleton_append, kinds_mark hopen.1, hopen.2]
    show _ :: kinds true _ = _
    rw [hks _ (headNot_cons.mpr hclose.2.2), kinds_mark hclose.1, hclose.2.1, List.append_assoc]
    rfl

theorem isSpelt_word {c : Char} (hc : isWordStart c = true) (hw : w.all isWordChar = true)
    (hd : D [wordKind (c :: w)]) : IsSpelt D (c :: w) := by
  refine ⟨_, false, hd, ?_, fun cs hcs => ?_⟩
  · exact List.forall_mem_singleton.mpr (wordKind_isUnclosed _)
  · rw [List.cons_append, kinds_word hc (List.all_eq_true.mp hw)
      (hcs.mono fun _ => continues_of_isWordChar)]
    rfl

/-- A quoted text spells one string, which means what the grammar says. -/
theorem Quoted.isSpelt {s : String} (h : Quoted .kept t s) (hd : D [.string s '"' true]) :
    IsSpelt D t :=
  ⟨_, false, hd, List.forall_mem_singleton.mpr rfl, fun cs _ => h.kinds_eq true cs⟩

/-- A quoted text spells a key as well, where a key is looked for. -/
theorem Quoted.isSpelt_key {key : String} (h : Quoted .kept t key) :
    IsSpelt (fun ks => ∃ k, Literal.DerivesKey k key ∧ ks = [k]) t :=
  h.isSpelt ⟨_, .string (.inr rfl), rfl⟩

/-- **A number is spelt** as a numeral, or as a minus and a numeral. The grammar
of JSON has no sign that is a part of a token, and neither have the tokens. -/
theorem Number.isSpelt {x : Double} (h : Number t x) :
    IsSpelt (Literal.DerivesValue n · (.number x)) t := by
  obtain @⟨negative, whole, fraction, ds, exponent, e, hw, hf, he, hx⟩ := h
  obtain ⟨c, w, rfl⟩ := List.exists_cons_of_ne_nil hw.ne_nil
  have hc : c.isDigit = true := hw.isDigit c List.mem_cons_self
  have hnum : Double.ofNumeral? (String.ofList (c :: w ++ (fraction ++ exponent))).toList =
      some (Double.ofDecimal false (Numeral.value (c :: w ++ ds)) (e - ds.length)) := by
    rw [String.toList_ofList, Double.ofNumeral?,
      Numeral.decimal?_parts (List.cons_ne_nil c w) hw.isDigit hf he]
    rfl
  have hkinds (r : Bool) (cs : List Char) (hcs : HeadNot continues cs) :
      kinds r (c :: w ++ (fraction ++ exponent) ++ cs) =
        .number (String.ofList (c :: w ++ (fraction ++ exponent))) :: kinds false cs :=
    kinds_number hc (Numeral.numeral_parts hw.isDigit hf he) hcs r
  cases negative with
  | false => exact ⟨_, false, .number ⟨hnum, hx⟩, List.forall_mem_singleton.mpr rfl, hkinds true⟩
  | true =>
    rw [Double.ofDecimal_true, Literal.isFinite_neg] at hx
    rw [Double.ofDecimal_true]
    refine ⟨_, false, .negated ⟨hnum, hx⟩, ?_, fun cs hcs => ?_⟩
    · exact List.forall_mem_cons.mpr ⟨rfl, List.forall_mem_singleton.mpr rfl⟩
    · rw [if_pos rfl, List.append_assoc, List.singleton_append, kinds_mark (by decide),
        hkinds _ cs hcs]
      rfl

theorem isSpelt_property {key : String} {x : Literal}
    (hk : IsSpelt (fun ks => ∃ k, Literal.DerivesKey k key ∧ ks = [k]) t₁)
    (h : IsSpelt (Literal.DerivesValue n · x) t₂) :
    IsSpelt (fun ks => ∃ k ls, Literal.DerivesKey k key ∧ Literal.DerivesValue n ls x ∧
      ks = k :: .colon :: ls) (t₁ ++ ':' :: t₂) :=
  hk.join (.inr rfl) h fun _ ls ⟨k, hkey, hks⟩ hx => ⟨k, ls, hkey, hx, hks ▸ rfl⟩

end

mutual

/-- **A value is spelt** in tokens that its literal derives from. The proof
is by recursion on the derivation in the grammar of JSON, and the depth is that
of the brackets. -/
theorem Value.isSpelt {n : Nat} {t : List Char} {x : Literal} :
    Value .kept n t x → IsSpelt (Literal.DerivesValue n · x) t
  | .null => isSpelt_word rfl (by decide) .null
  | .true => isSpelt_word rfl (by decide) .true
  | .false => isSpelt_word rfl (by decide) .false
  | .number h => h.isSpelt
  | .string h => h.isSpelt (.string (.inr rfl))
  | .noElements hw =>
    (isSpelt_blanks (D := (Literal.DerivesList _ · [])) hw .nil).enclose (b := .square) nofun
      fun _ => .array
  | .array h => h.isSpelt.enclose (b := .square) nofun fun _ => .array
  | .noMembers hw =>
    (isSpelt_blanks (D := (Literal.DerivesProperties _ · [])) hw .nil).enclose (b := .brace) nofun
      fun _ => .object
  | .object h => h.isSpelt.enclose (b := .brace) nofun fun _ => .object

/-- **The elements of an array spell a list of literals.** With the next
statement and the one before this is an induction on derivations of three
kinds. -/
theorem Elements.isSpelt {n : Nat} {t : List Char} {xs : List Literal} :
    Elements .kept n t xs → IsSpelt (Literal.DerivesList n · xs) t
  | .single hw h hw' => (h.isSpelt.surround hw hw').mono fun _ => .single
  | @Elements.cons _ _ _ _ _ _ x xs hw h hw' hs => by
    have hspelt : IsSpelt (Literal.DerivesList n · (x :: xs)) _ :=
      (h.isSpelt.surround hw hw').join (.inl rfl) hs.isSpelt fun _ _ hx hxs => .cons hx hxs
    simpa only [List.append_assoc] using hspelt

/-- **The members of an object spell a list of properties.** A key that is
repeated is a property each time; which of them counts is decided when the
object is made. -/
theorem Members.isSpelt {n : Nat} {t : List Char} {ps : List (String × Literal)} :
    Members .kept n t ps → IsSpelt (Literal.DerivesProperties n · ps) t
  | @Members.single _ _ _ _ _ _ _ _ key x hw hk hw₁ hw₂ h hw' => by
    have hspelt : IsSpelt (Literal.DerivesProperties n · [(key, x)]) _ :=
      (isSpelt_property (hk.isSpelt_key.surround hw hw₁) (h.isSpelt.surround hw₂ hw')).mono
        fun _ ⟨_, _, hkey, hx, hks⟩ => hks ▸ .single hkey hx
    simpa only [List.append_assoc] using hspelt
  | @Members.cons _ _ _ _ _ _ _ _ _ key x ps hw hk hw₁ hw₂ h hw' hs => by
    have hspelt : IsSpelt (Literal.DerivesProperties n · ((key, x) :: ps)) _ :=
      (isSpelt_property (hk.isSpelt_key.surround hw hw₁) (h.isSpelt.surround hw₂ hw')).join
        (.inl rfl) hs.isSpelt fun _ _ ⟨_, _, hkey, hx, hks⟩ hps => hks ▸ .cons hkey hx hps
    simpa only [List.append_assoc, List.cons_append] using hspelt

end

/-- **A JSON text is accepted** as what it stands for where pairs are kept. The
grammar of literals has a derivation with the same tokens, and acceptance is
what it says. -/
theorem Derives.parseList_eq {text : String} {x : Literal}
    (h : Derives .kept Literal.maxDepth text.toList x) : Literal.parseList text = .ok [x] := by
  rw [Literal.parseList]
  generalize text.toList = t at h ⊢
  obtain ⟨hw, h, hw'⟩ := h
  obtain ⟨ks, r, hd, hclosed, hks⟩ := h.isSpelt.surround hw hw'
  refine Literal.parseListAt_of_kinds ?_ hclosed (.single hd) 0
  have hend := hks [] headNot_nil
  rwa [List.append_nil, kinds_nil] at hend

/-- **The literals of a call contain those of JSON.** A JSON text nested at most
`maxDepth` deep is accepted as one argument. Without surrogate pairs it is
accepted as what it stands for. With them nothing changes but that a pair stays
in its string as it was written, where JSON has the one character that it
names. -/
theorem parseList_json (text : String) :
    (∀ v, Derives .absent Literal.maxDepth text.toList v → Literal.parseList text = .ok [v]) ∧
      ∀ v, Derives .joined Literal.maxDepth text.toList v →
        ∃ v', Derives .kept Literal.maxDepth text.toList v' ∧ Literal.parseList text = .ok [v'] := by
  refine ⟨fun v h => ?_, fun v h => ?_⟩
  · obtain ⟨v', hkept, heq⟩ := h.exists_kept
    rw [← heq rfl]
    exact hkept.parseList_eq
  · obtain ⟨v', hkept, -⟩ := h.exists_kept
    exact ⟨v', hkept, hkept.parseList_eq⟩

/-- Two escapes that are one character in JSON. -/
theorem derives_pair {n : Nat} : Derives .joined n "\"\\ud83d\\ude00\"".toList (.string "😀") := by
  have hhigh : Code ['d', '8', '3', 'd'] 0xD83D :=
    .mk (i := 13) (j := 8) (k := 3) (l := 13) (by decide) (by decide) (by decide) (by decide)
  have hlow : Code ['d', 'e', '0', '0'] 0xDE00 :=
    .mk (i := 13) (j := 14) (k := 0) (l := 0) (by decide) (by decide) (by decide) (by decide)
  have hpair : Pair "\\ud83d\\ude00".toList '😀' :=
    .mk hhigh hlow (by decide) (by decide) (by decide)
  have hinside : Inside .joined "\\ud83d\\ude00".toList ['😀'] := .cons (.joined rfl hpair) .nil
  have hnone : IsBlanks [] := nofun
  exact @Derives.mk _ _ [] _ [] _ hnone (.string (.mk hinside)) hnone

/-- A key that is written a second time with a code, a numeral with an exponent
and a solidus with a backslash are read as the grammar says. The two halves of a
pair are read as well, but not as one character. -/
theorem parseList_json_escapes :
    (Derives .absent Literal.maxDepth
        r#"{"k": null, "\u006B": [-15e-1 , "\/"]}"#.toList
        (.object [("k", .array [.number ⟨0xBFF8000000000000⟩, .string "/"])]) ∧
      Literal.parseList r#"{"k": null, "\u006B": [-15e-1 , "\/"]}"# =
        .ok [.object [("k", .array [.number ⟨0xBFF8000000000000⟩, .string "/"])]]) ∧
      ∃ v', Derives .kept Literal.maxDepth "\"\\ud83d\\ude00\"".toList v' ∧
        Literal.parseList "\"\\ud83d\\ude00\"" = .ok [v'] := by
  have hnone : IsBlanks [] := nofun
  have hblank : IsBlanks [' '] := List.forall_mem_singleton.mpr (.inl rfl)
  have hk : Quoted .absent ['"', 'k', '"'] "k" :=
    .mk (.cons (.plain (by decide) (by decide) (by decide)) .nil)
  have hcode : Code ['0', '0', '6', 'B'] 'k'.toNat :=
    .mk (i := 0) (j := 0) (k := 6) (l := 11) (by decide) (by decide) (by decide) (by decide)
  have hk' : Quoted .absent "\"\\u006B\"".toList "k" := .mk (.cons (.code hcode) .nil)
  have hexponent : Numeral.Exponent ['e', '-', '1'] (-1) :=
    @Numeral.Exponent.minus _ ['1'] (.inl rfl) nofun (by simp)
  have hvalue : Double.ofDecimal true 15 (-1) = ⟨0xBFF8000000000000⟩ := by cbv
  have hnumber : Number "-15e-1".toList (Double.ofDecimal true 15 (-1)) :=
    @Number.mk true ['1', '5'] [] [] ['e', '-', '1'] (-1) (.digits rfl (by decide) (by simp)) .none
      hexponent (hvalue ▸ rfl)
  rw [hvalue] at hnumber
  have hslash : Quoted .absent "\"\\/\"".toList "/" := .mk (.cons (.letter (by decide)) .nil)
  have hitems : Elements .absent 126 "-15e-1 , \"\\/\"".toList _ :=
    .cons hnone (.number hnumber) hblank (.single hblank (.string hslash) hnone)
  have h : Derives .absent Literal.maxDepth
      r#"{"k": null, "\u006B": [-15e-1 , "\/"]}"#.toList
      (.object [("k", .array [.number ⟨0xBFF8000000000000⟩, .string "/"])]) :=
    @Derives.mk _ _ [] _ [] _ hnone (.object (.cons hnone hk hnone hblank .null hnone
      (.single hblank hk' hnone hblank (.array hitems) hnone))) hnone
  exact ⟨⟨h, (parseList_json _).1 _ h⟩, (parseList_json _).2 _ derives_pair⟩

/-- A pair is not read as the character that it names. -/
theorem not_parseList_joined :
    ¬∀ text v, Derives .joined Literal.maxDepth text.toList v → Literal.parseList text = .ok [v] := by
  intro h
  have hkept : Literal.parseList "\"\\ud83d\\ude00\"" = .ok [.string "\\ud83d\\ude00"] := by cbv
  have hjoined := h _ _ derives_pair
  rw [hkept] at hjoined
  simp at hjoined

end JsonGrammar

end QueryShell
