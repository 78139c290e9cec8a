import QueryShell.Text.Alphanumeric
import QueryShell.Text.Blank
import QueryShell.Text.Offset
import QueryShell.Token.Basic

/-!
# Reading tokens

`Token.tokenize` cuts a text into tokens. It accepts every text: a character
that begins no token is a token of its own, and the last token is always
`TokenKind.eof`.

One token is read by `Lexeme.read`, which splits the text into the characters of
the token and the rest. Its scanners each return both halves, so that no
character is lost on the way:

## Main statements

* `Lexeme.text_append_rest`: a token and the rest make up the text.
* `Lexeme.text_ne_nil`: a token has at least one character.
-/

namespace QueryShell

/-- A token at the beginning of a text: what it is, its characters, and what
follows. -/
structure Lexeme where
  kind : TokenKind
  text : List Char
  rest : List Char

namespace Lexeme

/-! ### Quoted texts -/

/-- The inside of a quoted text: the value, the characters read, and the rest
after the quote. -/
structure Quoted where
  value : List Char
  text : List Char
  rest : List Char
  closed : Bool

namespace Quoted

/-- Puts characters before those already read. -/
def push (q : Quoted) (value text : List Char) : Quoted :=
  { q with value := value ++ q.value, text := text ++ q.text }

end Quoted

/-- The character that a letter after a backslash stands for. -/
def unescape : Char → Char
  | 'n' => '\n'
  | 't' => '\t'
  | 'r' => '\r'
  | 'b' => '\x08'
  | 'f' => '\x0c'
  | '0' => '\x00'
  | c => c

/-- The value of a hexadecimal digit. -/
def hexDigit? (c : Char) : Option Nat :=
  if c.isDigit then some (c.toNat - '0'.toNat)
  else if 'a' ≤ c ∧ c ≤ 'f' then some (c.toNat - 'a'.toNat + 10)
  else if 'A' ≤ c ∧ c ≤ 'F' then some (c.toNat - 'A'.toNat + 10)
  else none

/-- The character with the given code point; half of a surrogate pair is no
character. -/
def charOfCode? (n : Nat) : Option Char :=
  if n < 0xD800 ∨ (0xDFFF < n ∧ n < 0x110000) then some (Char.ofNat n) else none

/-- The character that four hexadecimal digits name. -/
def charOfHex? (a b c d : Char) : Option Char := do
  let a ← hexDigit? a
  let b ← hexDigit? b
  let c ← hexDigit? c
  let d ← hexDigit? d
  charOfCode? (((a * 16 + b) * 16 + c) * 16 + d)

/-- Reads a quoted text from after its opening quote. A backslash before `u` and
four hexadecimal digits that name a character gives that character, any other
`\u` stays as it is, and a backslash before another character gives what
`unescape` says. -/
def readQuoted (quote : Char) : List Char → Quoted
  | [] => ⟨[], [], [], false⟩
  | c :: cs =>
    if c = quote then ⟨[], [c], cs, true⟩
    else if c = '\\' then
      match cs with
      | [] => ⟨[], [c], [], false⟩
      | 'u' :: h₁ :: h₂ :: h₃ :: h₄ :: rest =>
        match charOfHex? h₁ h₂ h₃ h₄ with
        | some x => (readQuoted quote rest).push [x] ['\\', 'u', h₁, h₂, h₃, h₄]
        | none => (readQuoted quote (h₁ :: h₂ :: h₃ :: h₄ :: rest)).push ['\\', 'u'] ['\\', 'u']
      | 'u' :: rest => (readQuoted quote rest).push ['\\', 'u'] ['\\', 'u']
      | e :: rest => (readQuoted quote rest).push [unescape e] ['\\', e]
    else (readQuoted quote cs).push [c] [c]
termination_by structural cs => cs

theorem readQuoted_append (quote : Char) (cs : List Char) :
    (readQuoted quote cs).text ++ (readQuoted quote cs).rest = cs := by
  fun_induction readQuoted quote cs <;> simp_all [Quoted.push]

/-! ### Regular expressions -/

/-- The inside of a regular expression: the pattern, the characters read, and
the rest. -/
structure Pattern where
  pattern : List Char
  text : List Char
  rest : List Char
  closed : Bool

namespace Pattern

/-- Puts characters of the pattern before those already read. -/
def push (p : Pattern) (text : List Char) : Pattern :=
  { p with pattern := text ++ p.pattern, text := text ++ p.text }

end Pattern

/-- Reads a regular expression from after its opening slash. A slash closes it
unless it stands in a character class (`inClass`) or behind a backslash, and
the end of the line leaves it unclosed. -/
def readPattern : (inClass : Bool) → List Char → Pattern
  | _, [] => ⟨[], [], [], false⟩
  | inClass, c :: cs =>
    if c = '\\' then
      match cs with
      | [] => ⟨[c], [c], [], false⟩
      | e :: rest => (readPattern inClass rest).push [c, e]
    else if c = '[' then (readPattern true cs).push [c]
    else if c = ']' then (readPattern false cs).push [c]
    else if c = '/' ∧ inClass = false then ⟨[], [c], cs, true⟩
    else if c = '\n' then ⟨[], [], c :: cs, false⟩
    else (readPattern inClass cs).push [c]
termination_by structural _ cs => cs

theorem readPattern_append (inClass : Bool) (cs : List Char) :
    (readPattern inClass cs).text ++ (readPattern inClass cs).rest = cs := by
  fun_induction readPattern inClass cs <;> simp_all [Pattern.push]

/-! ### Numerals and words -/

/-- The fraction at the beginning of a text: a point and at least one digit, or
nothing. -/
def fraction : List Char → List Char
  | '.' :: d :: rest => if d.isDigit then '.' :: d :: rest.takeWhile Char.isDigit else []
  | _ => []

/-- The exponent at the beginning of a text: `e` or `E`, perhaps a sign, and at
least one digit, or nothing. -/
def exponent : List Char → List Char
  | e :: d :: rest =>
    if e = 'e' ∨ e = 'E' then
      if d.isDigit then e :: d :: rest.takeWhile Char.isDigit
      else if d = '+' ∨ d = '-' then
        match rest with
        | d' :: rest' => if d'.isDigit then e :: d :: d' :: rest'.takeWhile Char.isDigit else []
        | [] => []
      else []
    else []
  | _ => []

/-- The numeral at the beginning of a text. -/
def numeral (cs : List Char) : List Char :=
  let whole := cs.takeWhile Char.isDigit
  let afterWhole := cs.drop whole.length
  let frac := fraction afterWhole
  let afterFrac := afterWhole.drop frac.length
  whole ++ frac ++ exponent afterFrac

/-- Characters that continue a word. -/
def isWordChar (c : Char) : Bool :=
  Text.isAlphanumeric c || c == '_' || c == '$'

/-- Characters that begin a word. -/
def isWordStart (c : Char) : Bool :=
  c.isAlpha || c == '_' || c == '$'

def isOperatorChar (c : Char) : Bool :=
  "+-*/%!<>=&|?^~".toList.contains c

def isQuote (c : Char) : Bool :=
  c == '"' || c == '\'' || c == '\x60'

/-- The token that a single character is. -/
def punctuation : Char → TokenKind
  | '.' => .dot
  | '(' => .opener .paren
  | ')' => .closer .paren
  | '{' => .opener .brace
  | '}' => .closer .brace
  | '[' => .opener .square
  | ']' => .closer .square
  | ',' => .comma
  | ':' => .colon
  | ';' => .semicolon
  | c => if isOperatorChar c then .operator c else .unknown c

/-- The token of a word. -/
def wordKind (w : List Char) : TokenKind :=
  if w = ['d', 'b'] then .db else .ident (String.ofList w)

/-- Reads the token at the beginning of the text `c :: cs`, which is not blank.
Whether a slash begins a regular expression is up to the token before. -/
def read (regexAllowed : Bool) (c : Char) (cs : List Char) : Lexeme :=
  if isQuote c then
    let q := readQuoted c cs
    ⟨.string (String.ofList q.value) c q.closed, c :: q.text, q.rest⟩
  else if c = '/' ∧ regexAllowed = true then
    let p := readPattern false cs
    let flags := if p.closed then p.rest.takeWhile Char.isAlpha else []
    ⟨.regex (String.ofList p.pattern) (String.ofList flags) p.closed,
      c :: p.text ++ flags, p.rest.drop flags.length⟩
  else if c.isDigit then
    let n := numeral (c :: cs)
    ⟨.number (String.ofList n), n, (c :: cs).drop n.length⟩
  else if isWordStart c then
    ⟨wordKind (c :: cs.takeWhile isWordChar), c :: cs.takeWhile isWordChar,
      cs.dropWhile isWordChar⟩
  else ⟨punctuation c, [c], cs⟩

/-! ### A token and the rest make up the text -/

private theorem takeWhile_eq_take (p : Char → Bool) (cs : List Char) :
    cs.takeWhile p ++ cs.drop (cs.takeWhile p).length = cs := by
  induction cs with
  | nil => rfl
  | cons c cs ih =>
    simp only [List.takeWhile_cons]
    split <;> simp_all

theorem fraction_append (cs : List Char) : fraction cs ++ cs.drop (fraction cs).length = cs := by
  unfold fraction
  split
  · split
    · simpa using takeWhile_eq_take _ _
    · rfl
  · rfl

theorem exponent_append (cs : List Char) : exponent cs ++ cs.drop (exponent cs).length = cs := by
  unfold exponent
  split
  · split
    · split
      · simpa using takeWhile_eq_take _ _
      · split
        · split
          · split
            · simpa using takeWhile_eq_take _ _
            · rfl
          · rfl
        · rfl
    · rfl
  · rfl

theorem numeral_append (cs : List Char) : numeral cs ++ cs.drop (numeral cs).length = cs := by
  have h₁ := takeWhile_eq_take Char.isDigit cs
  have h₂ := fraction_append (cs.drop (cs.takeWhile Char.isDigit).length)
  have h₃ := exponent_append
    ((cs.drop (cs.takeWhile Char.isDigit).length).drop
      (fraction (cs.drop (cs.takeWhile Char.isDigit).length)).length)
  simp only [numeral, List.length_append, List.append_assoc]
  rw [← List.drop_drop, ← List.drop_drop, h₃, h₂, h₁]

theorem text_append_rest (regexAllowed : Bool) (c : Char) (cs : List Char) :
    (read regexAllowed c cs).text ++ (read regexAllowed c cs).rest = c :: cs := by
  unfold read
  split
  · simpa using readQuoted_append c cs
  split
  · have h := readPattern_append false cs
    simp only [List.cons_append, List.append_assoc, List.cons.injEq, true_and]
    split
    · rw [takeWhile_eq_take, h]
    · simpa using h
  split
  · exact numeral_append _
  split
  · simp
  · rfl

theorem text_ne_nil (regexAllowed : Bool) (c : Char) (cs : List Char) :
    (read regexAllowed c cs).text ≠ [] := by
  unfold read
  split
  · simp
  split
  · simp
  split
  · next h => simp [numeral, h]
  split <;> simp

theorem length_rest_lt (regexAllowed : Bool) (c : Char) (cs : List Char) :
    (read regexAllowed c cs).rest.length < cs.length + 1 := by
  have h := congrArg List.length (text_append_rest regexAllowed c cs)
  have h' := List.length_pos_iff.mpr (text_ne_nil regexAllowed c cs)
  simp only [List.length_append, List.length_cons] at h
  omega

end Lexeme

namespace Token

/-- Reads the tokens of a text that begins at the byte offset `pos`. Blanks are
skipped and leave `regexAllowed` as it is. -/
def tokenizeFrom (pos : Nat) (regexAllowed : Bool) : List Char → List Token
  | [] => [⟨.eof, ⟨pos, pos⟩⟩]
  | c :: cs =>
    if Text.isBlank c then tokenizeFrom (pos + c.utf8Size) regexAllowed cs
    else
      let x := Lexeme.read regexAllowed c cs
      let stop := pos + Text.byteLength x.text
      ⟨x.kind, ⟨pos, stop⟩⟩ :: tokenizeFrom stop x.kind.allowsRegex x.rest
termination_by cs => cs.length
decreasing_by
  · simp
  · exact Lexeme.length_rest_lt regexAllowed c cs

/-- The tokens of a text whose first byte has the offset `base`. -/
def tokenizeAt (base : Nat) (text : List Char) : List Token :=
  tokenizeFrom base true text

/-- The tokens of a text, the last of which is `TokenKind.eof`. -/
def tokenize (text : List Char) : List Token :=
  tokenizeAt 0 text

end Token

end QueryShell
