import QueryShell.Number.Decimal
import QueryShell.Token.Lexer

/-!
# JSON as it is written

`WrittenJson` is the structure of a JSON text before anything is made of it:
numerals keep their characters, members of an object keep their order and may
repeat a key, and a string may hold a half of a surrogate pair, in which case it
stands for no text. `WrittenJson.parse?` accepts exactly one value with blanks
around it.
-/

namespace QueryShell

/-- A part of a string: a character as it stands, or the sixteen bits of an
escape. -/
inductive StringPart where
  | char (c : Char)
  | unit (n : Nat)
deriving DecidableEq, Repr

namespace StringPart

/-- The text that the parts of a string stand for. Two escapes may join to one
character; an escape for half a character has no text. -/
def text? : List StringPart → Option (List Char)
  | [] => some []
  | char c :: rest => (text? rest).map (c :: ·)
  | unit n :: unit m :: rest =>
    if 0xD800 ≤ n ∧ n < 0xDC00 then
      if 0xDC00 ≤ m ∧ m < 0xE000 then do
        let c ← Lexeme.charOfCode? (0x10000 + (n - 0xD800) * 0x400 + (m - 0xDC00))
        (text? rest).map (c :: ·)
      else none
    else do
      let c ← Lexeme.charOfCode? n
      (text? (unit m :: rest)).map (c :: ·)
  | unit n :: rest => do
    let c ← Lexeme.charOfCode? n
    (text? rest).map (c :: ·)

/-- The character that a letter behind a backslash stands for. -/
def ofLetter? : Char → Option Char
  | '"' => some '"'
  | '\\' => some '\\'
  | '/' => some '/'
  | 'b' => some '\x08'
  | 'f' => some '\x0c'
  | 'n' => some '\n'
  | 'r' => some '\r'
  | 't' => some '\t'
  | _ => none

/-- The sixteen bits that four hexadecimal digits stand for. -/
def ofDigits? (a b c d : Char) : Option Nat :=
  [a, b, c, d].foldlM (fun n x => (Lexeme.hexDigit? x).map (n * 16 + ·)) 0

/-- Reads the parts of a string from after its opening quote. -/
def scan : List Char → Option (List StringPart × List Char)
  | [] => none
  | '"' :: rest => some ([], rest)
  | '\\' :: 'u' :: a :: b :: c :: d :: rest => do
    let n ← ofDigits? a b c d
    (scan rest).map fun (parts, after) => (unit n :: parts, after)
  | '\\' :: x :: rest => do
    let c ← ofLetter? x
    (scan rest).map fun (parts, after) => (char c :: parts, after)
  | c :: rest =>
    if c.toNat < 0x20 ∨ c = '\\' then none
    else (scan rest).map fun (parts, after) => (char c :: parts, after)

end StringPart

inductive WrittenJson where
  | null
  | bool (b : Bool)
  | numeral (text : List Char)
  | string (parts : List StringPart)
  | array (items : List WrittenJson)
  | object (members : List (List StringPart × WrittenJson))
deriving Repr, Inhabited

namespace WrittenJson

/-! ### Reading -/

/-- The four blanks of JSON. -/
def isBlank (c : Char) : Bool :=
  c == ' ' || c == '\n' || c == '\t' || c == '\r'

def skipBlanks (cs : List Char) : List Char :=
  cs.dropWhile isBlank

/-- Takes one or more digits. -/
def digits? (cs : List Char) : Option (List Char × List Char) :=
  let ds := cs.takeWhile Char.isDigit
  if ds.isEmpty then none else some (ds, cs.drop ds.length)

/-- Takes the whole part of a numeral, which has no zeros in front. -/
def whole? : List Char → Option (List Char × List Char)
  | '0' :: rest => some (['0'], rest)
  | cs => digits? cs

/-- Takes the fraction of a numeral, if there is one. -/
def fraction? : List Char → Option (List Char × List Char)
  | '.' :: rest => (digits? rest).map fun (ds, after) => ('.' :: ds, after)
  | cs => some ([], cs)

/-- Takes the exponent of a numeral, if there is one. -/
def exponent? : List Char → Option (List Char × List Char)
  | [] => some ([], [])
  | e :: cs =>
    if e = 'e' ∨ e = 'E' then
      match cs with
      | '+' :: rest => (digits? rest).map fun (ds, after) => (e :: '+' :: ds, after)
      | '-' :: rest => (digits? rest).map fun (ds, after) => (e :: '-' :: ds, after)
      | _ => (digits? cs).map fun (ds, after) => (e :: ds, after)
    else some ([], e :: cs)

/-- Takes a numeral. -/
def numeral? (cs : List Char) : Option (List Char × List Char) := do
  let (sign, cs) : List Char × List Char :=
    match cs with
    | '-' :: rest => (['-'], rest)
    | _ => ([], cs)
  let (whole, cs) ← whole? cs
  let (fraction, cs) ← fraction? cs
  let (exponent, cs) ← exponent? cs
  some (sign ++ whole ++ fraction ++ exponent, cs)

mutual

/-- Reads a value. -/
def value : (fuel : Nat) → List Char → Option (WrittenJson × List Char)
  | 0, _ => none
  | fuel + 1, cs =>
    match cs with
    | 'n' :: 'u' :: 'l' :: 'l' :: rest => some (null, rest)
    | 't' :: 'r' :: 'u' :: 'e' :: rest => some (bool true, rest)
    | 'f' :: 'a' :: 'l' :: 's' :: 'e' :: rest => some (bool false, rest)
    | '"' :: rest => (StringPart.scan rest).map fun (parts, after) => (string parts, after)
    | '[' :: rest =>
      match skipBlanks rest with
      | ']' :: after => some (array [], after)
      | rest => (items fuel rest).map fun (xs, after) => (array xs, after)
    | '{' :: rest =>
      match skipBlanks rest with
      | '}' :: after => some (object [], after)
      | rest => (members fuel rest).map fun (ms, after) => (object ms, after)
    | _ => (numeral? cs).map fun (text, after) => (numeral text, after)

/-- Reads the items of an array and its closing bracket. -/
def items : (fuel : Nat) → List Char → Option (List WrittenJson × List Char)
  | 0, _ => none
  | fuel + 1, cs => do
    let (x, rest) ← value fuel (skipBlanks cs)
    match skipBlanks rest with
    | ']' :: after => some ([x], after)
    | ',' :: after => (items fuel after).map fun (xs, after) => (x :: xs, after)
    | _ => none

/-- Reads the members of an object and its closing brace. -/
def members : (fuel : Nat) → List Char → Option (List (List StringPart × WrittenJson) × List Char)
  | 0, _ => none
  | fuel + 1, cs => do
    match skipBlanks cs with
    | '"' :: rest => do
      let (key, rest) ← StringPart.scan rest
      match skipBlanks rest with
      | ':' :: rest => do
        let (x, rest) ← value fuel (skipBlanks rest)
        match skipBlanks rest with
        | '}' :: after => some ([(key, x)], after)
        | ',' :: after => (members fuel after).map fun (ms, after) => ((key, x) :: ms, after)
        | _ => none
      | _ => none
    | _ => none

end

/-- The structure of a JSON text. -/
def parse? (text : String) : Option WrittenJson := do
  let cs := skipBlanks text.toList
  let (x, rest) ← value (2 * cs.length + 2) cs
  if (skipBlanks rest).isEmpty then some x else none

/-! ### What a value stands for -/

/-- The text of a string. -/
def string? : WrittenJson → Option String
  | string parts => (StringPart.text? parts).map String.ofList
  | _ => none

/-- The integer that a numeral without a fraction or an exponent stands for. A
zero has no sign. -/
def integer? : WrittenJson → Option Int
  | numeral ('-' :: ds) =>
    if ds.all Char.isDigit ∧ ds ≠ ['0'] then some (-(Numeral.value ds : Int)) else none
  | numeral ds => if ds.all Char.isDigit then some (Numeral.value ds) else none
  | _ => none

/-- The members of an object by their keys, if every key has a text. -/
def members? : WrittenJson → Option (List (String × WrittenJson))
  | object ms => ms.mapM fun (key, x) => (StringPart.text? key).map fun k => (String.ofList k, x)
  | _ => none

end WrittenJson

end QueryShell
