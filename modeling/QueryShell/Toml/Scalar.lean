import QueryShell.Number.Decimal
import QueryShell.Toml.Basic
import QueryShell.Token.Lexer

/-!
# TOML scalars

Reading the parts of a TOML document that hold no others: blanks and comments,
strings, keys, and the values that are written without quotes. Each reader takes
its part from the beginning of a text and gives back the rest; it gives `none`
for a text that is no TOML.
-/

namespace QueryShell.Toml

/-! ### Blanks and comments -/

def isSpace (c : Char) : Bool :=
  c == ' ' || c == '\t'

def skipSpaces (cs : List Char) : List Char :=
  cs.dropWhile isSpace

/-- Control characters that no string and no comment may hold. -/
def isForbidden (c : Char) : Bool :=
  (c.toNat < 0x20 && c != '\t') || c.toNat == 0x7F

/-- What follows a line break. -/
def newline? : List Char → Option (List Char)
  | '\n' :: rest => some rest
  | '\r' :: '\n' :: rest => some rest
  | _ => none

/-- What follows a comment, which ends before the line break; all of the text if
there is none. -/
def skipComment : List Char → Option (List Char)
  | '#' :: rest =>
    let after := rest.dropWhile fun c => !isForbidden c
    if after.isEmpty || (newline? after).isSome then some after else none
  | cs => some cs

/-- What follows a line that has come to its end: a comment and a line break, or
the end. -/
def endLine? (cs : List Char) : Option (List Char) := do
  let cs ← skipComment (skipSpaces cs)
  if cs.isEmpty then some [] else newline? cs

/-- What follows any number of blanks, line breaks and comments. -/
def skipLines : (fuel : Nat) → List Char → Option (List Char)
  | 0, cs => some cs
  | fuel + 1, cs => do
    let cs ← skipComment (skipSpaces cs)
    match newline? cs with
    | some rest => skipLines fuel rest
    | none => some cs

/-! ### Strings -/

/-- The number that hexadecimal digits stand for. -/
def hexValue? (ds : List Char) : Option Nat :=
  ds.foldlM (fun n d => (Lexeme.hexDigit? d).map (n * 16 + ·)) 0

/-- The character that an escape stands for, from after its backslash. -/
def escape? : List Char → Option (Char × List Char)
  | 'b' :: rest => some ('\x08', rest)
  | 't' :: rest => some ('\t', rest)
  | 'n' :: rest => some ('\n', rest)
  | 'f' :: rest => some ('\x0c', rest)
  | 'r' :: rest => some ('\r', rest)
  | 'e' :: rest => some ('\x1b', rest)
  | '"' :: rest => some ('"', rest)
  | '\\' :: rest => some ('\\', rest)
  | 'x' :: rest => code 2 rest
  | 'u' :: rest => code 4 rest
  | 'U' :: rest => code 8 rest
  | _ => none
where
  /-- The character with the code point that the first `n` digits name. -/
  code (n : Nat) (cs : List Char) : Option (Char × List Char) := do
    if cs.length < n then none
    let value ← hexValue? (cs.take n)
    let c ← Lexeme.charOfCode? value
    some (c, cs.drop n)

/-- Reads a string from after its opening double quote. -/
def basic : (fuel : Nat) → List Char → Option (List Char × List Char)
  | 0, _ => none
  | _ + 1, [] => none
  | fuel + 1, c :: cs =>
    if c = '"' then some ([], cs)
    else if c = '\\' then do
      let (x, rest) ← escape? cs
      let (s, rest) ← basic fuel rest
      some (x :: s, rest)
    else if isForbidden c then none
    else do
      let (s, rest) ← basic fuel cs
      some (c :: s, rest)

/-- Reads a string from after its opening apostrophe. -/
def literal (cs : List Char) : Option (List Char × List Char) :=
  let body := cs.takeWhile fun c => c != '\'' && !isForbidden c
  match cs.drop body.length with
  | '\'' :: rest => some (body, rest)
  | _ => none

/-- The line break at the beginning of a text with several lines does not belong
to it. -/
def skipFirstBreak (cs : List Char) : List Char :=
  (newline? cs).getD cs

/-- Drops blanks and line breaks. -/
def skipFold : (fuel : Nat) → List Char → List Char
  | 0, cs => cs
  | fuel + 1, cs =>
    match newline? (skipSpaces cs) with
    | some rest => skipFold fuel rest
    | none => skipSpaces cs

/-- Reads a string over several lines from after its opening quotes. A line
break stands for itself, whichever of the two it is, and a backslash at the end
of a line joins it to the next text. Up to two quotes may stand before the
closing ones. -/
def basicLines : (fuel : Nat) → List Char → Option (List Char × List Char)
  | 0, _ => none
  | _ + 1, [] => none
  | fuel + 1, c :: cs =>
    match c, cs with
    | '"', '"' :: '"' :: '"' :: '"' :: rest => some (['"', '"'], rest)
    | '"', '"' :: '"' :: '"' :: rest => some (['"'], rest)
    | '"', '"' :: '"' :: rest => some ([], rest)
    | '\\', rest =>
      match newline? (skipSpaces rest) with
      | some next => basicLines fuel (skipFold next.length next)
      | none => do
        let (x, rest) ← escape? rest
        let (s, rest) ← basicLines fuel rest
        some (x :: s, rest)
    | c, rest =>
      if isForbidden c && (newline? (c :: rest)).isNone then none
      else do
        let (s, rest) ← basicLines fuel rest
        some (c :: s, rest)

/-- Reads a string over several lines from after its opening apostrophes. Line
breaks and quotes are as in `basicLines`. -/
def literalLines : (fuel : Nat) → List Char → Option (List Char × List Char)
  | 0, _ => none
  | _ + 1, [] => none
  | fuel + 1, c :: cs =>
    match c, cs with
    | '\'', '\'' :: '\'' :: '\'' :: '\'' :: rest => some (['\'', '\''], rest)
    | '\'', '\'' :: '\'' :: '\'' :: rest => some (['\''], rest)
    | '\'', '\'' :: '\'' :: rest => some ([], rest)
    | c, rest =>
      if isForbidden c && (newline? (c :: rest)).isNone then none
      else do
        let (s, rest) ← literalLines fuel rest
        some (c :: s, rest)

/-- Reads a string of any form, quotes included. -/
def quotedString (cs : List Char) : Option (String × List Char) :=
  let result :=
    match cs with
    | '"' :: '"' :: '"' :: rest => basicLines (rest.length + 1) (skipFirstBreak rest)
    | '\'' :: '\'' :: '\'' :: rest => literalLines (rest.length + 1) (skipFirstBreak rest)
    | '"' :: rest => basic (rest.length + 1) rest
    | '\'' :: rest => literal rest
    | _ => none
  result.map fun (s, rest) => (String.ofList s, rest)

/-! ### Keys -/

def isBareKeyChar (c : Char) : Bool :=
  c.isAlphanum || c == '-' || c == '_'

/-- Reads one part of a key. -/
def simpleKey (cs : List Char) : Option (String × List Char) :=
  match cs with
  | '"' :: rest => (basic (rest.length + 1) rest).map fun (s, rest) => (String.ofList s, rest)
  | '\'' :: rest => (literal rest).map fun (s, rest) => (String.ofList s, rest)
  | _ =>
    let word := cs.takeWhile isBareKeyChar
    if word.isEmpty then none else some (String.ofList word, cs.drop word.length)

/-- Reads the parts of a key, which are joined by points: all parts but the
last, and the last. -/
def keyParts : (fuel : Nat) → List Char → Option ((List String × String) × List Char)
  | 0, _ => none
  | fuel + 1, cs => do
    let (key, rest) ← simpleKey (skipSpaces cs)
    match skipSpaces rest with
    | '.' :: rest => do
      let ((path, last), rest) ← keyParts fuel rest
      some ((key :: path, last), rest)
    | rest => some (([], key), rest)

/-- How deep values may be nested, and how many parts a key may have. -/
def maxDepth : Nat := 80

/-- Reads a key: all of its parts but the last, and the last. -/
def dottedKey (cs : List Char) : Option ((List String × String) × List Char) := do
  let ((path, key), rest) ← keyParts cs.length cs
  if path.length < maxDepth then some ((path, key), rest) else none

/-! ### Values without quotes -/

/-- Removes single underscores between digits; there may be no others. -/
def joinDigits (isDigit : Char → Bool) : List Char → Option (List Char)
  | [] => some []
  | d :: '_' :: e :: rest =>
    if isDigit d && isDigit e then (joinDigits isDigit (e :: rest)).map (d :: ·) else none
  | d :: rest => if isDigit d then (joinDigits isDigit rest).map (d :: ·) else none

def isHexDigit (c : Char) : Bool :=
  (Lexeme.hexDigit? c).isSome

/-- The number that digits of a base stand for. -/
def valueInBase (base : Nat) (ds : List Char) : Nat :=
  ds.foldl (fun n d => n * base + (Lexeme.hexDigit? d).getD 0) 0

/-- The decimal digits of an integer, without zeros in front. -/
def wholeDigits? (cs : List Char) : Option (List Char) := do
  let ds ← joinDigits Char.isDigit cs
  if ds.isEmpty || (ds.head? == some '0' && ds.length != 1) then none else some ds

/-- An optional sign and the rest. -/
def splitSign : List Char → Bool × List Char
  | '-' :: cs => (true, cs)
  | '+' :: cs => (false, cs)
  | cs => (false, cs)

/-- The integer that a word stands for. -/
def integer? (cs : List Char) : Option Int :=
  let based (base : Nat) (isDigit : Char → Bool) (ds : List Char) : Option Int := do
    if ds.isEmpty then none
    let ds ← joinDigits isDigit ds
    some (valueInBase base ds)
  match cs with
  | '0' :: 'x' :: ds => based 16 isHexDigit ds
  | '0' :: 'o' :: ds => based 8 (fun c => c.isDigit && c.toNat < 56) ds
  | '0' :: 'b' :: ds => based 2 (fun c => c == '0' || c == '1') ds
  | _ => do
    let (negative, ds) := splitSign cs
    let ds ← wholeDigits? ds
    let n : Int := valueInBase 10 ds
    some (if negative then -n else n)

/-- The exponent of a number, from its letter on, without underscores. -/
def exponent? : List Char → Option (List Char)
  | e :: cs => do
    if e != 'e' && e != 'E' then none
    let digits := (splitSign cs).2
    if digits.isEmpty then none
    some (e :: cs.take (cs.length - digits.length) ++ (← joinDigits Char.isDigit digits))
  | [] => none

/-- The numeral with a fraction or an exponent that a word without a sign is,
without underscores. -/
def numeral? (cs : List Char) : Option (List Char) := do
  let isPart (c : Char) : Bool := c.isDigit || c == '_'
  let whole := cs.takeWhile isPart
  let digits ← wholeDigits? whole
  match cs.drop whole.length with
  | '.' :: more =>
    let fraction := more.takeWhile isPart
    let tail := more.drop fraction.length
    if fraction.isEmpty then none
    let exponent ← if tail.isEmpty then some [] else exponent? tail
    some (digits ++ '.' :: (← joinDigits Char.isDigit fraction) ++ exponent)
  | tail => do some (digits ++ (← exponent? tail))

/-- Whether a word is a number with a fraction or an exponent, or the name of
one. A numeral must not be too large for a double. -/
def isFloat (cs : List Char) : Bool :=
  let body := (splitSign cs).2
  body == ['i', 'n', 'f'] || body == ['n', 'a', 'n'] ||
    ((numeral? body).bind Double.ofNumeral?).any Double.isFinite

/-- The number that exactly `n` digits at the beginning of a text stand for. -/
def fixedDigits (n : Nat) (cs : List Char) : Option (Nat × List Char) :=
  let ds := cs.take n
  if ds.length = n && ds.all Char.isDigit then some (valueInBase 10 ds, cs.drop n) else none

/-- The rest after a given character. -/
def expect (c : Char) : List Char → Option (List Char)
  | d :: cs => if d = c then some cs else none
  | [] => none

def isLeapYear (y : Nat) : Bool :=
  y % 4 == 0 && (y % 100 != 0 || y % 400 == 0)

def daysInMonth (y m : Nat) : Nat :=
  if m = 2 then (if isLeapYear y then 29 else 28)
  else if m = 4 || m = 6 || m = 9 || m = 11 then 30 else 31

/-- What follows a date. -/
def afterDate? (cs : List Char) : Option (List Char) := do
  let (y, cs) ← fixedDigits 4 cs
  let (m, cs) ← fixedDigits 2 (← expect '-' cs)
  let (d, cs) ← fixedDigits 2 (← expect '-' cs)
  if 1 ≤ m ∧ m ≤ 12 ∧ 1 ≤ d ∧ d ≤ daysInMonth y m then some cs else none

/-- What follows a time of day, whose seconds may be left out. -/
def afterTime? (cs : List Char) : Option (List Char) := do
  let (h, cs) ← fixedDigits 2 cs
  let (m, cs) ← fixedDigits 2 (← expect ':' cs)
  if 23 < h ∨ 59 < m then none
  match cs with
  | ':' :: cs => do
    let (s, cs) ← fixedDigits 2 cs
    if 60 < s then none
    match cs with
    | '.' :: more =>
      let fraction := more.takeWhile Char.isDigit
      if fraction.isEmpty then none else some (more.drop fraction.length)
    | _ => some cs
  | _ => some cs

/-- Whether a word is the offset of a time zone, or nothing. -/
def isOffset : List Char → Bool
  | [] => true
  | ['Z'] => true
  | ['z'] => true
  | c :: cs =>
    (c == '+' || c == '-') &&
      match fixedDigits 2 cs with
      | some (h, ':' :: cs) =>
        match fixedDigits 2 cs with
        | some (m, []) => decide (h ≤ 23 ∧ m ≤ 59)
        | _ => false
      | _ => false

/-- Whether a word is a date, a time, or a date with a time and perhaps a
zone. -/
def isDateTime (cs : List Char) : Bool :=
  match afterDate? cs with
  | some [] => true
  | some (c :: rest) =>
    (c == 'T' || c == 't' || c == ' ') &&
      match afterTime? rest with
      | some zone => isOffset zone
      | none => false
  | none => afterTime? cs == some []

/-- Characters of a word that is a value. -/
def isWordChar (c : Char) : Bool :=
  c.isAlphanum || c == '_' || c == '+' || c == '-' || c == '.' || c == ':'

/-- Reads a value without quotes. A date may have a blank before its time. -/
def word (cs : List Char) : Option (Value × List Char) :=
  let w := cs.takeWhile isWordChar
  let rest := cs.drop w.length
  let (w, rest) :=
    match afterDate? w, rest with
    | some [], ' ' :: d :: more =>
      if d.isDigit then
        let time := (d :: more).takeWhile isWordChar
        (w ++ ' ' :: time, (d :: more).drop time.length)
      else (w, rest)
    | _, _ => (w, rest)
  let value? : Option Value :=
    if w = "true".toList then some (.boolean true)
    else if w = "false".toList then some (.boolean false)
    else
      match integer? w with
      | some n => if -2 ^ 127 ≤ n ∧ n < 2 ^ 128 then some (.integer n) else none
      | none =>
        if isFloat w then some (.float (String.ofList w))
        else if isDateTime w then some (.dateTime (String.ofList w))
        else none
  value?.map fun v => (v, rest)

end QueryShell.Toml
