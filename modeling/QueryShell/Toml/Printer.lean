import QueryShell.Text.Quoted
import QueryShell.Toml.Basic

/-!
# Writing TOML

A string has four written forms: between single or triple quotes, which may be
double quotes, with escapes, or apostrophes, without. `Toml.quoted` takes the
one that needs the fewest escapes, and of those the plainest. An array takes a
line for each of its elements, and a single line if it has no more than one.
-/

namespace QueryShell.Toml

/-- Control characters that have to be escaped; tabs and line breaks are not
among them. -/
def isControl (c : Char) : Bool :=
  (c.toNat < 0x20 && c != '\t' && c != '\n') || c.toNat == 0x7F

/-- The length of the longest run of a character, if a run of `run` of them has
just been passed. -/
def longestRun (c : Char) : (run : Nat) → List Char → Nat
  | run, [] => run
  | run, d :: ds => if d = c then longestRun c (run + 1) ds else max run (longestRun c 0 ds)

/-- The written forms of a string. -/
inductive StringForm where
  | basic
  | literal
  | basicLines
  | literalLines
deriving DecidableEq, Repr

namespace StringForm

/-- The form that a text is written in. -/
def ofText (cs : List Char) : StringForm :=
  let quotes := longestRun '"' 0 cs
  let apostrophes := longestRun '\'' 0 cs
  let hasBreak := cs.contains '\n'
  let hasControl := cs.any isControl
  let hasEscape := hasControl || cs.contains '\\'
  if !hasEscape && quotes = 0 && !hasBreak then basic
  else if !hasControl && apostrophes = 0 && !hasBreak then literal
  else if !hasEscape && quotes ≤ 2 then basicLines
  else if !hasControl && apostrophes ≤ 2 then literalLines
  else if hasBreak then basicLines
  else basic

end StringForm

/-- A hexadecimal digit in upper case. -/
def upperHexDigit (n : Nat) : Char :=
  (Text.hexDigit n).toUpper

/-- How a character is written between double quotes. -/
def escaped (c : Char) : List Char :=
  match c with
  | '\x08' => ['\\', 'b']
  | '\t' => ['\\', 't']
  | '\n' => ['\\', 'n']
  | '\x0c' => ['\\', 'f']
  | '\r' => ['\\', 'r']
  | '\\' => ['\\', '\\']
  | _ =>
    if isControl c then
      ['\\', 'u', '0', '0', upperHexDigit (c.toNat / 16), upperHexDigit (c.toNat % 16)]
    else [c]

/-- A text between double quotes. -/
def escapedText (cs : List Char) : List Char :=
  cs.flatMap fun c => if c = '"' then ['\\', '"'] else escaped c

/-- A text between triple double quotes: line breaks stand for themselves, and
of a run of quotes every third is escaped. `run` quotes have just been
passed. -/
def escapedLines : (run : Nat) → List Char → List Char
  | _, [] => []
  | run, c :: cs =>
    if c = '"' then
      if run = 2 then '\\' :: '"' :: escapedLines 0 cs else '"' :: escapedLines (run + 1) cs
    else (if c = '\n' then [c] else escaped c) ++ escapedLines 0 cs

/-- A string with its quotes. A text with several lines begins on a line of its
own. -/
def quoted (cs : List Char) : List Char :=
  let first : List Char := if cs.contains '\n' then ['\n'] else []
  match StringForm.ofText cs with
  | .basic => '"' :: escapedText cs ++ ['"']
  | .literal => '\'' :: cs ++ ['\'']
  | .basicLines => '"' :: '"' :: '"' :: first ++ escapedLines 0 cs ++ ['"', '"', '"']
  | .literalLines => '\'' :: '\'' :: '\'' :: first ++ cs ++ ['\'', '\'', '\'']

/-- An array of strings. -/
def quotedItems (items : List String) : List Char :=
  match items with
  | [] => ['[', ']']
  | [s] => '[' :: quoted s.toList ++ [']']
  | _ =>
    '[' :: '\n' ::
      items.flatMap (fun s => "    ".toList ++ quoted s.toList ++ [',', '\n']) ++ [']']

end QueryShell.Toml
