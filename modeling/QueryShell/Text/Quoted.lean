/-!
# Quoted text

The written form of a text between double quotes, as JSON has it: a quote and a
backslash are written behind a backslash, five control characters have a letter
of their own, and every other character below U+0020 is written by its four
hexadecimal digits. All else stands as it is.
-/

namespace QueryShell.Text

/-- The hexadecimal digit for a number below sixteen, in lower case. -/
def hexDigit (n : Nat) : Char :=
  Nat.digitChar n

/-- How one character is written inside a quoted text. -/
def escapeChar (c : Char) : List Char :=
  if c = '"' then ['\\', '"']
  else if c = '\\' then ['\\', '\\']
  else if c = '\x08' then ['\\', 'b']
  else if c = '\x0c' then ['\\', 'f']
  else if c = '\n' then ['\\', 'n']
  else if c = '\r' then ['\\', 'r']
  else if c = '\t' then ['\\', 't']
  else if c.toNat < 0x20 then
    ['\\', 'u', '0', '0', hexDigit (c.toNat / 16), hexDigit (c.toNat % 16)]
  else [c]

/-- The text between double quotes. -/
def quoted (cs : List Char) : List Char :=
  '"' :: cs.flatMap escapeChar ++ ['"']

end QueryShell.Text
