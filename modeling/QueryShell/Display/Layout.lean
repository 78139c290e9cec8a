import QueryShell.Json.Printer
import QueryShell.Json.Reread

/-!
# Layouts of JSON

Results are shown as JSON on one line or on several. With colours on, the text
on several lines is read and written again with two spaces a level, whatever its
own indent was; a text that cannot be read again stays as it is. Text on one
line is for other programs and takes no colours.
-/

namespace QueryShell

structure JsonLayout where
  pretty : Bool := true
  /-- The spaces of a level. -/
  indent : Nat := 2
  coloured : Bool := false
deriving DecidableEq, Repr

namespace JsonLayout

/-- The text of a value. -/
def chars (l : JsonLayout) (x : Json) : List Char :=
  if l.pretty then
    if l.coloured then
      match x.reread? with
      | some y => y.pretty 2
      | none => x.pretty l.indent
    else x.pretty l.indent
  else x.compact

end JsonLayout

end QueryShell
