import QueryShell.Number.Decimal
import QueryShell.Text.Blank

/-!
# Readable sizes

A number of bytes in the largest unit that it reaches, where each unit is 1024
times the one before, with at most two decimal places. The number is a double
while it is divided, and it is rounded to its decimal places after its unit was
found.
-/

namespace QueryShell.ByteSize

def units : List String :=
  ["Bytes", "KB", "MB", "GB", "TB", "PB", "EB", "ZB", "YB"]

/-- Divides an amount by 1024 for as long as it reaches the next unit, where
`greater` units are left. The result is how often it was divided, and what
remains. -/
def reduce : (greater : Nat) → Double → Nat × Double
  | 0, amount => (0, amount)
  | greater + 1, amount =>
    if 1024 ≤ amount.truncNat then
      let (unit, amount) := reduce greater (amount.divNat 1024)
      (unit + 1, amount)
    else (0, amount)

/-- An amount with two decimal places, without the zeros at their end. -/
def amountChars (amount : Double) : List Char :=
  Text.dropEndWhile (· == '.') (Text.dropEndWhile (· == '0') (amount.fixed 2))

/-- The readable form of a number of bytes. -/
def text (bytes : UInt64) : String :=
  if bytes = 0 then "0 Bytes"
  else
    let (unit, amount) := reduce (units.length - 1) (Double.ofInt bytes.toNat)
    String.ofList (amountChars amount) ++ " " ++ units.getD unit ""

end QueryShell.ByteSize
