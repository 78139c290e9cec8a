/-!
# Decimal texts of integers
-/

namespace QueryShell

/-- The decimal digits of a natural number. -/
def decimalNat (n : Nat) : List Char :=
  Nat.toDigits 10 n

/-- The decimal digits of an integer, behind a minus sign if it is negative. -/
def decimalInt (n : Int) : List Char :=
  if n < 0 then '-' :: decimalNat n.natAbs else decimalNat n.natAbs

end QueryShell
