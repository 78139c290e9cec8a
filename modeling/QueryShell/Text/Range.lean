/-!
# Classes of characters by code point

A class of characters is kept as a list of closed ranges of code points.
-/

namespace QueryShell.Text

/-- Whether a character lies in one of some closed ranges. -/
def inSomeRange (ranges : List (Nat × Nat)) (c : Char) : Bool :=
  ranges.any fun r => r.1 ≤ c.toNat && c.toNat ≤ r.2

end QueryShell.Text
