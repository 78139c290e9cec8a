/-!
# Double-precision numbers

A `Double` is the 64 bits of an IEEE 754 binary64 value, and equality of doubles
is equality of bits: the two zeros differ. Nothing here computes in floating
point. A finite double is read as a natural significand times a power of two
(`Double.significand`, `Double.scale`), and a double is made from an exact
quotient of naturals, rounded to nearest with ties to even (`Double.ofRatio`).

## Main definitions

* `Double.ofRatio`, `Double.ofDecimal`, `Double.ofInt`: the double nearest to an
  exact value.
* `Double.integral?`: the integer a double stands for, if it stands for one
  exactly.
-/

namespace QueryShell

-- Powers mean one thing in every module: the definitions here load no algebra, and the proofs about
-- them do, which would bring another power with it.
attribute [instance (high), default_instance 20000] instPowNat

/-- A binary64 number, given by its bits. -/
structure Double where
  bits : UInt64
deriving DecidableEq, Repr, Inhabited

namespace Double

/-- Whether the sign bit is set; a zero may have it set too. -/
def isNegative (x : Double) : Bool :=
  decide (2 ^ 63 ≤ x.bits.toNat)

/-- The biased exponent, from 0 to 2047. -/
def exponentField (x : Double) : Nat :=
  x.bits.toNat / 2 ^ 52 % 2048

/-- The 52 bits after the exponent. -/
def fractionField (x : Double) : Nat :=
  x.bits.toNat % 2 ^ 52

def isFinite (x : Double) : Bool :=
  x.exponentField != 2047

def isNaN (x : Double) : Bool :=
  x.exponentField == 2047 && x.fractionField != 0

def isZero (x : Double) : Bool :=
  x.exponentField == 0 && x.fractionField == 0

/-- A finite double is `± significand * 2 ^ scale`. -/
def significand (x : Double) : Nat :=
  if x.exponentField = 0 then x.fractionField else 2 ^ 52 + x.fractionField

/-- The power of two that goes with `significand`. -/
def scale (x : Double) : Int :=
  if x.exponentField = 0 then -1074 else (x.exponentField : Int) - 1075

/-- The number with the given magnitude bits and sign. -/
def ofMagnitude (negative : Bool) (magnitude : Nat) : Double :=
  ⟨UInt64.ofNat (if negative then 2 ^ 63 + magnitude else magnitude)⟩

/-- The bits of positive infinity. -/
def infinityBits : Nat := 2047 * 2 ^ 52

/-- The same number with the other sign. -/
def neg (x : Double) : Double :=
  ofMagnitude (!x.isNegative) (x.bits.toNat % 2 ^ 63)

/-- The quotient rounded to the nearest natural, a tie going to the even one. -/
def roundDiv (num den : Nat) : Nat :=
  let q := num / den
  let r := num % den
  if 2 * r < den then q
  else if den < 2 * r then q + 1
  else if q % 2 = 0 then q else q + 1

/-- The greatest `b` with `2 ^ b ≤ num / den`, for positive arguments. -/
def floorLog2 (num den : Nat) : Int :=
  let b : Int := (num.log2 : Int) - (den.log2 : Int)
  if den * 2 ^ b.toNat ≤ num * 2 ^ (-b).toNat then b else b - 1

/-- The magnitude bits of the double nearest to `num / den`. The significand is
rounded on the grid of its binade, or on the grid of the subnormals below the
least binade; a carry out of the significand moves into the exponent by
itself. -/
def nearestBits (num den : Nat) : Nat :=
  if num = 0 then 0
  else
    let q := max (floorLog2 num den - 52) (-1074)
    let m := roundDiv (num * 2 ^ (-q).toNat) (den * 2 ^ q.toNat)
    min ((q + 1074).toNat * 2 ^ 52 + m) infinityBits

/-- The double nearest to `± num / den`; a magnitude too large for a finite one
is infinite. -/
def ofRatio (negative : Bool) (num den : Nat) : Double :=
  ofMagnitude negative (nearestBits num den)

/-- The double nearest to `± digits * 10 ^ exponent`. Exponents so large that
the result is certainly infinite, or so small that it is certainly zero, are not
expanded. -/
def ofDecimal (negative : Bool) (digits : Nat) (exponent : Int) : Double :=
  if digits = 0 then ofMagnitude negative 0
  else if 400 < exponent then ofMagnitude negative infinityBits
  else if (digits.log2 : Int) + 1 + 3 * exponent ≤ -1076 then ofMagnitude negative 0
  else ofRatio negative (digits * 10 ^ exponent.toNat) (10 ^ (-exponent).toNat)

/-- The double nearest to an integer. -/
def ofInt (n : Int) : Double :=
  ofRatio (decide (n < 0)) n.natAbs 1

/-- The double nearest to the quotient of a finite double by a positive
natural. -/
def divNat (x : Double) (n : Nat) : Double :=
  ofRatio x.isNegative (x.significand * 2 ^ x.scale.toNat) (2 ^ (-x.scale).toNat * n)

/-- The magnitude with its fraction cut off; for a finite double. -/
def truncNat (x : Double) : Nat :=
  x.significand * 2 ^ x.scale.toNat / 2 ^ (-x.scale).toNat

/-- The number with its fraction cut off; for a finite double. -/
def trunc (x : Double) : Int :=
  if x.isNegative then -(x.truncNat : Int) else x.truncNat

/-- Whether a finite double has no fraction. -/
def isWhole (x : Double) : Bool :=
  x.significand * 2 ^ x.scale.toNat % 2 ^ (-x.scale).toNat == 0

/-- The number as a 64-bit integer: the fraction is cut off, a number out of
range becomes the least or the greatest integer, and what is not a number
becomes zero. -/
def toInt64 (x : Double) : Int64 :=
  if x.isNaN then 0 else Int64.ofInt (max Int64.minValue.toInt (min x.trunc Int64.maxValue.toInt))

/-- The integer that a double stands for, where that is the integer's only
double: no fraction, a magnitude below `2 ^ 53`, and not the negative zero. -/
def integral? (x : Double) : Option Int64 :=
  if x.isFinite && x.isWhole && decide (x.truncNat < 2 ^ 53) && !(x.isNegative && x.isZero) then
    some x.toInt64
  else none

end Double

end QueryShell
