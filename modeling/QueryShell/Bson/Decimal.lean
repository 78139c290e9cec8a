import QueryShell.Number.Decimal

/-!
# Decimal floating-point numbers

A decimal of the document store is kept in 128 bits: a sign, an exponent of
fourteen bits and the digits as a binary integer. `Decimal128.bits` is that
word, and `Decimal128.bytes` lists its bytes from the least significant on, in
the order in which they are stored. What is not a finite number is told by the
bits after the sign.
-/

namespace QueryShell

inductive Decimal128 where
  | notANumber (negative : Bool)
  | infinite (negative : Bool)
  | finite (negative : Bool) (value : Decimal)
deriving DecidableEq, Repr

namespace Decimal128

/-- The number that a text without a sign stands for. -/
def ofMagnitude? (negative : Bool) (cs : List Char) : Option Decimal128 :=
  if cs = "NaN".toList then some (notANumber negative)
  else if cs = "Infinity".toList then some (infinite negative)
  else (Numeral.decimal? cs).map (finite negative)

/-- The number that a text stands for. -/
def ofText? : List Char → Option Decimal128
  | '-' :: cs => ofMagnitude? true cs
  | cs => ofMagnitude? false cs

/-- The amount that is added to an exponent in storage. -/
def exponentBias : Int := 6176

/-- The word of 128 bits. -/
def bits (d : Decimal128) : Nat :=
  let (negative, magnitude) :=
    match d with
    | notANumber negative => (negative, 0x7c * 2 ^ 120)
    | infinite negative => (negative, 0x78 * 2 ^ 120)
    | finite negative v => (negative, (v.exponent + exponentBias).toNat * 2 ^ 113 + v.digits)
  (if negative then 2 ^ 127 else 0) + magnitude

/-- The first `width` bytes of a number, from the least significant on. -/
def littleEndian : Nat → Nat → List UInt8
  | 0, _ => []
  | width + 1, n => UInt8.ofNat (n % 256) :: littleEndian width (n / 256)

/-- The bytes in storage. -/
def bytes (d : Decimal128) : List UInt8 :=
  littleEndian 16 d.bits

@[simp] theorem length_littleEndian (width n : Nat) : (littleEndian width n).length = width := by
  induction width generalizing n with
  | zero => rfl
  | succ width ih => simp [littleEndian, ih]

end Decimal128

end QueryShell
