import QueryShell.Number.Double

/-!
# Decimal texts of doubles

The text of a double is made in two steps. `Double.shortest` selects the digits:
the fewest that read back to the same double, and of those the nearest to it.
`Decimal.positional` and `Decimal.scientific` then lay the digits out. What a
text format decides for itself, which way a tie between two equally near
candidates goes and where positional writing ends, is a parameter.

The other way round, `Numeral.decimal?` reads an unsigned decimal numeral, and
`Double.ofNumeral?` takes the double nearest to it.
-/

namespace QueryShell

/-- The value `digits * 10 ^ exponent`. -/
structure Decimal where
  digits : Nat
  exponent : Int
deriving DecidableEq, Repr

/-- What to do when two candidates are equally near. -/
inductive Tie where
  /-- Take the one that ends in an even digit. -/
  | toEven
  /-- Take the larger one. -/
  | up
deriving DecidableEq, Repr

namespace Decimal

/-- Moves the zeros at the end of the digits into the exponent; `fuel` bounds
their number. -/
def strip : Nat → Decimal → Decimal
  | 0, d => d
  | fuel + 1, d =>
    if d.digits % 10 = 0 && d.digits != 0 then strip fuel ⟨d.digits / 10, d.exponent + 1⟩ else d

end Decimal

namespace Double

/-- Whether a decimal reads back to the magnitude of `x`. -/
def readsBack (x : Double) (d : Decimal) : Bool :=
  decide (ofDecimal false d.digits d.exponent = ofMagnitude false (x.bits.toNat % 2 ^ 63))

/-- The least `k` with magnitude below `10 ^ k`, for a finite nonzero double.
The estimate from the binary logarithm is never too large and at most one too
small. -/
def decimalPoint (x : Double) : Int :=
  let b : Int := (x.significand.log2 : Int) + x.scale
  let k := Int.fdiv (b * 30103) 100000
  let below (k : Int) : Bool :=
    decide (x.significand * 2 ^ x.scale.toNat * 10 ^ (-k).toNat <
      10 ^ k.toNat * 2 ^ (-x.scale).toNat)
  if below k then k else if below (k + 1) then k + 1 else k + 2

/-- The decimal with `n` digits that reads back to `x` and is nearest to it, if
there is one. On the grid of `n` digits only the two neighbours of `x` come into
question. -/
def withDigits? (tie : Tie) (x : Double) (n : Nat) : Option Decimal :=
  let g := x.decimalPoint - n
  let num := x.significand * 2 ^ x.scale.toNat * 10 ^ (-g).toNat
  let den := 10 ^ g.toNat * 2 ^ (-x.scale).toNat
  let lo : Decimal := ⟨num / den, g⟩
  let hi : Decimal := ⟨num / den + 1, g⟩
  match x.readsBack lo, x.readsBack hi with
  | true, true =>
    match compare (2 * num) ((2 * lo.digits + 1) * den), tie with
    | .lt, _ => some lo
    | .gt, _ => some hi
    | .eq, .up => some hi
    | .eq, .toEven => some (if lo.digits % 2 = 0 then lo else hi)
  | true, false => some lo
  | false, true => some hi
  | false, false => none

/-- The exact decimal value of a finite double. -/
def exactDecimal (x : Double) : Decimal :=
  ⟨x.significand * 2 ^ x.scale.toNat * 5 ^ (-x.scale).toNat, -((-x.scale).toNat : Int)⟩

/-- The fewest digits that read back to the magnitude of a finite double, and of
those the nearest to it. The exact value stands by for a double that no
seventeen digits read back to. -/
def shortest (tie : Tie) (x : Double) : Decimal :=
  if x.isZero then ⟨0, 0⟩
  else
    let d := ((List.range 17).findSome? fun n => x.withDigits? tie (n + 1)).getD x.exactDecimal
    d.strip 400

end Double

namespace Decimal

/-- The digits from the most significant on. -/
def chars (d : Decimal) : List Char :=
  Nat.toDigits 10 d.digits

/-- Writes a decimal without an exponent. An integer gets `.0` if `pointZero`
says so. -/
def positional (pointZero : Bool) (d : Decimal) : List Char :=
  if 0 ≤ d.exponent then
    d.chars ++ List.replicate d.exponent.toNat '0' ++ (if pointZero then ['.', '0'] else [])
  else
    let places := (-d.exponent).toNat
    if places < d.chars.length then
      d.chars.take (d.chars.length - places) ++ '.' :: d.chars.drop (d.chars.length - places)
    else
      '0' :: '.' :: List.replicate (places - d.chars.length) '0' ++ d.chars

/-- The power of ten of the leading digit. -/
def leading (d : Decimal) : Int :=
  d.exponent + d.chars.length - 1

/-- Writes a decimal with one digit before the point and a signed exponent. -/
def scientific (d : Decimal) : List Char :=
  let mantissa :=
    match d.chars with
    | [] => []
    | [c] => [c]
    | c :: cs => c :: '.' :: cs
  let e := d.leading
  mantissa ++ 'e' :: (if e < 0 then '-' else '+') :: Nat.toDigits 10 e.natAbs

end Decimal

namespace Double

private def signed (x : Double) (magnitude : List Char) : List Char :=
  if x.isNegative then '-' :: magnitude else magnitude

/-- The plain text of a double: its shortest digits without an exponent, ties
upwards, integers without a point, and names for the values that are not
finite. -/
def plain (x : Double) : List Char :=
  if x.isNaN then ['N', 'a', 'N']
  else if !x.isFinite then x.signed ['i', 'n', 'f']
  else x.signed ((x.shortest .up).positional false)

/-- The numeral of a finite double in a JSON text: its shortest digits, ties to
even, positional while the leading digit stands for a power of ten from
`10 ^ -5` to `10 ^ 15`, with a point in any case. -/
def jsonNumeral (x : Double) : List Char :=
  let d := x.shortest .toEven
  x.signed (if x.isZero || (-5 ≤ d.leading && d.leading < 16) then d.positional true
    else d.scientific)

/-- Rounds the magnitude of a finite double to `places` decimal places, a tie of
the exact value going to the even neighbour, and writes all places. -/
def fixed (places : Nat) (x : Double) : List Char :=
  let n := roundDiv (x.significand * 2 ^ x.scale.toNat * 10 ^ places) (2 ^ (-x.scale).toNat)
  let ds := Nat.toDigits 10 n
  let padded := List.replicate (places + 1 - ds.length) '0' ++ ds
  let whole := padded.take (padded.length - places)
  x.signed (if places = 0 then whole else whole ++ '.' :: padded.drop (padded.length - places))

end Double

/-! ## Reading numerals -/

namespace Numeral

/-- The value of a run of decimal digits. -/
def value (ds : List Char) : Nat :=
  Nat.ofDigitChars 10 ds 0

/-- Reads the exponent part of a numeral, which may be missing. -/
def exponent? : List Char → Option Int
  | [] => some 0
  | e :: rest =>
    if e = 'e' ∨ e = 'E' then
      let (negative, ds) :=
        match rest with
        | '-' :: ds => (true, ds)
        | '+' :: ds => (false, ds)
        | ds => (false, ds)
      if ds.isEmpty || !ds.all Char.isDigit then none
      else some (if negative then -(value ds : Int) else value ds)
    else none

/-- The value of an unsigned decimal numeral: digits, then optionally a point
and more digits, then optionally an exponent. -/
def decimal? (text : List Char) : Option Decimal :=
  let whole := text.takeWhile Char.isDigit
  let rest := text.dropWhile Char.isDigit
  if whole.isEmpty then none
  else
    let (fraction, tail) :=
      match rest with
      | '.' :: more => (more.takeWhile Char.isDigit, more.dropWhile Char.isDigit)
      | _ => ([], rest)
    (exponent? tail).map fun e => ⟨value (whole ++ fraction), e - fraction.length⟩

end Numeral

/-- The double nearest to an unsigned decimal numeral. -/
def Double.ofNumeral? (text : List Char) : Option Double :=
  (Numeral.decimal? text).map fun d => Double.ofDecimal false d.digits d.exponent

end QueryShell
