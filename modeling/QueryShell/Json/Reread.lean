import QueryShell.Json.Basic
import QueryShell.Number.Decimal

/-!
# JSON read back

What a reader makes of the written text of a JSON value, if it rounds twice on
the way to a number: it takes the digits of a numeral as one integer, rounds
that to a double, and multiplies or divides by a power of ten, which is rounded
to a double itself. The result may be a neighbour of the number that was
written. A reader also gives up on values that are nested too deep.
-/

namespace QueryShell

namespace Double

/-- The magnitude of a finite double as a quotient of naturals. -/
def quotient (x : Double) : Nat × Nat :=
  (x.significand * 2 ^ x.scale.toNat, 2 ^ (-x.scale).toNat)

/-- The rounded product of two finite magnitudes. -/
def mulMagnitude (x y : Double) : Double :=
  ofRatio false (x.quotient.1 * y.quotient.1) (x.quotient.2 * y.quotient.2)

/-- The rounded quotient of two finite magnitudes. -/
def divMagnitude (x y : Double) : Double :=
  ofRatio false (x.quotient.1 * y.quotient.2) (x.quotient.2 * y.quotient.1)

/-- The double nearest to a power of ten. -/
def powerOfTen (n : Nat) : Double :=
  ofDecimal false 1 n

/-- Scales a magnitude by a power of ten, in one step or, for very small
results, in several. -/
def scaleRounding : (fuel : Nat) → Double → Int → Option Double
  | 0, _, _ => none
  | fuel + 1, x, e =>
    if e.natAbs ≤ 308 then
      if 0 ≤ e then
        let y := x.mulMagnitude (powerOfTen e.natAbs)
        if y.isFinite then some y else none
      else some (x.divMagnitude (powerOfTen e.natAbs))
    else if x.isZero then some x
    else if 0 ≤ e then none
    else scaleRounding fuel (x.divMagnitude (powerOfTen 308)) (e + 308)

/-- Reads `± digits * 10 ^ exponent`, rounding the digits before they are
scaled. -/
def ofDecimalRounding? (negative : Bool) (digits : Nat) (exponent : Int) : Option Double :=
  (scaleRounding 4 (ofInt digits) exponent).map fun x => if negative then x.neg else x

/-- Reads the written form of a double, rounding twice. -/
def reread? (x : Double) : Option Double :=
  let magnitude := if x.isNegative then x.jsonNumeral.drop 1 else x.jsonNumeral
  let whole := magnitude.takeWhile Char.isDigit
  let rest := magnitude.drop whole.length
  let (fraction, tail) :=
    match rest with
    | '.' :: more => (more.takeWhile Char.isDigit, more.dropWhile Char.isDigit)
    | _ => ([], rest)
  match Numeral.exponent? tail with
  | some e => ofDecimalRounding? x.isNegative (Numeral.value (whole ++ fraction)) (e - fraction.length)
  | none => none

end Double

namespace Json

/-- How many arrays and objects a reader goes down into. -/
def maxReadDepth : Nat := 127

mutual

/-- What a reader makes of the text of a value; `room` is how many levels it
still goes down. -/
def rereadWithin (room : Nat) : Json → Option Json
  | float x => x.reread?.map float
  | array items =>
    match room with
    | 0 => none
    | room + 1 => (rereadItems room items).map array
  | object members =>
    match room with
    | 0 => none
    | room + 1 => (rereadMembers room members).map object
  | x => some x

def rereadItems (room : Nat) : List Json → Option (List Json)
  | [] => some []
  | x :: xs => do
    let y ← rereadWithin room x
    let ys ← rereadItems room xs
    some (y :: ys)

def rereadMembers (room : Nat) : List (String × Json) → Option (List (String × Json))
  | [] => some []
  | (key, x) :: ms => do
    let y ← rereadWithin room x
    let ns ← rereadMembers room ms
    some ((key, y) :: ns)

end

/-- What a reader makes of the text of a value. -/
def reread? (x : Json) : Option Json :=
  rereadWithin maxReadDepth x

end Json

end QueryShell
