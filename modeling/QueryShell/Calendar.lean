import QueryShell.Number.Integer

/-!
# Dates

An instant is a number of milliseconds since the beginning of 1970. Its date is
the date of the Gregorian calendar, carried on to the years before its
introduction, with no leap seconds.
-/

namespace QueryShell

/-- A day of the calendar and a time on it. -/
structure CivilTime where
  year : Int
  month : Nat
  day : Nat
  hour : Nat
  minute : Nat
  second : Nat
  milli : Nat
deriving DecidableEq, Repr

namespace CivilTime

/-- The year, month and day that lie `days` days after the first of January
1970. Days are counted in eras of 400 years that begin on the first of March of
a year divisible by 400. -/
def dateOfDays (days : Int) : Int × Nat × Nat :=
  let z := days + 719468
  let era := z.fdiv 146097
  let dayOfEra := (z - era * 146097).toNat
  let yearOfEra :=
    (dayOfEra - dayOfEra / 1460 + dayOfEra / 36524 - dayOfEra / 146096) / 365
  let dayOfYear := dayOfEra - (365 * yearOfEra + yearOfEra / 4 - yearOfEra / 100)
  let marchMonth := (5 * dayOfYear + 2) / 153
  let day := dayOfYear - (153 * marchMonth + 2) / 5 + 1
  let month := if marchMonth < 10 then marchMonth + 3 else marchMonth - 9
  (era * 400 + yearOfEra + (if month ≤ 2 then 1 else 0), month, day)

/-- The date and time of an instant. -/
def ofMillis (millis : Int) : CivilTime :=
  let days := millis.fdiv 86400000
  let rest := (millis - days * 86400000).toNat
  let (year, month, day) := dateOfDays days
  { year, month, day
    hour := rest / 3600000, minute := rest / 60000 % 60, second := rest / 1000 % 60
    milli := rest % 1000 }

/-- The digits of a number, with zeros in front up to a width. -/
def padded (width n : Nat) : List Char :=
  let ds := decimalNat n
  List.replicate (width - ds.length) '0' ++ ds

/-- The milliseconds as a fraction of a second, without zeros at the end. -/
def fractionDigits (milli : Nat) : List Char :=
  ((padded 3 milli).reverse.dropWhile (· == '0')).reverse

/-- The date and time with a `T` between them and a `Z` behind, where the year
has four digits. -/
def isoChars? (t : CivilTime) : Option (List Char) :=
  if 0 ≤ t.year ∧ t.year ≤ 9999 then
    let fraction := fractionDigits t.milli
    some (padded 4 t.year.toNat ++ '-' :: padded 2 t.month ++ '-' :: padded 2 t.day ++
      'T' :: padded 2 t.hour ++ ':' :: padded 2 t.minute ++ ':' :: padded 2 t.second ++
      (if fraction.isEmpty then [] else '.' :: fraction) ++ ['Z'])
  else none

end CivilTime

end QueryShell
