/-
The shortest decimal that reads back as a given binary number.

Every decimal between the middles to the two neighbours reads back as the number
itself, the middles included when its mantissa is even. Of the decimals with one
digit, then two, and so on, the first that lie in that interval are taken, and of
those the nearest. On one grid of decimals only the two beside the number need to
be looked at: if any point of the grid lies in the interval, one of these does.
-/

import PgClient.Number.Binary

namespace PgClient.Shortest

/-- A decimal `digits · 10 ^ exponent`. -/
structure Decimal where
  digits : Nat
  exponent : Int
deriving Repr, DecidableEq

/-- The numbers that read back as one binary number, in quarters of its last
place: the least, the number itself and the greatest. -/
structure Interval where
  low : Nat
  middle : Nat
  high : Nat
  /-- Whether the ends read back too. -/
  closed : Bool
  /-- A quarter of the last place is `2 ^ exponent`. -/
  exponent : Int

def intervalOf (format : BinaryFormat) (mantissa : Nat) (exponent : Int) : Interval :=
  { low :=
      if mantissa = Nat.pow 2 format.mantissaBits ∧ format.leastExponent < exponent then
        4 * mantissa - 1
      else 4 * mantissa - 2
    middle := 4 * mantissa
    high := 4 * mantissa + 2
    closed := mantissa % 2 = 0
    exponent := exponent - 2 }

def Interval.measure (interval : Interval) (decimal : Decimal) : Ratio :=
  (Ratio.scaled decimal.digits 10 decimal.exponent).inUnits 2 interval.exponent

def Interval.holds (interval : Interval) (decimal : Decimal) : Bool :=
  let place := interval.measure decimal
  if interval.closed then
    interval.low * place.denominator ≤ place.numerator &&
      place.numerator ≤ interval.high * place.denominator
  else
    interval.low * place.denominator < place.numerator &&
      place.numerator < interval.high * place.denominator

/-- How far a decimal is from the number, over the denominator of its measure. -/
def Interval.distance (interval : Interval) (decimal : Decimal) : Ratio :=
  let place := interval.measure decimal
  let own := interval.middle * place.denominator
  ⟨max own place.numerator - min own place.numerator, place.denominator⟩

def Interval.nearer (interval : Interval) (below above : Decimal) : Decimal :=
  let down := interval.distance below
  let up := interval.distance above
  if down.numerator * up.denominator < up.numerator * down.denominator then below else above

/-- The decimal on one grid that reads back, if there is one. -/
def Interval.onGrid (interval : Interval) (exponent : Int) : Option Decimal :=
  let number := Ratio.scaled interval.middle 2 interval.exponent
  let digits := (number.inUnits 10 exponent).floor
  let below : Decimal := ⟨digits, exponent⟩
  let above : Decimal := ⟨digits + 1, exponent⟩
  match interval.holds below, interval.holds above with
  | true, true => some (interval.nearer below above)
  | true, false => some below
  | false, true => some above
  | false, false => none

/-- The power of ten of the first digit, searched upwards from a guess below it. -/
def leadingExponent (number : Ratio) : Nat → Int → Int
  | 0, guess => guess
  | fuel + 1, guess =>
      let next := number.inUnits 10 (guess + 1)
      if next.denominator ≤ next.numerator then leadingExponent number fuel (guess + 1) else guess

def Interval.search (interval : Interval) : Nat → Int → Decimal
  | 0, exponent =>
      let number := Ratio.scaled interval.middle 2 interval.exponent
      ⟨(number.inUnits 10 exponent).nearest, exponent⟩
  | fuel + 1, exponent =>
      match interval.onGrid exponent with
      | some decimal => decimal
      | none => interval.search fuel (exponent - 1)

def Decimal.trim (decimal : Decimal) : Nat → Decimal
  | 0 => decimal
  | fuel + 1 =>
      if decimal.digits % 10 = 0 ∧ decimal.digits ≠ 0 then
        Decimal.trim ⟨decimal.digits / 10, decimal.exponent + 1⟩ fuel
      else decimal

/-- The shortest decimal of a number that is not zero. Seventeen digits tell any two
numbers of the formats in use apart. -/
def shortest (format : BinaryFormat) (mantissa : Nat) (exponent : Int) : Decimal :=
  let number := Ratio.scaled mantissa 2 exponent
  let guess := number.floorLog2 * 30103 / 100000 - 2
  let leading := leadingExponent number 6 guess
  ((intervalOf format mantissa exponent).search 20 leading).trim 20

def Decimal.positional (decimal : Decimal) : String :=
  let digits := Nat.toDigits 10 decimal.digits
  if 0 ≤ decimal.exponent then
    String.ofList (digits ++ List.replicate decimal.exponent.toNat '0')
  else
    let places := (-decimal.exponent).toNat
    if places < digits.length then
      String.ofList (digits.take (digits.length - places) ++ '.' ::
        digits.drop (digits.length - places))
    else
      String.ofList ('0' :: '.' :: List.replicate (places - digits.length) '0' ++ digits)

/-- How the numbers that no decimal stands for are spelt. -/
structure Spelling where
  notANumber : String
  infinity : String
deriving Repr

/-- The text of a binary number: the shortest decimal, and a minus sign also for
the zero that has one. -/
def write (spelling : Spelling) (format : BinaryFormat) (bits : Nat) : String :=
  let signed (negative : Bool) (text : String) := if negative then "-" ++ text else text
  match BinaryNumber.ofBits format bits with
  | .notANumber => spelling.notANumber
  | .infinite negative => signed negative spelling.infinity
  | .finite negative 0 _ => signed negative "0"
  | .finite negative mantissa exponent =>
      signed negative (shortest format mantissa exponent).positional

end PgClient.Shortest
