/-
Binary floating point numbers by their bits: what a pattern stands for, and the
pattern nearest to a fraction.

A finite number is `mantissa · 2 ^ exponent`. The patterns without sign are in
the order of the numbers they stand for, so rounding up past the last mantissa of
a power of two lands on the first of the next one, and past the greatest finite
number on infinity, without a case of its own.
-/

namespace PgClient

/-- How many bits of a pattern are the mantissa's, and how many the exponent's. -/
structure BinaryFormat where
  mantissaBits : Nat
  exponentBits : Nat
deriving Repr, DecidableEq

namespace BinaryFormat

def single : BinaryFormat := ⟨23, 8⟩

def double : BinaryFormat := ⟨52, 11⟩

def bias (format : BinaryFormat) : Int :=
  (Nat.pow 2 (format.exponentBits - 1) : Int) - 1

/-- The exponent of the numbers nearest to zero. -/
def leastExponent (format : BinaryFormat) : Int :=
  1 - format.bias - format.mantissaBits

def infinityBits (format : BinaryFormat) : Nat :=
  (Nat.pow 2 format.exponentBits - 1) * Nat.pow 2 format.mantissaBits

def notANumberBits (format : BinaryFormat) : Nat :=
  format.infinityBits + Nat.pow 2 (format.mantissaBits - 1)

def signBit (format : BinaryFormat) : Nat :=
  Nat.pow 2 (format.mantissaBits + format.exponentBits)

end BinaryFormat

inductive BinaryNumber
  | notANumber
  | infinite (negative : Bool)
  | finite (negative : Bool) (mantissa : Nat) (exponent : Int)
deriving Repr, DecidableEq

namespace BinaryNumber

def ofBits (format : BinaryFormat) (bits : Nat) : BinaryNumber :=
  let negative := bits / format.signBit % 2 = 1
  let field := bits / Nat.pow 2 format.mantissaBits % Nat.pow 2 format.exponentBits
  let fraction := bits % Nat.pow 2 format.mantissaBits
  if field = Nat.pow 2 format.exponentBits - 1 then
    if fraction = 0 then .infinite negative else .notANumber
  else if field = 0 then .finite negative fraction format.leastExponent
  else
    .finite negative (fraction + Nat.pow 2 format.mantissaBits)
      (format.leastExponent + (field - 1 : Nat))

end BinaryNumber

structure Ratio where
  numerator : Nat
  denominator : Nat
deriving Repr, DecidableEq

namespace Ratio

def scaled (number base : Nat) (exponent : Int) : Ratio :=
  if 0 ≤ exponent then ⟨number * Nat.pow base exponent.toNat, 1⟩
  else ⟨number, Nat.pow base (-exponent).toNat⟩

/-- The fraction in units of `base ^ exponent`. -/
def inUnits (ratio : Ratio) (base : Nat) (exponent : Int) : Ratio :=
  if 0 ≤ exponent then ⟨ratio.numerator, ratio.denominator * Nat.pow base exponent.toNat⟩
  else ⟨ratio.numerator * Nat.pow base (-exponent).toNat, ratio.denominator⟩

def floor (ratio : Ratio) : Nat :=
  ratio.numerator / ratio.denominator

/-- The nearest whole number; of two the even one. -/
def nearest (ratio : Ratio) : Nat :=
  let low := ratio.floor
  let twice := 2 * (ratio.numerator % ratio.denominator)
  if twice < ratio.denominator then low
  else if ratio.denominator < twice then low + 1
  else if low % 2 = 0 then low
  else low + 1

/-- The greatest exponent whose power of two does not exceed the fraction. -/
def floorLog2 (ratio : Ratio) : Int :=
  let guess : Int := (ratio.numerator.log2 : Int) - ratio.denominator.log2
  let rest := ratio.inUnits 2 guess
  if rest.numerator < rest.denominator then guess - 1 else guess

end Ratio

namespace BinaryFormat

/-- The pattern, less its sign, of the number nearest to a fraction. -/
def round (format : BinaryFormat) (ratio : Ratio) : Nat :=
  if ratio.numerator = 0 then 0
  else
    let exponent := max (ratio.floorLog2 - format.mantissaBits) format.leastExponent
    let mantissa := (ratio.inUnits 2 exponent).nearest
    let binade := (exponent - format.leastExponent).toNat
    let bits := mantissa + binade * Nat.pow 2 format.mantissaBits
    min bits format.infinityBits

end BinaryFormat

end PgClient
