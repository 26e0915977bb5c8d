/-
Binary floating point numbers read from text.

A text is an optional sign and then either a word for infinity or for no number,
in any case, or digits with at most one point and an optional exponent. There is
a digit beside the point, and one in an exponent. The result is the number
nearest to the decimal; an exponent beyond all that can be held counts no
further digits.
-/

import PgClient.Number.Binary

namespace PgClient.Reading

/-- A decimal as it was written: `digits · 10 ^ exponent`. -/
structure Written where
  digits : Nat
  exponent : Int
deriving Repr, DecidableEq

def digitsValue (digits : List Char) (sofar : Nat) : Nat :=
  digits.foldl (fun value char => value * 10 + (char.toNat - '0'.toNat)) sofar

/-- The size of an exponent, which stops growing when nothing can hold it. -/
def exponentSize (digits : List Char) : Nat :=
  digits.foldl
    (fun value char => if value < 65536 then value * 10 + (char.toNat - '0'.toNat) else value) 0

/-- The exponent that ends a number: none at all, or a letter, a sign and digits. -/
def exponent? : List Char → Option Int
  | [] => some 0
  | letter :: rest =>
      if letter != 'e' && letter != 'E' then none
      else
        let (negative, digits) :=
          match rest with
          | '-' :: digits => (true, digits)
          | '+' :: digits => (false, digits)
          | digits => (false, digits)
        if digits.isEmpty || !digits.all Char.isDigit then none
        else
          let size : Int := exponentSize digits
          some (if negative then -size else size)

def decimal? (text : List Char) : Option Written :=
  let whole := text.takeWhile Char.isDigit
  let afterWhole := text.dropWhile Char.isDigit
  let (fraction, afterFraction) :=
    match afterWhole with
    | '.' :: rest => (rest.takeWhile Char.isDigit, rest.dropWhile Char.isDigit)
    | _ => ([], afterWhole)
  if whole.isEmpty && fraction.isEmpty then none
  else
    (exponent? afterFraction).map fun exponent =>
      { digits := digitsValue fraction (digitsValue whole 0)
        exponent := exponent - fraction.length }

/-- Decimals whose first digit stands this far from the point are infinite, or
nothing, in every format in use. -/
def reach : Int := 400

def Written.bits (format : BinaryFormat) (written : Written) : Nat :=
  if written.digits = 0 then 0
  else
    let leading : Int := written.digits.log2 * 30103 / 100000 + written.exponent
    if reach < leading then format.infinityBits
    else if leading < -reach then 0
    else format.round (Ratio.scaled written.digits 10 written.exponent)

/-- The pattern of a number without its sign. -/
def magnitude? (format : BinaryFormat) (text : List Char) : Option Nat :=
  let word := text.map Char.toLower
  if word = "inf".toList || word = "infinity".toList then some format.infinityBits
  else if word = "nan".toList then some format.notANumberBits
  else (decimal? text).map (Written.bits format)

def read? (format : BinaryFormat) (text : List Char) : Option Nat :=
  match text with
  | '-' :: rest => (magnitude? format rest).map (· + format.signBit)
  | '+' :: rest => magnitude? format rest
  | rest => magnitude? format rest

end PgClient.Reading
