/-
Whole numbers within bounds, read from decimal digits.

A plus sign may stand in front, and a minus sign where the bounds admit a
negative number; nothing else may surround the digits. Of several faults the
first from the left wins, and a number leaves its bounds at the first digit that
takes it out of them.
-/

namespace PgClient.Integer

inductive Fault
  | empty
  | invalidDigit
  | tooLarge
  | tooSmall
deriving Repr, DecidableEq

def Fault.message : Fault → String
  | .empty => "cannot parse integer from empty string"
  | .invalidDigit => "invalid digit found in string"
  | .tooLarge => "number too large to fit in target type"
  | .tooSmall => "number too small to fit in target type"

structure Bounds where
  least : Int
  greatest : Int
deriving Repr, DecidableEq

def Bounds.signed (bits : Nat) : Bounds :=
  ⟨-(Nat.pow 2 (bits - 1)), Nat.pow 2 (bits - 1) - 1⟩

def Bounds.unsigned (bits : Nat) : Bounds :=
  ⟨0, Nat.pow 2 bits - 1⟩

def digitValue (char : Char) : Option Nat :=
  if char.isDigit then some (char.toNat - '0'.toNat) else none

/-- Appends the digits to `sofar`, away from zero in the direction of `sign`. -/
def appendDigits (bounds : Bounds) (sign : Int) : Int → List Char → Except Fault Int
  | sofar, [] => .ok sofar
  | sofar, char :: rest =>
      match digitValue char with
      | none => .error .invalidDigit
      | some digit =>
          let next := sofar * 10 + sign * digit
          if bounds.greatest < next then .error .tooLarge
          else if next < bounds.least then .error .tooSmall
          else appendDigits bounds sign next rest

def read (bounds : Bounds) (text : List Char) : Except Fault Int :=
  match text with
  | [] => .error .empty
  | ['+'] => .error .invalidDigit
  | ['-'] => .error .invalidDigit
  | '+' :: digits => appendDigits bounds 1 0 digits
  | '-' :: digits =>
      if bounds.least < 0 then appendDigits bounds (-1) 0 digits
      else .error .invalidDigit
  | digits => appendDigits bounds 1 0 digits

/-- A number that fits and is not negative. -/
def readNat (bits : Nat) (text : List Char) : Except Fault Nat :=
  (read (.unsigned bits) text).map Int.toNat

end PgClient.Integer
