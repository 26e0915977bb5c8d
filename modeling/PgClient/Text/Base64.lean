/-
Base64 with the standard alphabet and canonical padding.

A reader refuses anything but the one spelling that the writer gives: the
padding fills the last group of four, and the bits it leaves unused are zero.
What it reports of a text with several faults is fixed by the order in which
the groups, and the symbols in a group, are looked at.
-/

import PgClient.Bytes

namespace PgClient.Base64

inductive Fault
  | invalidSymbol (offset : Nat) (byte : UInt8)
  | invalidLength (length : Nat)
  | invalidLastSymbol (offset : Nat) (byte : UInt8)
  | invalidPadding
deriving Repr, DecidableEq

def Fault.message : Fault → String
  | .invalidSymbol offset byte =>
      "Invalid symbol " ++ toString byte.toNat ++ ", offset " ++ toString offset ++ "."
  | .invalidLength length => "Invalid input length: " ++ toString length
  | .invalidLastSymbol offset byte =>
      "Invalid last symbol " ++ toString byte.toNat ++ ", offset " ++ toString offset ++ "."
  | .invalidPadding => "Invalid padding"

/-! ### The alphabet -/

def padding : UInt8 := 61

def symbol (value : Nat) : UInt8 :=
  if value < 26 then UInt8.ofNat (65 + value)
  else if value < 52 then UInt8.ofNat (71 + value)
  else if value < 62 then UInt8.ofNat (value - 4)
  else if value = 62 then 43
  else 47

def value? (byte : UInt8) : Option Nat :=
  if 65 ≤ byte && byte ≤ 90 then some (byte.toNat - 65)
  else if 97 ≤ byte && byte ≤ 122 then some (byte.toNat - 71)
  else if 48 ≤ byte && byte ≤ 57 then some (byte.toNat + 4)
  else if byte == 43 then some 62
  else if byte == 47 then some 63
  else none

theorem value?_symbol (value : Nat) (small : value < 64) : value? (symbol value) = some value := by
  have all : ∀ value : Fin 64, value? (symbol value.val) = some value.val := by decide
  exact all ⟨value, small⟩

/-! ### Writing -/

def encode : Bytes → Bytes
  | [] => []
  | [first] =>
      [symbol (first.toNat / 4), symbol (first.toNat % 4 * 16), padding, padding]
  | [first, second] =>
      [symbol (first.toNat / 4), symbol (first.toNat % 4 * 16 + second.toNat / 16),
        symbol (second.toNat % 16 * 4), padding]
  | first :: second :: third :: rest =>
      symbol (first.toNat / 4) :: symbol (first.toNat % 4 * 16 + second.toNat / 16) ::
        symbol (second.toNat % 16 * 4 + third.toNat / 64) :: symbol (third.toNat % 64) ::
        encode rest

/-! ### Reading -/

def groupBytes (first second third fourth : Nat) : Bytes :=
  [UInt8.ofNat (first * 4 + second / 16), UInt8.ofNat (second % 16 * 16 + third / 4),
    UInt8.ofNat (third % 4 * 64 + fourth)]

def valueAt (offset : Nat) (byte : UInt8) : Except Fault Nat :=
  match value? byte with
  | some value => .ok value
  | none => .error (.invalidSymbol offset byte)

/-- What the last group holds: its symbols in order, and how much padding. -/
structure Tail where
  values : List Nat := []
  last : UInt8 := 0
  fill : Nat := 0
  fillAt : Nat := 0

/-- Looks at the last group from left to right. -/
def readTail (start : Nat) (position : Nat) (tail : Tail) : Bytes → Except Fault Tail
  | [] => .ok tail
  | byte :: rest =>
      if byte = padding then
        if position < 2 then .error (.invalidSymbol (start + position) byte)
        else readTail start (position + 1)
          { tail with
            fill := tail.fill + 1
            fillAt := if tail.fill = 0 then start + position else tail.fillAt } rest
      else if 0 < tail.fill then .error (.invalidSymbol tail.fillAt padding)
      else
        match valueAt (start + position) byte with
        | .error fault => .error fault
        | .ok value =>
            readTail start (position + 1)
              { tail with values := tail.values ++ [value], last := byte } rest

/-- The bytes of the last group, which starts at `start`. -/
def tailBytes (start : Nat) (tail : Tail) : Except Fault Bytes :=
  let symbols := tail.values.length
  if symbols < 2 then .error (.invalidLength (start + symbols))
  else if symbols + tail.fill ≠ 4 then .error .invalidPadding
  else
    match tail.values with
    | [first, second] =>
        if second % 16 ≠ 0 then .error (.invalidLastSymbol (start + 1) tail.last)
        else .ok ((groupBytes first second 0 0).take 1)
    | [first, second, third] =>
        if third % 4 ≠ 0 then .error (.invalidLastSymbol (start + 2) tail.last)
        else .ok ((groupBytes first second third 0).take 2)
    | [first, second, third, fourth] => .ok (groupBytes first second third fourth)
    | _ => .error .invalidPadding

/-- Reads groups of four as long as something follows them. -/
def readGroups (start : Nat) : Bytes → Except Fault Bytes
  | [] => .ok []
  | first :: second :: third :: fourth :: next :: rest => do
      let one ← valueAt start first
      let two ← valueAt (start + 1) second
      let three ← valueAt (start + 2) third
      let four ← valueAt (start + 3) fourth
      let others ← readGroups (start + 4) (next :: rest)
      return groupBytes one two three four ++ others
  | last => do tailBytes start (← readTail start 0 {} last)

/-- A lone byte after full groups is looked at before all others. -/
def strayByte (text : Bytes) : Option Fault :=
  match text.getLast? with
  | some byte =>
      if text.length % 4 = 1 && byte != padding && (value? byte).isNone then
        some (.invalidSymbol (text.length - 1) byte)
      else none
  | none => none

def decode (text : Bytes) : Except Fault Bytes :=
  match strayByte text with
  | some fault => .error fault
  | none => readGroups 0 text

end PgClient.Base64
