/-
UTF-8: texts as bytes, and the place where bytes stop being a text.

A fault names the first byte that belongs to no complete character. When the
bytes from there on could still have been the start of one, only more of them
being missing, the fault has no width; otherwise its width counts the bytes
that a reader would have to skip.
-/

import PgClient.Bytes

namespace PgClient.Utf8

def encode (text : String) : Bytes :=
  text.toUTF8.data.toList

theorem encode_append (front back : String) :
    encode (front ++ back) = encode front ++ encode back := by
  simp [encode]

structure Fault where
  validUpTo : Nat
  width : Option Nat
deriving Repr, DecidableEq

def Fault.message (fault : Fault) : String :=
  match fault.width with
  | some width =>
      "invalid utf-8 sequence of " ++ toString width ++ " bytes from index " ++
        toString fault.validUpTo
  | none => "incomplete utf-8 byte sequence from index " ++ toString fault.validUpTo

/-! ### Shape of a character -/

def isContinuation (byte : UInt8) : Bool :=
  0x80 ≤ byte && byte ≤ 0xBF

/-- How many bytes follow a first byte, and which the next one may be. -/
def leadOf (first : UInt8) : Option (Nat × (UInt8 → Bool)) :=
  if first < 0x80 then some (0, isContinuation)
  else if 0xC2 ≤ first && first ≤ 0xDF then some (1, isContinuation)
  else if first == 0xE0 then some (2, fun second => 0xA0 ≤ second && second ≤ 0xBF)
  else if first == 0xED then some (2, fun second => 0x80 ≤ second && second ≤ 0x9F)
  else if 0xE1 ≤ first && first ≤ 0xEF then some (2, isContinuation)
  else if first == 0xF0 then some (3, fun second => 0x90 ≤ second && second ≤ 0xBF)
  else if first == 0xF4 then some (3, fun second => 0x80 ≤ second && second ≤ 0x8F)
  else if 0xF1 ≤ first && first ≤ 0xF3 then some (3, isContinuation)
  else none

/-- Where a reader of UTF-8 stands: how many bytes it has read as whole
characters, how many of the current one, how many that one still lacks, and
which byte may come next. -/
structure Position where
  whole : Nat := 0
  started : Nat := 0
  lacking : Nat := 0
  allowed : UInt8 → Bool := isContinuation

/-- The place and width of the first fault that a reader in `position` meets. -/
def faultFrom (position : Position) : Bytes → Option Fault
  | [] => if position.lacking = 0 then none else some ⟨position.whole, none⟩
  | byte :: rest =>
      if position.lacking = 0 then
        match leadOf byte with
        | none => some ⟨position.whole, some 1⟩
        | some (0, _) => faultFrom { whole := position.whole + 1 } rest
        | some (lacking, allowed) =>
            faultFrom { whole := position.whole, started := 1, lacking, allowed } rest
      else if position.allowed byte then
        if position.lacking = 1 then
          faultFrom { whole := position.whole + position.started + 1 } rest
        else
          faultFrom { position with
            started := position.started + 1
            lacking := position.lacking - 1
            allowed := isContinuation } rest
      else some ⟨position.whole, some position.started⟩

def decode (bytes : Bytes) : Except Fault String :=
  let packed := ByteArray.mk bytes.toArray
  if valid : packed.IsValidUTF8 then .ok (String.ofByteArray packed valid)
  else .error ((faultFrom {} bytes).getD ⟨0, some 1⟩)

theorem decode_encode (text : String) : decode (encode text) = .ok text := by
  have same : ByteArray.mk (encode text).toArray = text.toByteArray := by
    simp [encode]
  have valid : (ByteArray.mk (encode text).toArray).IsValidUTF8 := same ▸ text.isValidUTF8
  rw [decode, dif_pos valid]
  exact congrArg Except.ok (String.toByteArray_inj.mp same)

/-- Bytes that are read as a text are the bytes of that text. -/
theorem encode_of_decode {bytes : Bytes} {text : String} (read : decode bytes = .ok text) :
    encode text = bytes := by
  unfold decode at read
  dsimp only at read
  split at read
  · injection read with same
    subst same
    simp [encode]
  · contradiction

end PgClient.Utf8
