/-
Frames: the stream of a session as messages of a known length.

A frame is a byte for the kind of message, a length that counts itself and the
body, and the body.
-/

import PgClient.Bytes
import PgClient.Wire.Fault

namespace PgClient

structure Frame where
  first : UInt8
  body : Bytes
deriving Repr, DecidableEq

namespace Frame

/-- The kind and the length come before the body. -/
def headLength : Nat := 5

def bytes (frame : Frame) : Bytes :=
  frame.first :: (Bytes.ofUInt32 (UInt32.ofNat (4 + frame.body.length)) ++ frame.body)

/-- The first frame and what follows it, or nothing when it is not complete yet. -/
def next (input : Bytes) : Except ProtocolFault (Option (Frame × Bytes)) :=
  match input with
  | [] => .ok none
  | first :: afterFirst =>
      match Bytes.uint32? afterFirst with
      | none => .ok none
      | some (length, afterLength) =>
          if length.toNat < 4 then .error (.malformed .lengthTooSmall)
          else
            match Bytes.take? (length.toNat - 4) afterLength with
            | none => .ok none
            | some (body, rest) => .ok (some ({ first, body }, rest))

theorem next_append (frame : Frame) (fits : 4 + frame.body.length < 4294967296) (rest : Bytes) :
    next (frame.bytes ++ rest) = .ok (some (frame, rest)) := by
  have length : (UInt32.ofNat (4 + frame.body.length)).toNat = 4 + frame.body.length := by
    rw [UInt32.toNat_ofNat']
    omega
  simp only [bytes, List.cons_append, List.append_assoc, next, Bytes.uint32?_ofUInt32, length]
  rw [if_neg (by omega), Nat.add_sub_cancel_left, Bytes.take?_append]

/-- A frame takes at least its head off the input. -/
theorem next_length {input rest : Bytes} {frame : Frame}
    (read : next input = .ok (some (frame, rest))) :
    rest.length + headLength + frame.body.length = input.length := by
  unfold next at read
  split at read
  · injection read with impossible
    contradiction
  · rename_i first afterFirst
    split at read
    · injection read with impossible
      contradiction
    · rename_i length afterLength readLength
      split at read
      · contradiction
      · split at read
        · injection read with impossible
          contradiction
        · rename_i body after taken
          injection read with pair
          injection pair with pair
          injection pair with sameFrame sameRest
          subst sameFrame sameRest
          obtain ⟨whole, _⟩ := Bytes.take?_eq_some taken
          have header : afterFirst.length = afterLength.length + 4 := by
            unfold Bytes.uint32? at readLength
            split at readLength
            · injection readLength with pair
              injection pair with _ same
              subst same
              simp
            · contradiction
          rw [List.length_cons, header, whole, List.length_append]
          simp only [headLength]
          omega

end Frame

end PgClient
