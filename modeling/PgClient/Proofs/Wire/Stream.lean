/-
Frames one behind the other, and what a reader makes of a part of them.

A stream may be cut anywhere. Bytes that begin a stream give its first frame or
nothing yet, and more bytes never change what has been read already.
-/

import PgClient.Wire.Frame

namespace PgClient

namespace Bytes

private theorem take?_more {count : Nat} {bytes front rest : Bytes}
    (taken : take? count bytes = some (front, rest)) (more : Bytes) :
    take? count (bytes ++ more) = some (front, rest ++ more) := by
  obtain ⟨whole, size⟩ := take?_eq_some taken
  rw [whole, ← size, List.append_assoc]
  exact take?_append front (rest ++ more)

theorem length_of_take? {count : Nat} {bytes : Bytes} (short : take? count bytes = none) :
    bytes.length < count := by
  simp only [take?, List.splitAt_eq] at short
  split at short
  · cases short
  · rename_i other
    rw [List.length_take] at other
    omega

private theorem uint32?_more {bytes rest : Bytes} {value : UInt32}
    (read : uint32? bytes = some (value, rest)) (more : Bytes) :
    uint32? (bytes ++ more) = some (value, rest ++ more) := by
  unfold uint32? at read
  split at read
  · injection read with pair
    injection pair with sameValue sameRest
    subst sameValue sameRest
    rfl
  · contradiction

end Bytes

namespace Frame

def Fits (frame : Frame) : Prop :=
  4 + frame.body.length < 4294967296

instance (frame : Frame) : Decidable frame.Fits :=
  inferInstanceAs (Decidable (_ < _))

def stream (frames : List Frame) : Bytes :=
  frames.flatMap bytes

@[simp]
theorem stream_cons (frame : Frame) (frames : List Frame) :
    stream (frame :: frames) = frame.bytes ++ stream frames :=
  rfl

@[simp]
theorem stream_append (frames others : List Frame) :
    stream (frames ++ others) = stream frames ++ stream others :=
  List.flatMap_append

/-! ### More input -/

variable {input rest : Bytes} {frame : Frame} {fault : ProtocolFault}

theorem next_more (found : next input = .ok (some (frame, rest))) (more : Bytes) :
    next (input ++ more) = .ok (some (frame, rest ++ more)) := by
  unfold next at found
  split at found
  · cases found
  · split at found
    · cases found
    · rename_i length afterLength readLength
      split at found
      · cases found
      · rename_i enough
        split at found
        · cases found
        · rename_i taken
          cases found
          rw [List.cons_append, next, Bytes.uint32?_more readLength more]
          dsimp only
          rw [if_neg enough, Bytes.take?_more taken more]

theorem next_more_of_fault (found : next input = .error fault) (more : Bytes) :
    next (input ++ more) = .error fault := by
  unfold next at found
  split at found
  · cases found
  · split at found
    · cases found
    · rename_i length afterLength readLength
      split at found
      · rename_i tooSmall
        cases found
        rw [List.cons_append, next, Bytes.uint32?_more readLength more]
        dsimp only
        rw [if_pos tooSmall]
      · split at found
        · cases found
        · cases found

/-! ### The beginning of a stream -/

theorem next_of_prefix {frames : List Frame} (fits : ∀ frame ∈ frames, frame.Fits)
    (begins : input <+: stream frames) (found : next input = .ok (some (frame, rest))) :
    input = frame.bytes ++ rest ∧ ∃ others, frames = frame :: others ∧ rest <+: stream others := by
  obtain ⟨tail, whole⟩ := begins
  -- What is read off a part is read off the whole, where it is known to be the first frame.
  have grown := next_more found tail
  rw [whole] at grown
  cases frames with
  | nil => cases grown
  | cons first others =>
      rw [stream_cons, next_append first (fits first List.mem_cons_self)] at grown
      injection grown with pair
      injection pair with pair
      injection pair with sameFrame sameRest
      subst sameFrame
      rw [stream_cons, sameRest, ← List.append_assoc] at whole
      exact ⟨List.append_cancel_right whole, others, rfl, tail, sameRest.symm⟩

end Frame

end PgClient
