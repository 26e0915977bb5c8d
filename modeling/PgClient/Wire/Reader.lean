/-
Reading the fields of a message body one after the other.

Each reader takes its field from the front and hands back what follows it, or
says why it cannot.
-/

import PgClient.Text.Utf8
import PgClient.Wire.Fault

namespace PgClient.Reader

def byte (bytes : Bytes) : Except ProtocolFault (UInt8 × Bytes) :=
  match bytes with
  | [] => .error (.malformed .bodyTooShort)
  | first :: rest => .ok (first, rest)

def uint16 (bytes : Bytes) : Except ProtocolFault (UInt16 × Bytes) :=
  match Bytes.uint16? bytes with
  | none => .error (.malformed .bodyTooShort)
  | some read => .ok read

def uint32 (bytes : Bytes) : Except ProtocolFault (UInt32 × Bytes) :=
  match Bytes.uint32? bytes with
  | none => .error (.malformed .bodyTooShort)
  | some read => .ok read

def zeroEnded (bytes : Bytes) : Except ProtocolFault (Bytes × Bytes) :=
  match Bytes.untilZero? bytes with
  | none => .error (.malformed .notTerminated)
  | some read => .ok read

def text (bytes : Bytes) : Except ProtocolFault (String × Bytes) :=
  match Bytes.untilZero? bytes with
  | none => .error (.malformed .notTerminated)
  | some (front, rest) =>
      match Utf8.decode front with
      | .error _ => .error (.malformed .notUtf8)
      | .ok text => .ok (text, rest)

theorem text_append (value : String) (noZero : 0 ∉ Utf8.encode value) (rest : Bytes) :
    text (Bytes.endedByZero (Utf8.encode value) ++ rest) = .ok (value, rest) := by
  simp [text, Bytes.untilZero?_endedByZero noZero, Utf8.decode_encode]

/-- A reader of a text uses up at least the zero byte. -/
theorem text_length {bytes rest : Bytes} {value : String}
    (read : text bytes = .ok (value, rest)) : rest.length < bytes.length := by
  unfold text at read
  split at read
  · contradiction
  · rename_i front after found
    split at read
    · contradiction
    · injection read with pair
      injection pair with _ same
      subst same
      obtain ⟨whole, _⟩ := Bytes.untilZero?_eq_some found
      rw [whole, List.length_append, List.length_cons]
      omega

end PgClient.Reader
