/-
What a server has to say, as it arrives.

A server that says some bytes and then no more may say them in any pieces, with nothing
to be read for a while between two of them. Waiting for a message comes to the same
whatever the pieces are: it ends with the first message of the bytes, or with the reason
for which they do not begin with one.
-/

import PgClient.Conn.Startup
import PgClient.Proofs.Conn.Traffic
import PgClient.Proofs.Wire.Stream

namespace PgClient

/-! ### What a message was read from -/

theorem Frame.next_eq_some {input rest : Bytes} {frame : Frame}
    (found : next input = .ok (some (frame, rest))) :
    input = frame.bytes ++ rest ∧ frame.Fits := by
  unfold next at found
  split at found
  · cases found
  · split at found
    · cases found
    · rename_i length afterLength readLength
      split at found
      · cases found
      · rename_i enough
        split at found
        · cases found
        · rename_i body after taken
          cases found
          obtain ⟨whole, size⟩ := Bytes.take?_eq_some taken
          have bound := length.toNat_lt
          have counted : UInt32.ofNat (4 + body.length) = length := by
            apply UInt32.toNat_inj.mp
            rw [UInt32.toNat_ofNat', size]
            omega
          refine ⟨?_, by unfold Fits; dsimp only; omega⟩
          rw [Bytes.uint32?_eq_some readLength, whole, bytes, counted, List.cons_append,
            List.append_assoc]

namespace Link

inductive Brings : List Arrival → Bytes → Prop
  | ended (later : List Arrival) : Brings (.data [] :: later) []
  | blocked {later : List Arrival} {stream : Bytes} (brings : Brings later stream) :
      Brings (.blocked :: later) stream
  | piece {bytes : Bytes} {later : List Arrival} {stream : Bytes} (some : bytes ≠ [])
      (brings : Brings later stream) : Brings (.data bytes :: later) (bytes ++ stream)

end Link

namespace Conn

open Link (Brings)

variable {inbox rest : Bytes} {arrivals later : List Arrival} {frame : Frame}

/-- What was received is the message that the bytes begin with, and what follows it is
kept or still to come. Without a message, it is the reason why there is none. -/
def Received.IsFirstOf (input : Bytes) (received : Received) : Prop :=
  match Frame.next input with
  | .error fault => received.receipt = .malformed fault
  | .ok none => received.receipt = .failed .serverClosed
  | .ok (some (frame, rest)) =>
      received.receipt = .frame frame ∧
        ∃ further, Brings received.arrivals further ∧ received.inbox ++ further = rest

private theorem awaitFrame_of_fault {fault : ProtocolFault}
    (found : Frame.next inbox = .error fault) (arrivals : List Arrival) :
    awaitFrame inbox arrivals = ⟨.malformed fault, inbox, arrivals⟩ := by
  unfold awaitFrame
  rw [found]

private theorem awaitFrame_of_frame (found : Frame.next inbox = .ok (some (frame, rest)))
    (arrivals : List Arrival) : awaitFrame inbox arrivals = ⟨.frame frame, rest, arrivals⟩ := by
  unfold awaitFrame
  rw [found]

/-- What has been read may tell already what comes first. -/
theorem awaitFrame_decided {stream : Bytes} (brings : Brings arrivals stream)
    (decided : Frame.next inbox ≠ .ok none) :
    (awaitFrame inbox arrivals).IsFirstOf (inbox ++ stream) := by
  unfold Received.IsFirstOf
  cases found : Frame.next inbox with
  | error fault => rw [Frame.next_more_of_fault found, awaitFrame_of_fault found]
  | ok first =>
      cases first with
      | none => exact absurd found decided
      | some first =>
          obtain ⟨frame, rest⟩ := first
          rw [Frame.next_more found, awaitFrame_of_frame found]
          exact ⟨rfl, stream, brings, rfl⟩

theorem awaitFrame_brings {stream : Bytes} (brings : Brings arrivals stream) (inbox : Bytes) :
    (awaitFrame inbox arrivals).IsFirstOf (inbox ++ stream) := by
  induction brings generalizing inbox with
  | ended later =>
      by_cases undecided : Frame.next inbox = .ok none
      · unfold awaitFrame Received.IsFirstOf
        rw [List.append_nil, undecided]
      · exact awaitFrame_decided (.ended later) undecided
  | blocked brings ih =>
      by_cases undecided : Frame.next inbox = .ok none
      · unfold awaitFrame
        rw [undecided]
        exact ih inbox
      · exact awaitFrame_decided (.blocked brings) undecided
  | @piece bytes later stream some brings ih =>
      by_cases undecided : Frame.next inbox = .ok none
      · unfold awaitFrame
        rw [undecided, ← List.append_assoc]
        cases bytes with
        | nil => exact absurd rfl some
        | cons byte bytes => exact ih (inbox ++ byte :: bytes)
      · exact awaitFrame_decided (.piece some brings) undecided

/-- A message that was received is taken off the front of what there is to read, and no
byte is lost, wherever the reading ends. -/
theorem awaitFrame_carried
    (received : awaitFrame inbox arrivals = ⟨.frame frame, rest, later⟩) :
    inbox ++ Link.carried arrivals = frame.bytes ++ (rest ++ Link.carried later) ∧
      frame.Fits := by
  fun_induction awaitFrame inbox arrivals with
  | case1 => cases received
  | case2 inbox arrivals first after found =>
      cases received
      obtain ⟨whole, fits⟩ := Frame.next_eq_some found
      refine ⟨?_, fits⟩
      rw [whole, List.append_assoc]
  | case3 => cases received
  | case4 inbox partly arrivals ih => exact ih received
  | case5 => cases received
  | case6 => cases received
  | case7 inbox partly bytes arrivals some ih =>
      obtain ⟨whole, fits⟩ := ih received
      refine ⟨?_, fits⟩
      rw [← whole, Link.carried, List.append_assoc]

end Conn

end PgClient
