/-
Taking messages off the input, one equation for each way in which it can go on.

The loop looks at the front of the input: no whole message is there yet, or there never
can be one, or there is one that the session takes in or cannot take in. Along a stream of
frames it takes in one frame after the other, and stops within the first that is cut.
-/

import PgClient.Conn.Input
import PgClient.Proofs.Wire.Stream

namespace PgClient.Conn

variable {input rest : Bytes} {conn after : Conn} {frame : Frame} {fault : ProtocolFault}

theorem parse_of_partial (found : Frame.next input = .ok none) :
    conn.parse input = (.ok (), { conn with inbox := input }) := by
  rw [parse]
  split
  · rename_i same
    rw [found] at same
    cases same
  · rfl
  · rename_i same
    rw [found] at same
    cases same

theorem parse_of_fault (found : Frame.next input = .error fault) :
    conn.parse input = (.error fault, { conn with inbox := input, broken := true }) := by
  rw [parse]
  split
  · rename_i same
    rw [found] at same
    cases same
    rfl
  · rename_i same
    rw [found] at same
    cases same
  · rename_i same
    rw [found] at same
    cases same

theorem parse_of_refused (found : Frame.next input = .ok (some (frame, rest)))
    (refused : conn.handleFrame frame = .error fault) :
    conn.parse input = (.error fault, { conn with inbox := rest, broken := true }) := by
  rw [parse]
  split
  · rename_i same
    rw [found] at same
    cases same
  · rename_i same
    rw [found] at same
    cases same
  · rename_i same
    rw [found] at same
    cases same
    rw [refused]

theorem parse_of_taken (found : Frame.next input = .ok (some (frame, rest)))
    (taken : conn.handleFrame frame = .ok after) :
    conn.parse input = after.parse rest := by
  rw [parse]
  split
  · rename_i same
    rw [found] at same
    cases same
  · rename_i same
    rw [found] at same
    cases same
  · rename_i same
    rw [found] at same
    cases same
    rw [taken]

/-! ### Along a stream -/

def takeAll : List Frame → Conn → Except ProtocolFault Conn
  | [], conn => .ok conn
  | frame :: frames, conn =>
      match conn.handleFrame frame with
      | .error fault => .error fault
      | .ok conn => conn.takeAll frames

theorem takeAll_cons_ok {frames : List Frame}
    (taken : conn.takeAll (frame :: frames) = .ok after) :
    ∃ next, conn.handleFrame frame = .ok next ∧ next.takeAll frames = .ok after := by
  unfold takeAll at taken
  split at taken
  · cases taken
  · rename_i next first
    exact ⟨next, first, taken⟩

/-- A stream of frames that can be taken in is taken in, and what follows it is left. -/
theorem parse_stream {frames : List Frame} (fits : ∀ frame ∈ frames, frame.Fits)
    (taken : conn.takeAll frames = .ok after) :
    conn.parse (Frame.stream frames ++ rest) = after.parse rest := by
  induction frames generalizing conn with
  | nil =>
      cases taken
      rfl
  | cons frame frames ih =>
      obtain ⟨next, first, others⟩ := takeAll_cons_ok taken
      have found := Frame.next_append frame (fits frame List.mem_cons_self)
        (Frame.stream frames ++ rest)
      rw [Frame.stream_cons, List.append_assoc, parse_of_taken found first]
      exact ih (fun other member => fits other (List.mem_cons_of_mem _ member)) others

/-- Input that begins a stream is taken in as far as it holds whole frames. -/
theorem parse_of_prefix {frames : List Frame} (fits : ∀ frame ∈ frames, frame.Fits)
    (begins : input <+: Frame.stream frames) (parsed : conn.parse input = (.ok (), after)) :
    ∃ taken left handled, frames = taken ++ left ∧ input = Frame.stream taken ++ after.inbox ∧
      after.inbox <+: Frame.stream left ∧ conn.takeAll taken = .ok handled ∧
      after = { handled with inbox := after.inbox } := by
  induction input, conn using parse.induct generalizing frames with
  | case1 input conn fault found =>
      rw [parse_of_fault found] at parsed
      cases parsed
  | case2 input conn found =>
      rw [parse_of_partial found] at parsed
      cases parsed
      exact ⟨[], frames, conn, rfl, rfl, begins, rfl, rfl⟩
  | case3 input conn frame rest found fault refused =>
      rw [parse_of_refused found refused] at parsed
      cases parsed
  | case4 input conn frame rest found next first _ ih =>
      rw [parse_of_taken found first] at parsed
      obtain ⟨whole, others, rfl, onward⟩ := Frame.next_of_prefix fits begins found
      have othersFit : ∀ frame ∈ others, frame.Fits := by
        intro frame member
        exact fits frame (List.mem_cons_of_mem _ member)
      obtain ⟨taken, left, handled, split, consumed, cut, all, same⟩ :=
        ih othersFit onward parsed
      refine ⟨frame :: taken, left, handled, ?_, ?_, cut, ?_, same⟩
      · rw [split, List.cons_append]
      · rw [whole, consumed, Frame.stream_cons, List.append_assoc]
      · rw [takeAll, first]
        exact all

end PgClient.Conn
